import Mathlib.Data.String.Basic
import ShaderWeave.Template.Basic

/-!
# The base template filled

An engine that fills the base template leaves its literal texts as they are, with the sections between
them.
-/

namespace ShaderWeave.Template

theorem fill_base {engine : Engine} (h : engine.FillsBase) (sections : Sections) :
    (base engine).fill sections = .ok (Segment.joinFilled sections baseSegments) := h sections

theorem exists_unlines_append (before ls : List String) (h : ls ≠ []) :
    ∃ start, Text.unlines (before ++ ls) = start ++ Text.unlines ls := by
  by_cases hbefore : before = []
  · exact ⟨"", by simp [hbefore]⟩
  · exact ⟨Text.unlines before ++ "\n", String.intercalate_append_of_ne_nil hbefore h⟩

theorem exists_unlines_closing (ls : List String) (h : ls ≠ []) :
    ∃ stop, Text.unlines ("" :: "\x7d;" :: ls) = "\n\x7d;" ++ stop := by
  refine ⟨"\n" ++ Text.unlines ls, ?_⟩
  rw [← String.toList_inj, Text.toList_unlines_cons (by simp), Text.toList_unlines_cons h]
  simp

/-- A section between the lines that open a struct and those that close it becomes part of the struct. -/
theorem exists_struct_in_base {m : Marker} {before after : List Segment}
    {ls opening closing : List String}
    (h : baseSegments = before ++ [.literal (Text.unlines (ls ++ opening)), .marker m,
      .literal (Text.unlines ("" :: "\x7d;" :: closing))] ++ after)
    (hopening : opening ≠ []) (hclosing : closing ≠ []) (sections : Sections) :
    ∃ start stop, Segment.joinFilled sections baseSegments =
      start ++ (Text.unlines opening ++ sections m ++ "\n\x7d;") ++ stop := by
  obtain ⟨start, hstart⟩ := exists_unlines_append ls opening hopening
  obtain ⟨stop, hstop⟩ := exists_unlines_closing closing hclosing
  refine ⟨String.join (before.map (Segment.fill sections)) ++ start,
    stop ++ String.join (after.map (Segment.fill sections)), ?_⟩
  simp only [Segment.joinFilled, h, List.map_append, List.map_cons, List.map_nil, String.join_append,
    String.join_cons, String.join_nil, Segment.fill, hstart, hstop, String.append_assoc,
    String.append_empty]

end ShaderWeave.Template
