import ShaderWeave.Proofs.Text.Lines
import ShaderWeave.Shader.Sections

/-!
# Pieces of several features in one place

Three places of the template take a piece from every feature that has one. No line of a piece is lost, moved
before another or joined to its neighbours: the section has the lines of the pieces one after the other, each
piece under the line that names its feature, and all but the first moved in.
-/

namespace ShaderWeave.Sections

open Text

variable {piece : Feature → Option String} {features : List Feature} {parts : List String}

/-! ## Sections of pieces -/

/-- The pieces of the features that have one, without the white space around them, each after the line that
names its feature. -/
def taggedPieces (piece : Feature → Option String) (features : List Feature) : List String :=
  features.filterMap fun f => (piece f).map fun source => "// feature: " ++ f.id ++ "\n" ++ trim source

/-- All rows but the first without the four characters that were put before them. -/
def movedBack : List (List Char) → List (List Char)
  | [] => []
  | first :: rest => first :: rest.map (List.drop 4)

/-- A text that has the pieces of features one after the other. -/
structure Collates (text : String) (piece : Feature → Option String) (features : List Feature) : Prop where
  content : written (movedBack (rows text.toList)) =
    (taggedPieces piece features).flatMap fun part => written (lines part.toList)
  movedIn : ∀ row ∈ (rows text.toList).tail, row ≠ [] → "    ".toList <+: row
  /-- Each line of the joined pieces has a row in its place, which is empty if and only if the line is. -/
  blank : ∀ (i : Nat) (line : List Char), (lines (paragraphs (taggedPieces piece features)).toList)[i]? = some line →
    ∃ row : List Char, (rows text.toList)[i]? = some row ∧ (row = [] ↔ line = [])
  absent : text = "" ↔ ∀ f ∈ features, piece f = none

/-! ## Lines of joined pieces -/

theorem toList_paragraphs_cons {part : String} (h : parts ≠ []) :
    (paragraphs (part :: parts)).toList = part.toList ++ '\n' :: '\n' :: (paragraphs parts).toList := by
  obtain ⟨next, parts, rfl⟩ := List.exists_cons_of_ne_nil h
  simp [paragraphs, String.toList_intercalate]

/-- Pieces that do not stop at a carriage return are joined without touching a line of theirs. -/
theorem written_lines_paragraphs (h : ∀ part ∈ parts, Closed part.toList) :
    Closed (paragraphs parts).toList ∧ written (lines (paragraphs parts).toList) =
      parts.flatMap fun part => written (lines part.toList) := by
  induction parts with
  | nil => exact ⟨by simp [paragraphs, Closed], rfl⟩
  | cons part parts ih =>
    obtain ⟨hpart, hparts⟩ := List.forall_mem_cons.mp h
    obtain ⟨hclosed, hwritten⟩ := ih hparts
    by_cases hnil : parts = []
    · subst hnil
      simpa [paragraphs] using hpart
    · have hrest : Closed ('\n' :: (paragraphs parts).toList) := hclosed.append_lineFeed []
      rw [toList_paragraphs_cons hnil, written_lines_append hpart hrest, lines, written_nil_cons, hwritten]
      exact ⟨hrest.append_lineFeed _, rfl⟩

theorem closed_of_mem_taggedPieces {part : String} (h : part ∈ taggedPieces piece features) :
    Closed part.toList := by
  obtain ⟨f, -, hf⟩ := List.mem_filterMap.mp h
  obtain ⟨source, -, rfl⟩ := Option.map_eq_some_iff.mp hf
  have htext : ("// feature: " ++ f.id ++ "\n" ++ trim source).toList =
      ("// feature: " ++ f.id).toList ++ '\n' :: (trim source).toList := by simp
  rw [htext]
  exact (closed_trim source).append_lineFeed _

theorem taggedPieces_eq_nil_iff : taggedPieces piece features = [] ↔ ∀ f ∈ features, piece f = none := by
  simp [taggedPieces]

theorem exists_slash_of_mem {part : String} (h : part ∈ taggedPieces piece features) :
    ∃ cs, part.toList = '/' :: cs := by
  obtain ⟨f, -, hf⟩ := List.mem_filterMap.mp h
  obtain ⟨source, -, rfl⟩ := Option.map_eq_some_iff.mp hf
  exact ⟨_, by simp only [String.toList_append]; rfl⟩

/-- The first line names a feature, so it is not empty. -/
theorem exists_lines_of_ne_nil (h : taggedPieces piece features ≠ []) :
    ∃ first rest, first ≠ [] ∧
      lines (paragraphs (taggedPieces piece features)).toList = first :: rest := by
  obtain ⟨part, parts, hparts⟩ := List.exists_cons_of_ne_nil h
  obtain ⟨cs, hcs⟩ : ∃ cs, (paragraphs (part :: parts)).toList = '/' :: cs := by
    obtain ⟨cs, hcs⟩ := exists_slash_of_mem (hparts ▸ List.mem_cons_self)
    by_cases hnil : parts = []
    · exact ⟨cs, by simpa [hnil, paragraphs] using hcs⟩
    · exact ⟨_, by rw [toList_paragraphs_cons hnil, hcs, List.cons_append]⟩
  obtain ⟨line, more, hlines⟩ := exists_line_of_ne (c := '/') (by decide) (by decide) cs
  exact ⟨'/' :: line, more, List.cons_ne_nil _ _, by rw [hparts, hcs, hlines]⟩

/-! ## The three sections -/

theorem collates_empty (h : taggedPieces piece features = []) : Collates "" piece features where
  content := by
    rw [h]
    rfl
  movedIn := by simp
  blank := by simp [h, paragraphs, lines]
  absent := by simpa using taggedPieces_eq_nil_iff.mp h

theorem collates_of_lines {text : String} {first : List Char} {rest : List (List Char)}
    (hlines : lines (paragraphs (taggedPieces piece features)).toList = first :: rest)
    (hne : taggedPieces piece features ≠ []) (hrows : rows text.toList = first :: rest.map indented)
    (hfirst : first ≠ []) : Collates text piece features where
  content := by
    have hclosed : ∀ part ∈ taggedPieces piece features, Closed part.toList :=
      fun part => closed_of_mem_taggedPieces
    have hback : (rest.map indented).map (List.drop 4) = rest := by
      simp [Function.comp_def, drop_indented]
    rw [hrows, movedBack, hback, ← hlines, (written_lines_paragraphs hclosed).2]
  movedIn := by
    rw [hrows, List.tail_cons, List.forall_mem_map]
    exact fun _ _ => prefix_indented
  blank := by
    rw [hrows, hlines]
    rintro (_ | i) line hline
    · exact ⟨line, hline, Iff.rfl⟩
    · refine ⟨indented line, ?_, indented_eq_nil_iff⟩
      simpa using congrArg (Option.map indented) hline
  absent := by
    refine iff_of_false ?_ (mt taggedPieces_eq_nil_iff.mpr hne)
    rintro rfl
    exact hfirst (List.cons.inj hrows).1.symm

theorem collates_body (piece : Feature → Option String) (features : List Feature) :
    Collates (body piece features) piece features := by
  have hbody : body piece features = indentBody (paragraphs (taggedPieces piece features)) := rfl
  by_cases hnil : taggedPieces piece features = []
  · have hempty : body piece features = "" := by rw [hbody, hnil]; rfl
    rw [hempty]
    exact collates_empty hnil
  · obtain ⟨first, rest, hfirst, hlines⟩ := exists_lines_of_ne_nil hnil
    exact collates_of_lines hlines hnil (hbody ▸ rows_indentBody hlines) hfirst

/-- The sections of the vertex stage, before the lighting and after it have the pieces of all features that
have one, line by line and in their order. -/
theorem generate_collates (features : List Feature) (b : Bindings) :
    Collates (generate features b .vertexInject) Feature.vertex features ∧
      Collates (generate features b .fragmentPreLighting) Feature.preLighting features ∧
      Collates (generate features b .fragmentPost) Feature.post features :=
  ⟨collates_body _ _, collates_body _ _, collates_body _ _⟩

/-- A piece with line ends of two kinds and an empty line, and a piece of blanks. -/
example : body Feature.post
    [{ id := "mud", stage := .fragment, post := some " a = b;\r\n\r\n\tb = c;\n" },
      { id := "dust", stage := .fragment }, { id := "ash", stage := .fragment, post := some " \n" }] =
    "// feature: mud\n    a = b;\n\n    \tb = c;\n\n    // feature: ash" := by
  decide +kernel

end ShaderWeave.Sections
