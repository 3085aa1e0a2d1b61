import Mathlib.Data.List.Basic
import ShaderWeave.Text.Lines

/-!
# Parts of a text

A text has a part at a place if the part follows on what stands before the place. A character that is rare
enough shows that there is only one such place.
-/

namespace ShaderWeave.Text

/-- The text has the part at one place and at no other. -/
def OccursOnce (part text : String) : Prop :=
  ∃! before : List Char, ∃ after, text.toList = before ++ part.toList ++ after

variable {part text : String} {c : Char} {ls : List String}

/-- A character that stands in the part once, and nowhere after it, shows its only place. -/
theorem occursOnce_of_mark {rest : List Char} (htext : text.toList = part.toList ++ rest)
    (hpart : part.toList.count c = 1) (hrest : c ∉ rest) : OccursOnce part text := by
  refine ⟨[], ⟨rest, by simpa using htext⟩, ?_⟩
  rintro before ⟨after, hsplit⟩
  have hmark : c ∈ part.toList := List.count_pos_iff.mp (by omega)
  have hbefore : c ∉ before := by
    have hcount := congrArg (List.count c) (htext.symm.trans hsplit)
    simp only [List.count_append, hpart, List.count_eq_zero_of_not_mem hrest] at hcount
    exact List.count_eq_zero.mp (by omega)
  have hplace := congrArg (List.idxOf c) (htext.symm.trans hsplit)
  rw [List.append_assoc, List.idxOf_append_of_notMem hbefore, List.idxOf_append_of_mem hmark,
    List.idxOf_append_of_mem hmark] at hplace
  exact List.eq_nil_of_length_eq_zero (by omega)

/-- Line feeds apart, a text has the characters of its lines. -/
theorem count_unlines (hc : c ≠ '\n') (ls : List String) :
    (unlines ls).toList.count c = (ls.flatMap String.toList).count c := by
  induction ls with
  | nil => simp [unlines]
  | cons l ls ih =>
    by_cases hls : ls = []
    · subst hls
      simp [unlines]
    · rw [toList_unlines_cons hls]
      simp [ih, hc.symm]

/-- Written-out lines are looked at by their characters. -/
theorem count_unlines_ofList (hc : c ≠ '\n') (ls : List (List Char)) :
    (unlines (ls.map String.ofList)).toList.count c = ls.flatten.count c := by
  simp [count_unlines hc, List.flatMap_map]

theorem notMem_unlines (hc : c ≠ '\n') (h : ∀ l ∈ ls, c ∉ l.toList) : c ∉ (unlines ls).toList := by
  rw [← List.count_eq_zero, count_unlines hc, List.count_eq_zero, List.mem_flatMap]
  rintro ⟨l, hl, hcl⟩
  exact h l hl hcl

end ShaderWeave.Text
