import Mathlib.Data.List.Induction
import Mathlib.Data.List.Nodup

/-!
# First occurrences

`List.eraseDups` keeps each element where it stands first. What has been kept once need not be looked at
again: the parts of a list may be cleared of repetitions before the whole is.
-/

namespace ShaderWeave.FirstOccurrences

variable {α : Type} [BEq α] [LawfulBEq α] {xs ys : List α}

theorem eraseDups_concat (xs : List α) (x : α) :
    (xs ++ [x]).eraseDups = xs.eraseDups ++ if x ∈ xs then [] else [x] := by
  rw [List.eraseDups_append]
  by_cases h : x ∈ xs <;> simp [List.removeAll, h, List.eraseDups_cons]

theorem nodup_eraseDups (xs : List α) : xs.eraseDups.Nodup := by
  induction xs using List.reverseRecOn with
  | nil => simp
  | append_singleton xs x ih =>
    rw [eraseDups_concat]
    split
    · simpa using ih
    · next hnew => simpa using ih.concat (mt List.mem_eraseDups.mp hnew)

theorem eraseDups_of_nodup (h : xs.Nodup) : xs.eraseDups = xs := by
  induction xs using List.reverseRecOn with
  | nil => simp
  | append_singleton xs x ih =>
    obtain ⟨hxs, -, hnew⟩ := List.nodup_append.mp h
    rw [eraseDups_concat, ih hxs, if_neg fun hx => hnew x hx x (by simp) rfl]

theorem eraseDups_append_of_subset (h : ys ⊆ xs) : (xs ++ ys).eraseDups = xs.eraseDups := by
  induction ys using List.reverseRecOn with
  | nil => simp
  | append_singleton ys y ih =>
    obtain ⟨hys, hy⟩ := List.append_subset.mp h
    rw [← List.append_assoc, eraseDups_concat, ih hys, if_pos, List.append_nil]
    exact List.mem_append_left _ (hy (by simp))

theorem eraseDups_append_left (xs ys : List α) :
    (xs.eraseDups ++ ys).eraseDups = (xs ++ ys).eraseDups := by
  induction ys using List.reverseRecOn with
  | nil => simp [eraseDups_of_nodup (nodup_eraseDups xs)]
  | append_singleton ys y ih =>
    rw [← List.append_assoc, ← List.append_assoc, eraseDups_concat, eraseDups_concat, ih]
    simp

theorem eraseDups_append_right (xs ys : List α) :
    (xs ++ ys.eraseDups).eraseDups = (xs ++ ys).eraseDups := by
  induction ys using List.reverseRecOn with
  | nil => simp
  | append_singleton ys y ih =>
    rw [eraseDups_concat, ← List.append_assoc, ← List.append_assoc, eraseDups_concat]
    by_cases hy : y ∈ ys
    · simp [hy, ih]
    · rw [if_neg hy, eraseDups_concat, ih]
      simp [hy]

end ShaderWeave.FirstOccurrences
