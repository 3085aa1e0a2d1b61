import Mathlib.Data.List.Sort
import Mathlib.Data.String.Basic
import ShaderWeave.Feature.Request

/-!
# Requests as sets

Two requests with the same ids have the same canonical list, and a key gives that list back when all
ids can stand in a key.
-/

namespace ShaderWeave

/-! ## The canonical list -/

theorem insertId_sorted {id : String} {ids : List String} (h : ids.Pairwise (· < ·)) :
    (insertId id ids).Pairwise (· < ·) := by
  induction ids with
  | nil => simp [insertId]
  | cons x xs ih =>
    obtain ⟨hx, hxs⟩ := List.pairwise_cons.mp h
    simp only [insertId]
    split
    · next hlt =>
      refine List.pairwise_cons.mpr ⟨?_, h⟩
      intro y hy
      rcases List.mem_cons.mp hy with rfl | hy
      · exact hlt
      · exact lt_trans hlt (hx y hy)
    · next hlt =>
      split
      · exact h
      · next hne =>
        have hxid : x < id := lt_of_le_of_ne (not_lt.mp hlt) (Ne.symm hne)
        refine List.pairwise_cons.mpr ⟨?_, ih hxs⟩
        intro y hy
        rcases mem_insertId.mp hy with rfl | hy
        · exact hxid
        · exact hx y hy

theorem canonicalIds_sorted (ids : List String) : (canonicalIds ids).Pairwise (· < ·) := by
  induction ids with
  | nil => exact List.Pairwise.nil
  | cons x xs ih => exact insertId_sorted ih

theorem canonicalIds_congr {a b : List String} (h : ∀ id, id ∈ a ↔ id ∈ b) :
    canonicalIds a = canonicalIds b :=
  (canonicalIds_sorted a).eq_of_mem_iff (canonicalIds_sorted b) fun id => by simp [h id]

@[simp]
theorem canonicalIds_canonicalIds (ids : List String) :
    canonicalIds (canonicalIds ids) = canonicalIds ids :=
  canonicalIds_congr fun _ => mem_canonicalIds

/-! ## Keys -/

theorem parts_eq_splitOn (l : List Char) : RequestKey.parts l = l.splitOn '+' := by
  induction l with
  | nil => rfl
  | cons c rest ih =>
    rw [RequestKey.parts, List.splitOn_cons_eq_if_modifyHead, ih]
    split
    · next h => simp [h]
    · next h =>
      obtain ⟨part, more, hp⟩ := List.exists_cons_of_ne_nil (List.splitOn_ne_nil '+' rest)
      simp [h, hp]

namespace RequestKey

theorem ids_ofIds {ids : List String} (h : ∀ id ∈ ids, IsFeatureId id) :
    (ofIds ids).ids = canonicalIds ids := by
  have hvalid : ∀ id ∈ canonicalIds ids, IsFeatureId id :=
    fun id hid => h id (by simpa using hid)
  have hfilter : ∀ p ∈ (canonicalIds ids).map String.toList, (!p.isEmpty) = true := by
    simp only [List.forall_mem_map]
    intro id hid
    simpa using (hvalid id hid).1
  simp only [RequestKey.ids, ofIds, parts_eq_splitOn, String.toList_intercalate]
  cases hc : canonicalIds ids with
  | nil => simp
  | cons x xs =>
    rw [hc] at hvalid hfilter
    rw [show "+".toList = ['+'] from rfl, List.splitOn_intercalate '+' _ (by simp),
      List.filter_eq_self.mpr hfilter]
    · simp [Function.comp_def]
    · simp only [List.forall_mem_map]
      exact fun id hid => (hvalid id hid).2

/-- Ids that can stand in keys are told apart by the key. -/
theorem canonicalIds_eq_of_ofIds_eq {a b : List String} (ha : ∀ id ∈ a, IsFeatureId id)
    (hb : ∀ id ∈ b, IsFeatureId id) (h : ofIds a = ofIds b) : canonicalIds a = canonicalIds b := by
  rw [← ids_ofIds ha, ← ids_ofIds hb, h]

end RequestKey

end ShaderWeave
