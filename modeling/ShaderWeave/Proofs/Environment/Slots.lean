import Mathlib.Data.List.Nodup
import ShaderWeave.Proofs.Shader.Composition
import ShaderWeave.Proofs.Shader.Merging

/-!
# What the layout of a mask has for a shader

The index of a slot is its bit. A shader knows the slots by the names that its features require, a layout
by the bits of its mask. Both look them up in one table, so they agree on what they have in common.
-/

namespace ShaderWeave

theorem Slot.getElem?_table : ∀ s ∈ Slot.table, Slot.table[s.index]? = some s := by
  simp [Slot.table]

variable {m : Mask} {shader : Shader} {entries : List LayoutEntry} {i : Nat}

namespace Mask

/-! ## Sets of bits -/

theorem has_foldl_union (ms : List Mask) (m : Mask) (i : Nat) :
    (ms.foldl union m).has i = (m.has i || ms.any (·.has i)) := by
  induction ms generalizing m with
  | nil => simp
  | cons x ms ih => simp [ih, Bool.or_assoc]

@[simp]
theorem has_unions (ms : List Mask) (i : Nat) : (unions ms).has i = ms.any (·.has i) := by
  simp [unions, has_foldl_union]

theorem has_lt (h : m.has i) : i < 12 := by
  by_contra hi
  simp [has, BitVec.getLsbD_of_ge m.bits i (by omega)] at h

@[simp]
theorem has_difference (a b : Mask) (i : Nat) : (a.difference b).has i = (a.has i && !b.has i) := by
  by_cases hi : i < 12
  · simp [has, difference, hi]
  · have hnot (m : Mask) : m.has i = false := Bool.eq_false_iff.mpr fun h => hi (has_lt h)
    simp [hnot]

/-! ## The entries of a mask -/

/-- The entries are one for each bit of the mask, in the order of the bits. Each has the type of the slot
of its bit, and both stages see it. -/
structure Selects (m : Mask) (entries : List LayoutEntry) : Prop where
  indices : entries.map LayoutEntry.index = (List.range 12).filter m.has
  slot : ∀ x ∈ entries, ∃ s, Slot.table[x.index]? = some s ∧ x.type = .ofKind s.kind
  visibility : ∀ x ∈ entries, x.visibility = .both

theorem selects_layoutEntries (m : Mask) : m.Selects m.layoutEntries where
  indices := by
    have hindices : Slot.table.map Slot.index = List.range 12 := rfl
    rw [layoutEntries, Slot.ofMask, ← hindices, List.filter_map, List.map_map]
    rfl
  slot := by
    rw [layoutEntries, List.forall_mem_map]
    intro s hs
    exact ⟨s, Slot.getElem?_table s (List.mem_filter.mp hs).1, rfl⟩
  visibility := by
    rw [layoutEntries, List.forall_mem_map]
    exact fun s _ => rfl

theorem Selects.exists_index_iff (h : m.Selects entries) :
    (∃ x ∈ entries, x.index = i) ↔ m.has i := by
  rw [← List.mem_map, h.indices, List.mem_filter, List.mem_range]
  exact ⟨And.right, fun hi => ⟨has_lt hi, hi⟩⟩

theorem Selects.eq_of_index_eq (h : m.Selects entries) {x y : LayoutEntry} (hx : x ∈ entries)
    (hy : y ∈ entries) (he : x.index = y.index) : x = y := by
  have hnodup : (entries.map LayoutEntry.index).Nodup := by
    rw [h.indices]
    exact List.nodup_range.filter _
  exact List.inj_on_of_nodup_map hnodup hx hy he

end Mask

/-! ## The environment of a shader -/

/-- The bindings of the environment group stand in the table. -/
def Shader.Tabled (shader : Shader) : Prop :=
  ∀ b ∈ shader.environment, ∃ s ∈ Slot.table, s.name = b.name ∧ s.index = b.index ∧ s.kind = b.kind

theorem Library.tabled_of_compose {lib : Library} {ids : List String}
    (h : lib.compose ids = .ok shader) : shader.Tabled := by
  obtain ⟨features, -, hmade⟩ := exists_assembledFrom h
  exact (Bindings.gathered_of_collect hmade.bindings).slots

namespace Shader

theorem has_declaredMask_iff (h : shader.Tabled) :
    shader.declaredMask.has i ↔ ∃ b ∈ shader.environment, b.index = i := by
  simp only [declaredMask, Mask.has_unions, List.any_map, List.any_eq_true, Function.comp_apply]
  refine exists_congr fun b => and_congr_right fun hb => ?_
  obtain ⟨s, hs, -, hindex, -⟩ := h b hb
  rw [Mask.has_single _ _ (hindex ▸ Slot.index_lt hs), decide_eq_true_iff]

/-- The layout has what the mask covers of the environment of the shader. -/
structure SuppliedBy (shader : Shader) (m : Mask) (entries : List LayoutEntry) : Prop where
  covered : ∀ b ∈ shader.environment, m.has b.index →
    ∃ x ∈ entries, x.Covers b.layoutEntry ∧ ∀ y ∈ entries, y.index = b.index → y = x
  uncovered : ∀ i, (shader.declaredMask.difference m).has i ↔
    ∃ b ∈ shader.environment, b.index = i ∧ ∀ x ∈ entries, x.index ≠ i

theorem suppliedBy (h : shader.Tabled) (hentries : m.Selects entries) :
    shader.SuppliedBy m entries where
  covered := by
    intro b hb hbit
    obtain ⟨x, hx, hindex⟩ := hentries.exists_index_iff.mpr hbit
    obtain ⟨s, hs, -, hsindex, hkind⟩ := h b hb
    obtain ⟨t, ht, htype⟩ := hentries.slot x hx
    -- The name of the binding and the bit of the entry lead to one slot.
    obtain rfl : s = t := by
      rw [hindex, ← hsindex, Slot.getElem?_table s hs] at ht
      exact Option.some.inj ht
    refine ⟨x, hx, ⟨hindex, ?_, ?_⟩, ?_⟩
    · rw [htype, hkind]
      rfl
    · rw [hentries.visibility x hx]
      exact Stage.within_both _
    · intro y hy hyindex
      exact hentries.eq_of_index_eq hy hx (hyindex.trans hindex.symm)
  uncovered := by
    intro i
    have hnone : m.has i = false ↔ ∀ x ∈ entries, x.index ≠ i := by
      rw [Bool.eq_false_iff, ne_eq, ← hentries.exists_index_iff]
      simp
    rw [Mask.has_difference, Bool.and_eq_true, Bool.not_eq_true', has_declaredMask_iff h, hnone]
    simp only [← and_assoc, exists_and_right]

end Shader

end ShaderWeave
