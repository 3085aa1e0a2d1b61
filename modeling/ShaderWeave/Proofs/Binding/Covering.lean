import ShaderWeave.Binding.LayoutEntry

/-!
# When one layout serves in place of another

A device binds a shader against a layout if the layout has, for each binding of the shader, an entry of
the same index and type that all stages of the binding see. It may have more.
-/

namespace ShaderWeave

namespace Stage

variable {a b c : Stage}

/-- The one set of stages is part of the other. -/
def Within (a b : Stage) : Prop :=
  (a.hasVertex → b.hasVertex) ∧ (a.hasFragment → b.hasFragment)

instance : DecidableRel Within := fun a b => by
  unfold Within
  infer_instance

@[simp]
theorem within_refl (a : Stage) : a.Within a := ⟨id, id⟩

@[simp]
theorem within_both (a : Stage) : a.Within both := ⟨fun _ => rfl, fun _ => rfl⟩

@[simp]
theorem union_within_iff : (a.union b).Within c ↔ a.Within c ∧ b.Within c := by
  cases a <;> cases b <;> cases c <;> decide

theorem within_vertex_iff : a.Within vertex ↔ ¬ a.hasFragment := by cases a <;> decide

theorem within_fragment_iff : a.Within fragment ↔ ¬ a.hasVertex := by cases a <;> decide

end Stage

namespace LayoutEntry

/-- The entry serves a binding that asks for `y`. -/
structure Covers (x y : LayoutEntry) : Prop where
  index : x.index = y.index
  type : x.type = y.type
  visibility : y.visibility.Within x.visibility

instance : DecidableRel Covers := fun x y =>
  decidable_of_iff (x.index = y.index ∧ x.type = y.type ∧ y.visibility.Within x.visibility)
    ⟨fun ⟨hindex, htype, hvisibility⟩ => ⟨hindex, htype, hvisibility⟩,
      fun h => ⟨h.index, h.type, h.visibility⟩⟩

end LayoutEntry

/-- The layout `xs` has an entry for each of `ys`. -/
def Covers (xs ys : List LayoutEntry) : Prop := ∀ y ∈ ys, ∃ x ∈ xs, x.Covers y

instance : DecidableRel Covers := fun xs ys =>
  inferInstanceAs (Decidable (∀ y ∈ ys, ∃ x ∈ xs, x.Covers y))

end ShaderWeave
