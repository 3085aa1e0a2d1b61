import ShaderWeave.Proofs.Variant.Lookup

/-!
# What registering a feature does to the variants

The variants that have the feature are forgotten, and no others. A variant can have a feature that its
request does not name, so the features of the variant decide and not its key.
-/

namespace ShaderWeave.VariantStore

variable {s : VariantStore} {f : Feature} {held : List Variant} {w : VariantStore × Device}
  {calls : List Call}

/-- `f` is declared in place of what was declared under its id, and the variants without a feature of
that id stay. -/
structure Replaces (f : Feature) (s s' : VariantStore) : Prop where
  declared : s'.library.registry.get? f.id = some f
  others : ∀ id, id ≠ f.id → s'.library.registry.get? id = s.library.registry.get? id
  template : s'.library.template = s.library.template
  variants : ∀ v, v ∈ s'.variants ↔ v ∈ s.variants ∧ f.id ∉ v.features

/-- The change names the declaration that was replaced and, each once, the keys of the variants that had
a feature of its id. -/
structure Registration.Reports (f : Feature) (s : VariantStore) (change : Registration) : Prop where
  previous : change.previous = s.library.registry.get? f.id
  stale_nodup : change.stale.Nodup
  mem_stale : ∀ key, key ∈ change.stale ↔ ∃ v ∈ s.variants, v.key = key ∧ f.id ∈ v.features

theorem register_reports (h : Current s) (held : List Variant) (hf : IsFeatureId f.id) :
    ∃ change, (s.register held f).result = .ok change ∧ change.Reports f s := by
  refine ⟨_, (register_of_ok held (s.library.register_result hf)).1, rfl, ?_, ?_⟩
  · exact h.keys_nodup.sublist (List.filter_sublist.map Variant.key)
  · intro key
    rw [List.mem_map]
    constructor
    · rintro ⟨v, hv, hkey⟩
      obtain ⟨hv, hstale⟩ := List.mem_filter.mp hv
      exact ⟨v, hv, hkey, List.contains_iff_mem.mp hstale⟩
    · rintro ⟨v, hv, hkey, hstale⟩
      exact ⟨v, List.mem_filter.mpr ⟨hv, List.contains_iff_mem.mpr hstale⟩, hkey⟩

theorem register_replaces (s : VariantStore) (held : List Variant) (hf : IsFeatureId f.id) :
    Replaces f s (s.register held f).state := by
  obtain ⟨-, hstate⟩ := register_of_ok held (s.library.register_result hf)
  rw [hstate]
  refine ⟨s.library.get?_register_self hf, fun id hid => s.library.get?_register_of_ne hid, rfl, ?_⟩
  intro v
  simp [releaseModules]

/-! ## Afterwards -/

theorem get?_after {f : Feature} {c : Call} (h : w.1.library.registry.get? f.id = some f)
    (hc : ∀ g, c.op = .register g → g.id ≠ f.id) :
    (after w c).1.library.registry.get? f.id = some f := by
  rw [after_library]
  obtain ⟨op, held⟩ := c
  cases op with
  | register g =>
    have hne : f.id ≠ g.id := (hc g rfl).symm
    rwa [← Library.get?_register_of_ne w.1.library hne] at h
  | reload => simpa [Call.library] using h
  | _ => exact h

theorem get?_run (h : w.1.library.registry.get? f.id = some f)
    (hcalls : ∀ c ∈ calls, ∀ g, c.op = .register g → g.id ≠ f.id) :
    (run w calls).1.library.registry.get? f.id = some f := by
  induction calls generalizing w with
  | nil => exact h
  | cons c calls ih =>
    obtain ⟨hc, hcalls⟩ := List.forall_mem_cons.mp hcalls
    exact ih (get?_after h hc) hcalls

/-- The store has `f` declared, and requests return what the library composes with it. -/
structure Serves (f : Feature) (s : VariantStore) : Prop where
  declared : s.library.registry.get? f.id = some f
  composes : s.library.ComposesWith f
  result : ∀ d ids, (∀ id ∈ ids, IsFeatureId id) →
    (s.getOrCreate d ids).result.map Variant.shader = s.library.compose ids

theorem serves_of_get? (h : Current s) (hget : s.library.registry.get? f.id = some f) : Serves f s :=
  ⟨hget, Library.composesWith_of_get? hget, fun _ _ hvalid => getOrCreate_shader h hvalid⟩

/-- After a registration the store serves the new declaration, until its id is registered anew. -/
theorem serves_run_register (h : Current w.1) (held : List Variant) (hf : IsFeatureId f.id)
    (hcalls : ∀ c ∈ calls, ∀ g, c.op = .register g → g.id ≠ f.id) :
    Serves f (run (after w ⟨.register f, held⟩) calls).1 := by
  have hcurrent := current_change (change_after w ⟨.register f, held⟩) h
  exact serves_of_get? (current_run hcurrent calls)
    (get?_run (register_replaces w.1 held hf).declared hcalls)

end ShaderWeave.VariantStore
