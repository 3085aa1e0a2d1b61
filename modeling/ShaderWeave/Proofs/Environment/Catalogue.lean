import ShaderWeave.Proofs.Shader.EnvironmentBindings

/-!
# The catalogue and the table of capabilities

The table of capabilities is written by hand, next to the features that it is about. For a feature of the
catalogue it has the bits of the slots that the feature declares. A feature of another id has no bits, so
it is right for those that declare no slots. A shader made of such features alone declares what its
features are known to need, whatever they depend on.
-/

namespace ShaderWeave

open Bindings

variable {f : Feature} {features : List Feature} {shader : Shader} {r : Registry} {i : Nat}

/-! ## Slots of one feature -/

namespace Feature

/-- The bits of the slots that the feature declares. -/
def declaredMask (f : Feature) : Mask :=
  Mask.unions ((f.resources.filter fun q => q.group = .environment).filterMap fun q =>
    (Slot.find? q.name).map Slot.mask)

/-- The bits that the feature is known to need. -/
def capabilityMask (f : Feature) : Mask := (Mask.capabilities.lookup f.id).getD .empty

/-- The feature declares the slots that it is known to need, and no others. -/
def DeclaresCapabilities (f : Feature) : Prop := f.declaredMask = f.capabilityMask

instance : DecidablePred DeclaresCapabilities := fun f =>
  inferInstanceAs (Decidable (f.declaredMask = f.capabilityMask))

theorem has_declaredMask_iff :
    f.declaredMask.has i ↔ ∃ s ∈ Slot.table, s.index = i ∧ Requires f .environment s.name := by
  simp only [declaredMask, Mask.has_unions, List.any_eq_true, List.mem_filterMap, List.mem_filter,
    decide_eq_true_eq, Option.map_eq_some_iff]
  constructor
  · rintro ⟨m, ⟨q, ⟨hq, hgroup⟩, s, hs, rfl⟩, hbit⟩
    have htable := Slot.mem_table_of_find? hs
    rw [Slot.mask, Mask.has_single _ _ (Slot.index_lt htable), decide_eq_true_eq] at hbit
    exact ⟨s, htable, hbit, q, hq, hgroup, (Slot.name_of_find? hs).symm⟩
  · rintro ⟨s, hs, hindex, q, hq, hgroup, hname⟩
    refine ⟨s.mask, ⟨q, ⟨hq, hgroup⟩, s, hname ▸ Slot.find?_name s hs, rfl⟩, ?_⟩
    rw [Slot.mask, Mask.has_single _ _ (Slot.index_lt hs), decide_eq_true_eq, hindex]

theorem declaresCapabilities_of_mem_catalogue : ∀ f ∈ Catalogue.all, f.DeclaresCapabilities := by
  decide +kernel

/-- A feature beside the catalogue: it has an id of its own and declares no slots. -/
structure Extends (f : Feature) : Prop where
  id : f.id ∉ Catalogue.all.map Feature.id
  slots : ∀ q ∈ f.resources, q.group ≠ .environment

theorem Extends.declaresCapabilities (h : f.Extends) : f.DeclaresCapabilities := by
  have hslots : f.resources.filter (fun q => q.group = .environment) = [] := by
    simpa [List.filter_eq_nil_iff] using h.slots
  have hknown : ∀ p ∈ Mask.capabilities, p.1 ∈ Catalogue.all.map Feature.id := by decide +kernel
  have hlookup : Mask.capabilities.lookup f.id = none := by
    rw [List.lookup_eq_none_iff]
    intro p hp
    rw [bne_iff_ne]
    rintro hid
    exact h.id (hid ▸ hknown p hp)
  rw [DeclaresCapabilities, declaredMask, hslots, capabilityMask, hlookup]
  rfl

end Feature

/-! ## Slots of a shader -/

theorem Shader.has_declaredMask_iff_feature
    (h : collect features = .ok ⟨shader.uniforms, shader.textures, shader.environment⟩) :
    shader.declaredMask.has i ↔ ∃ f ∈ features, f.declaredMask.has i := by
  have hgathered := gathered_of_collect h
  simp only [Shader.has_declaredMask_iff hgathered.slots, Feature.has_declaredMask_iff]
  constructor
  · rintro ⟨t, ht, rfl⟩
    obtain ⟨s, hs, hname, hindex, -⟩ := hgathered.slots t ht
    obtain ⟨f, hf, hrequires⟩ := hgathered.environment.mem_names_iff.mp (List.mem_map_of_mem ht)
    exact ⟨f, hf, s, hs, hindex, hname ▸ hrequires⟩
  · rintro ⟨f, hf, s, hs, rfl, hrequires⟩
    obtain ⟨t, ht, htname⟩ :=
      List.mem_map.mp (hgathered.environment.mem_names_iff.mpr ⟨f, hf, hrequires⟩)
    obtain ⟨s', hs', hname, hindex, -⟩ := hgathered.slots t ht
    obtain rfl : s' = s := Slot.eq_of_name_eq hs' hs (hname.trans htname)
    exact ⟨t, ht, hindex.symm⟩

theorem Mask.has_ofFeatures_iff :
    (Mask.ofFeatures (features.map Feature.id)).has i ↔ ∃ f ∈ features, f.capabilityMask.has i := by
  simp only [Mask.ofFeatures, Mask.has_unions, List.any_eq_true, List.mem_filterMap, List.mem_map]
  constructor
  · rintro ⟨m, ⟨_, ⟨f, hf, rfl⟩, hm⟩, hbit⟩
    exact ⟨f, hf, by rwa [Feature.capabilityMask, hm]⟩
  · rintro ⟨f, hf, hbit⟩
    cases hm : Mask.capabilities.lookup f.id with
    | none => simp [Feature.capabilityMask, hm] at hbit
    | some m =>
      rw [Feature.capabilityMask, hm, Option.getD_some] at hbit
      exact ⟨m, ⟨f.id, ⟨f, hf, rfl⟩, hm⟩, hbit⟩

theorem Shader.declaredMask_eq (h : ∀ f ∈ features, f.DeclaresCapabilities)
    (hcollect : collect features = .ok ⟨shader.uniforms, shader.textures, shader.environment⟩) :
    shader.declaredMask = .ofFeatures (features.map Feature.id) := by
  apply Mask.ext_has
  intro i _
  rw [Bool.eq_iff_iff, has_declaredMask_iff_feature hcollect, Mask.has_ofFeatures_iff]
  exact exists_congr fun f => and_congr_right fun hf => by rw [h f hf]

/-! ## Extensions of the catalogue -/

namespace Registry

/-- The registry comes from the catalogue by registering features beside it and taking out any. -/
inductive Extension : Registry → Prop
  | builtin : Extension .builtin
  | register {r : Registry} {f : Feature} (h : Extension r) (hf : f.Extends) :
      Extension (r.register f).state
  | unregister {r : Registry} (h : Extension r) (id : String) : Extension (r.unregister id).state

theorem mem_register {g : Feature} (h : g ∈ (r.register f).state.features) :
    g ∈ r.features ∨ g = f := by
  unfold register at h
  split at h
  · rcases List.mem_append.mp h with h | h
    · exact .inl (List.mem_filter.mp h).1
    · exact .inr (List.mem_singleton.mp h)
  · exact .inl h

theorem declaresCapabilities_register (h : ∀ g ∈ r.features, g.DeclaresCapabilities)
    (hf : f.DeclaresCapabilities) : ∀ g ∈ (r.register f).state.features, g.DeclaresCapabilities := by
  intro g hg
  rcases mem_register hg with hg | rfl
  · exact h g hg
  · exact hf

theorem Extension.declaresCapabilities (h : r.Extension) :
    ∀ f ∈ r.features, f.DeclaresCapabilities := by
  induction h with
  | builtin =>
    have hall (fs : List Feature) (r : Registry) (hfs : ∀ f ∈ fs, f.DeclaresCapabilities)
        (hr : ∀ f ∈ r.features, f.DeclaresCapabilities) :
        ∀ f ∈ (fs.foldl (fun r f => (r.register f).state) r).features, f.DeclaresCapabilities := by
      induction fs generalizing r with
      | nil => exact hr
      | cons f fs ih =>
        rw [List.forall_mem_cons] at hfs
        exact ih _ hfs.2 (declaresCapabilities_register hr hfs.1)
    exact hall Catalogue.all .empty Feature.declaresCapabilities_of_mem_catalogue (by simp [Registry.empty])
  | register _ hf ih => exact declaresCapabilities_register ih hf.declaresCapabilities
  | unregister _ id ih => exact fun f hf => ih f (List.mem_filter.mp hf).1

end Registry

/-- What a request composes to from an extension of the catalogue declares the slots that its features are
known to need. -/
theorem Library.declaredMask_of_compose {lib : Library} {ids : List String}
    (h : lib.registry.Extension) (hshader : lib.compose ids = .ok shader) :
    ∃ features, lib.resolve ids = .ok features ∧ shader.features = features.map Feature.id ∧
      shader.declaredMask = .ofFeatures (features.map Feature.id) := by
  obtain ⟨features, hres, hmade⟩ := exists_assembledFrom hshader
  refine ⟨features, hres, hmade.ids, Shader.declaredMask_eq ?_ hmade.bindings⟩
  intro f hf
  have hf' := (Registry.visited_of_resolve hres).ordered.get? hf
  exact h.declaresCapabilities f (Registry.mem_of_get? hf')

end ShaderWeave
