import Mathlib.Data.List.Dedup
import ShaderWeave.Proofs.Variant.Run

/-!
# The table of modules

The table has one module for a digest, and each module once. The modules of the stored variants are
in it, and hold the sources that requests composed.
-/

namespace ShaderWeave.VariantStore

variable {s : VariantStore} {d : Device} {v : Variant} {w w' : VariantStore × Device} {c : Call}

/-! ## Modules of variants -/

/-- The table goes by digests, the modules in it have numbers of their own, and every variant has the
module under its digest. -/
structure Tabled (w : VariantStore × Device) : Prop where
  digests_nodup : (w.1.modules.map Prod.fst).Nodup
  numbers_nodup : (w.1.modules.map (·.2.id)).Nodup
  numbers_lt : ∀ m ∈ w.1.modules, m.2.id < w.2.nextId
  tabled : ∀ v ∈ w.1.variants, (v.shader.digest, v.shaderModule) ∈ w.1.modules

theorem lookup_eq_none {h : Digest} (hn : s.modules.lookup h = none) : ∀ m ∈ s.modules, m.1 ≠ h := by
  intro m hm he
  have := List.lookup_eq_none_iff.mp hn m hm
  simp [he] at this

theorem tabled_store (h : Tabled (s, d)) (shader : Shader) : Tabled (s.store d shader).state := by
  have htabled : ∀ table : List (Digest × ShaderModule),
      (shader.digest, (s.store d shader).result.shaderModule) ∈ table → (∀ m ∈ s.modules, m ∈ table) →
      ∀ v ∈ (s.store d shader).state.1.variants, (v.shader.digest, v.shaderModule) ∈ table := by
    intro table hnew hold v hv
    rw [store_variants] at hv
    rcases List.mem_append.mp hv with hv | hv
    · exact hold _ (h.tabled v hv)
    · rw [List.mem_singleton.mp hv]; exact hnew
  obtain ⟨hmem, hmodules, hdevice⟩ | ⟨hlookup, hid, -, hmodules, hdevice⟩ := store_modules s d shader
  · refine ⟨?_, ?_, ?_, ?_⟩
    · rw [hmodules]; exact h.digests_nodup
    · rw [hmodules]; exact h.numbers_nodup
    · rw [hmodules, hdevice]; exact h.numbers_lt
    · rw [hmodules]; exact htabled _ hmem fun m hm => hm
  · refine ⟨?_, ?_, ?_, ?_⟩
    · rw [hmodules]
      exact nodup_map_concat h.digests_nodup (lookup_eq_none hlookup)
    · rw [hmodules]
      apply nodup_map_concat h.numbers_nodup
      intro m hm
      rw [hid]
      exact (h.numbers_lt m hm).ne
    · rw [hmodules, hdevice]
      intro m hm
      rcases List.mem_append.mp hm with hm | hm
      · exact Nat.lt_succ_of_lt (h.numbers_lt m hm)
      · rw [List.mem_singleton.mp hm, hid]; exact Nat.lt_succ_self _
    · rw [hmodules]
      exact htabled _ (by simp) fun m hm => List.mem_append_left _ hm

theorem tabled_change (hch : Change w c w') (h : Tabled w) : Tabled w' := by
  cases hch with
  | same library variants modules device =>
    refine ⟨?_, ?_, ?_, ?_⟩
    · rw [modules]; exact h.digests_nodup
    · rw [modules]; exact h.numbers_nodup
    · rw [modules]; exact fun m hm => lt_of_lt_of_le (h.numbers_lt m hm) device
    · rw [modules, variants]; exact h.tabled
  | added ids shader => exact tabled_store h shader
  | dropped device variants modules kept =>
    refine ⟨h.digests_nodup.sublist (modules.map _), h.numbers_nodup.sublist (modules.map _), ?_, ?_⟩
    · rw [device]; exact fun m hm => h.numbers_lt m (modules.subset hm)
    · exact fun v hv => kept v hv _ (h.tabled v (variants.subset hv)) rfl

theorem tabled_run (h : Tabled w) (calls : List Call) : Tabled (run w calls) :=
  run_induction (fun _ _ _ hch h => tabled_change hch h) calls h

theorem tabled_ofLibrary (lib : Library) (d : Device) : Tabled (ofLibrary lib, d) :=
  ⟨by simp [ofLibrary], by simp [ofLibrary], by simp [ofLibrary], by simp [ofLibrary]⟩

namespace Tabled

theorem eq_of_number {m m' : Digest × ShaderModule} (h : Tabled w) (hm : m ∈ w.1.modules)
    (hm' : m' ∈ w.1.modules) (he : m.2.id = m'.2.id) : m = m' :=
  List.inj_on_of_nodup_map h.numbers_nodup hm hm' he

theorem eq_of_digest {m m' : Digest × ShaderModule} (h : Tabled w) (hm : m ∈ w.1.modules)
    (hm' : m' ∈ w.1.modules) (he : m.1 = m'.1) : m = m' :=
  List.inj_on_of_nodup_map h.digests_nodup hm hm' he

end Tabled

/-! ## Modules without variants -/

/-- Every module of the table is that of a stored variant. -/
def Owned (s : VariantStore) : Prop :=
  ∀ m ∈ s.modules, ∃ v ∈ s.variants, (v.shader.digest, v.shaderModule) = m

/-- The digests of the stored variants, each once. -/
def digests (s : VariantStore) : List Digest := (s.variants.map (·.shader.digest)).dedup

theorem mem_digests {h : Digest} : h ∈ s.digests ↔ ∃ v ∈ s.variants, v.shader.digest = h := by
  simp [digests]

theorem digests_subset (h : Tabled w) : w.1.digests ⊆ w.1.modules.map Prod.fst := by
  intro x hx
  obtain ⟨v, hv, rfl⟩ := mem_digests.mp hx
  exact List.mem_map.mpr ⟨_, h.tabled v hv, rfl⟩

/-- The table has a module for each digest of a stored variant, so it has as many as there are such
digests just when it has no others. -/
theorem moduleCount_eq_iff (h : Tabled w) : w.1.moduleCount = w.1.digests.length ↔ Owned w.1 := by
  have hsubperm : w.1.digests.Subperm (w.1.modules.map Prod.fst) :=
    List.subperm_of_subset (List.nodup_dedup _) (digests_subset h)
  constructor
  · intro hcount m hm
    have hperm := hsubperm.perm_of_length_le (by simp [← hcount, moduleCount])
    obtain ⟨v, hv, hdigest⟩ := mem_digests.mp (hperm.mem_iff.mpr (List.mem_map_of_mem hm))
    exact ⟨v, hv, h.eq_of_digest (h.tabled v hv) hm hdigest⟩
  · intro howned
    have hsubset : w.1.modules.map Prod.fst ⊆ w.1.digests := by
      intro x hx
      obtain ⟨m, hm, rfl⟩ := List.mem_map.mp hx
      obtain ⟨v, hv, rfl⟩ := howned m hm
      exact mem_digests.mpr ⟨v, hv, rfl⟩
    have hle := (List.subperm_of_subset h.digests_nodup hsubset).length_le
    have hge := hsubperm.length_le
    rw [List.length_map] at hle hge
    exact le_antisymm hle hge

theorem owned_after_request (h : Owned w.1) (ids : List String) :
    Owned (w.1.getOrCreate w.2 ids).state.1 := by
  obtain ⟨e, -, hst⟩ | ⟨v, -, -, -, hst⟩ | ⟨shader, -, -, -, -, hst⟩ := getOrCreate_cases w.1 w.2 ids
  · rwa [hst]
  · rwa [hst]
  · rw [hst]
    intro m hm
    have hold : m ∈ w.1.modules → ∃ v ∈ (w.1.store w.2 shader).state.1.variants,
        (v.shader.digest, v.shaderModule) = m := by
      intro hm
      obtain ⟨v, hv, hvm⟩ := h m hm
      exact ⟨v, by rw [store_variants]; exact List.mem_append_left _ hv, hvm⟩
    obtain ⟨-, hmodules, -⟩ | ⟨-, -, -, hmodules, -⟩ := store_modules w.1 w.2 shader
    · rw [hmodules] at hm
      exact hold hm
    · rw [hmodules] at hm
      rcases List.mem_append.mp hm with hm | hm
      · exact hold hm
      · exact ⟨(w.1.store w.2 shader).result, by rw [store_variants]; simp,
          (List.mem_singleton.mp hm).symm⟩

/-- When variants are dropped, the modules of those that are still held stay. No others are left over
if each of these modules also has a stored variant. -/
theorem owned_releaseModules_iff {held kept : List Variant} (lib : Library) (h : Tabled (s, d))
    (hkept : ∀ v ∈ kept, v ∈ s.variants) (hheld : ∀ v ∈ held, v ∈ s.variants) :
    Owned (releaseModules held { s with library := lib, variants := kept }) ↔
      ∀ u ∈ held, ∃ v ∈ kept, v.shader.digest = u.shader.digest := by
  constructor
  · intro howned u hu
    have hstays : (u.shader.digest, u.shaderModule) ∈
        (releaseModules held { s with library := lib, variants := kept }).modules :=
      mem_releaseModules.mpr ⟨h.tabled u (hheld u hu), u, .inr hu, rfl⟩
    obtain ⟨v, hv, hvm⟩ := howned _ hstays
    exact ⟨v, hv, congrArg Prod.fst hvm⟩
  · intro hshared m hm
    obtain ⟨hm, u, hu, hnumber⟩ := mem_releaseModules.mp hm
    rcases hu with hu | hu
    · exact ⟨u, hu, h.eq_of_number (h.tabled u (hkept u hu)) hm hnumber⟩
    · obtain ⟨v, hv, hdigest⟩ := hshared u hu
      have hum := h.eq_of_number (h.tabled u (hheld u hu)) hm hnumber
      exact ⟨v, hv, h.eq_of_digest (h.tabled v (hkept v hv)) hm (by rw [← hum]; exact hdigest)⟩

/-! ## Sources of modules -/

/-- The modules and the variants have sources from `texts`, and each module is in the table under the
digest of its source. -/
structure Sourced (texts : List String) (s : VariantStore) : Prop where
  modules : ∀ m ∈ s.modules, m.2.source ∈ texts ∧ m.1 = .ofText m.2.source
  variants : ∀ v ∈ s.variants, v.shader.source ∈ texts

theorem mem_sources_of_compose {ids : List String} {shader : Shader}
    (requested : c.op = .request ids) (missing : s.get? ids = none) (composed : s.library.compose ids = .ok shader) :
    shader.source ∈ c.sources s := by
  simp [Call.sources, requested, contains, missing, Library.sources, composed]

theorem sourced_change {texts : List String} (hch : Change w c w') (h : Sourced texts w.1)
    (hc : ∀ t ∈ c.sources w.1, t ∈ texts) : Sourced texts w'.1 := by
  cases hch with
  | same library variants modules device =>
    exact ⟨by rw [modules]; exact h.modules, by rw [variants]; exact h.variants⟩
  | added ids shader requested valid missing composed =>
    have hnew : shader.source ∈ texts := hc _ (mem_sources_of_compose requested missing composed)
    refine ⟨?_, ?_⟩
    · obtain ⟨-, hmodules, -⟩ | ⟨-, -, hsource, hmodules, -⟩ := store_modules w.1 w.2 shader
      · rw [hmodules]; exact h.modules
      · rw [hmodules]
        intro m hm
        rcases List.mem_append.mp hm with hm | hm
        · exact h.modules m hm
        · rw [List.mem_singleton.mp hm, hsource]
          exact ⟨hnew, Library.digest_of_compose composed⟩
    · rw [store_variants]
      intro v hv
      rcases List.mem_append.mp hv with hv | hv
      · exact h.variants v hv
      · rw [List.mem_singleton.mp hv]; exact hnew
  | dropped device variants modules kept current =>
    exact ⟨fun m hm => h.modules m (modules.subset hm), fun v hv => h.variants v (variants.subset hv)⟩

theorem sourced_run (texts : List String) (calls : List Call) (h : Sourced texts w.1)
    (hc : ∀ t ∈ sources w calls, t ∈ texts) : Sourced texts (run w calls).1 := by
  induction calls generalizing w with
  | nil => exact h
  | cons c calls ih =>
    simp only [sources, List.mem_append] at hc
    exact ih (sourced_change (change_after w c) h fun t ht => hc t (.inl ht)) fun t ht => hc t (.inr ht)

theorem sourced_ofLibrary (texts : List String) (lib : Library) : Sourced texts (ofLibrary lib) :=
  ⟨by simp [ofLibrary], by simp [ofLibrary]⟩

/-- Where no two texts share a digest, the module of a variant has the source of its shader. -/
theorem source_eq_of_injOn {texts : List String} (hcur : Current w.1) (htab : Tabled w)
    (hsrc : Sourced texts w.1) (hinj : Set.InjOn Digest.ofText {t | t ∈ texts})
    (hv : v ∈ w.1.variants) : v.shaderModule.source = v.shader.source := by
  obtain ⟨hmem, hdigest⟩ := hsrc.modules _ (htab.tabled v hv)
  refine hinj hmem (hsrc.variants v hv) ?_
  rw [← hdigest]
  exact Library.digest_of_compose (hcur.composes v hv)

end ShaderWeave.VariantStore
