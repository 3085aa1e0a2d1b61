import ShaderWeave.Proofs.Variant.Modules

/-!
# Which variants share a module, and which modules stay

Two stored variants have one module just when their sources have one digest. What callers hold decides
nothing but how long a module stays: a call that drops some variants leaves the modules that a stored or
held variant has, and no others. For that the number of a module has to tell it from every module that
was ever compiled, so the modules of variants returned long ago are followed through the run.
-/

namespace ShaderWeave.VariantStore

variable {s : VariantStore} {d : Device} {held : List Variant} {w w' : VariantStore × Device}
  {c : Call} {m : Digest × ShaderModule}

/-! ## Held variants -/

/-- The variant that a call returns. -/
def Call.returned (c : Call) (w : VariantStore × Device) : List Variant :=
  match c.op with
  | .request ids => (w.1.getOrCreate w.2 ids).result.toOption.toList
  | _ => []

/-- The variants that a run returns. -/
def returned (w : VariantStore × Device) : List Call → List Variant
  | [] => []
  | c :: calls => c.returned w ++ returned (after w c) calls

/-- The modules of the held variants have numbers that the device gave before. Where such a number is
in the table, the module and its digest are those of the variant. -/
structure Known (held : List Variant) (w : VariantStore × Device) : Prop where
  numbers_lt : ∀ v ∈ held, v.shaderModule.id < w.2.nextId
  eq_of_number : ∀ v ∈ held, ∀ m ∈ w.1.modules, m.2.id = v.shaderModule.id →
    (v.shader.digest, v.shaderModule) = m

theorem known_nil (w : VariantStore × Device) : Known [] w := ⟨by simp, by simp⟩

theorem known_append {held' : List Variant} (h : Known held w) (h' : Known held' w) :
    Known (held ++ held') w := by
  refine ⟨?_, ?_⟩
  · intro v hv
    exact (List.mem_append.mp hv).elim (h.numbers_lt v) (h'.numbers_lt v)
  · intro v hv
    exact (List.mem_append.mp hv).elim (h.eq_of_number v) (h'.eq_of_number v)

theorem known_of_stored (h : Tabled w) (hheld : ∀ v ∈ held, v ∈ w.1.variants) : Known held w := by
  refine ⟨?_, ?_⟩
  · intro v hv
    exact h.numbers_lt _ (h.tabled v (hheld v hv))
  · intro v hv m hm hnumber
    exact h.eq_of_number (h.tabled v (hheld v hv)) hm hnumber.symm

theorem known_change (hch : Change w c w') (h : Known held w) : Known held w' := by
  cases hch with
  | same library variants modules device =>
    refine ⟨?_, ?_⟩
    · intro v hv
      exact lt_of_lt_of_le (h.numbers_lt v hv) device
    · rw [modules]; exact h.eq_of_number
  | added ids shader =>
    obtain ⟨-, hmodules, hdevice⟩ | ⟨-, hid, -, hmodules, hdevice⟩ := store_modules w.1 w.2 shader
    · refine ⟨?_, ?_⟩
      · rw [hdevice]; exact h.numbers_lt
      · rw [hmodules]; exact h.eq_of_number
    · refine ⟨?_, ?_⟩
      · intro v hv
        rw [hdevice]
        exact Nat.lt_succ_of_lt (h.numbers_lt v hv)
      · intro v hv m hm hnumber
        rw [hmodules] at hm
        rcases List.mem_append.mp hm with hm | hm
        · exact h.eq_of_number v hv m hm hnumber
        · -- The new module has a number that no held variant's module has.
          have hlt := h.numbers_lt v hv
          rw [List.mem_singleton.mp hm, hid] at hnumber
          omega
  | dropped device variants modules =>
    refine ⟨?_, ?_⟩
    · rw [device]; exact h.numbers_lt
    · intro v hv m hm
      exact h.eq_of_number v hv m (modules.subset hm)

theorem mem_after_of_returned {v : Variant} (hv : v ∈ c.returned w) : v ∈ (after w c).1.variants := by
  obtain ⟨op, held⟩ := c
  cases op with
  | request ids =>
    refine mem_getOrCreate_of_ok ?_
    cases hr : (w.1.getOrCreate w.2 ids).result <;>
      simp_all [Call.returned, Except.toOption]
  | _ => simp [Call.returned] at hv

theorem known_run (htabled : Tabled w) (h : Known held w) (calls : List Call) :
    Known (held ++ returned w calls) (run w calls) := by
  induction calls generalizing w held with
  | nil => simpa [returned] using h
  | cons c calls ih =>
    have hch := change_after w c
    have htabled' := tabled_change hch htabled
    have hnew := known_of_stored htabled' fun _ => mem_after_of_returned
    rw [returned, ← List.append_assoc]
    exact ih htabled' (known_append (known_change hch h) hnew)

theorem known_returned (lib : Library) (d : Device) (calls : List Call) :
    Known (returned (ofLibrary lib, d) calls) (run (ofLibrary lib, d) calls) :=
  known_run (tabled_ofLibrary lib d) (known_nil _) calls

/-! ## Modules that stay -/

/-- The table has the modules that it had and that a stored or held variant still has. -/
def KeepsReferenced (held : List Variant) (s s' : VariantStore) : Prop :=
  ∀ m, m ∈ s'.modules ↔
    m ∈ s.modules ∧ ∃ v, (v ∈ s'.variants ∨ v ∈ held) ∧ (v.shader.digest, v.shaderModule) = m

theorem keepsReferenced_releaseModules {kept : List Variant} (lib : Library) (h : Tabled (s, d))
    (hknown : Known held (s, d)) (hkept : ∀ v ∈ kept, v ∈ s.variants) :
    KeepsReferenced held s (releaseModules held { s with library := lib, variants := kept }) := by
  intro m
  rw [mem_releaseModules]
  constructor
  · rintro ⟨hm, v, hv, hnumber⟩
    refine ⟨hm, v, hv, ?_⟩
    rcases hv with hv | hv
    · exact h.eq_of_number (h.tabled v (hkept v hv)) hm hnumber
    · exact hknown.eq_of_number v hv m hm hnumber.symm
  · rintro ⟨hm, v, hv, rfl⟩
    exact ⟨hm, v, hv, rfl⟩

theorem keepsReferenced_invalidate (h : Tabled (s, d)) (hknown : Known held (s, d))
    (key : RequestKey) : KeepsReferenced held s (s.invalidate held key).state :=
  keepsReferenced_releaseModules s.library h hknown fun _ hv => (List.mem_filter.mp hv).1

theorem keepsReferenced_register {f : Feature} {change : Registration} (h : Tabled (s, d))
    (hknown : Known held (s, d)) (hr : (s.register held f).result = .ok change) :
    KeepsReferenced held s (s.register held f).state := by
  cases hlib : (s.library.register f).result with
  | error e => simp [(register_of_failed held hlib).1] at hr
  | ok previous =>
    rw [(register_of_ok held hlib).2]
    exact keepsReferenced_releaseModules _ h hknown fun _ hv => (List.mem_filter.mp hv).1

/-! ## No module without a variant -/

theorem owned_after (htabled : Tabled w) (h : Owned w.1) (op : Op) : Owned (after w ⟨op, []⟩).1 := by
  have hreleased {kept : List Variant} (lib : Library) (hkept : ∀ v ∈ kept, v ∈ w.1.variants) :
      Owned (releaseModules [] { w.1 with library := lib, variants := kept }) :=
    (owned_releaseModules_iff lib htabled hkept (by simp)).mpr (by simp)
  cases op with
  | request ids => exact owned_after_request h ids
  | invalidate key => exact hreleased w.1.library fun _ hv => (List.mem_filter.mp hv).1
  | register f =>
    cases hlib : (w.1.library.register f).result with
    | error e => simpa only [after, (register_of_failed [] hlib).2] using h
    | ok previous =>
      simp only [after, (register_of_ok [] hlib).2]
      exact hreleased _ fun _ hv => (List.mem_filter.mp hv).1
  | invalidateAll => simp [after, invalidateAll, Owned]
  | reload => simp [after, reload, invalidateAll, Owned]
  | dump on => exact h
  | others calls => exact h

theorem owned_run {calls : List Call} (htabled : Tabled w) (h : Owned w.1)
    (hheld : ∀ c ∈ calls, c.held = []) : Owned (run w calls).1 := by
  induction calls generalizing w with
  | nil => exact h
  | cons c calls ih =>
    obtain ⟨hc, hcalls⟩ := List.forall_mem_cons.mp hheld
    obtain ⟨op, held⟩ := c
    obtain rfl : held = [] := hc
    exact ih (tabled_change (change_after w ⟨op, []⟩) htabled) (owned_after htabled h op) hcalls

theorem Tabled.mem_digests_iff (h : Tabled w) (howned : Owned w.1) (x : Digest) :
    x ∈ w.1.modules.map Prod.fst ↔ ∃ v ∈ w.1.variants, v.shader.digest = x := by
  constructor
  · intro hx
    obtain ⟨m, hm, rfl⟩ := List.mem_map.mp hx
    obtain ⟨v, hv, rfl⟩ := howned m hm
    exact ⟨v, hv, rfl⟩
  · rintro ⟨v, hv, rfl⟩
    exact List.mem_map.mpr ⟨_, h.tabled v hv, rfl⟩

/-! ## Sharing -/

namespace Tabled

variable {u v : Variant}

theorem lookup_digest (h : Tabled w) (hv : v ∈ w.1.variants) :
    w.1.modules.lookup v.shader.digest = some v.shaderModule := by
  cases hl : w.1.modules.lookup v.shader.digest with
  | none => exact absurd rfl (lookup_eq_none hl _ (h.tabled v hv))
  | some x =>
    obtain ⟨l₁, l₂, hs, -⟩ := List.lookup_eq_some_iff.mp hl
    have hx : (v.shader.digest, x) ∈ w.1.modules := by simp [hs]
    exact congrArg (fun m => some m.2) (h.eq_of_digest hx (h.tabled v hv) rfl)

theorem module_eq_iff (h : Tabled w) (hu : u ∈ w.1.variants) (hv : v ∈ w.1.variants) :
    u.shaderModule = v.shaderModule ↔ u.shader.digest = v.shader.digest := by
  constructor
  · intro he
    exact congrArg Prod.fst (h.eq_of_number (h.tabled u hu) (h.tabled v hv) (congrArg _ he))
  · intro he
    exact congrArg Prod.snd (h.eq_of_digest (h.tabled u hu) (h.tabled v hv) he)

theorem module_id_eq_iff (h : Tabled w) (hu : u ∈ w.1.variants) (hv : v ∈ w.1.variants) :
    u.shaderModule.id = v.shaderModule.id ↔ u.shaderModule = v.shaderModule := by
  constructor
  · intro he
    exact congrArg Prod.snd (h.eq_of_number (h.tabled u hu) (h.tabled v hv) he)
  · intro he
    rw [he]

end Tabled

theorem Current.digest_eq_of_features_eq {u v : Variant} (h : Current s) (hu : u ∈ s.variants)
    (hv : v ∈ s.variants) (hf : u.features = v.features) : u.shader.digest = v.shader.digest :=
  Library.digest_eq_of_features_eq (h.composes u hu) (h.composes v hv) hf

/-- In every run, stored variants have the same module just when the digests of their sources are equal. -/
theorem modules_shared (lib : Library) (start : Device) (calls : List Call) :
    let w := run (ofLibrary lib, start) calls
    let s := w.1
    (∀ v ∈ s.variants, s.modules.lookup v.shader.digest = some v.shaderModule) ∧
    (∀ u ∈ s.variants, ∀ v ∈ s.variants,
      (u.shaderModule = v.shaderModule ↔ u.shader.digest = v.shader.digest) ∧
      (u.shaderModule.id = v.shaderModule.id ↔ u.shaderModule = v.shaderModule) ∧
      (u.features = v.features → u.shaderModule = v.shaderModule)) ∧
    (∀ held ⊆ returned (ofLibrary lib, start) calls,
      (∀ key, KeepsReferenced held s (s.invalidate held key).state) ∧
      ∀ f change, (s.register held f).result = .ok change →
        KeepsReferenced held s (s.register held f).state) ∧
    ((∀ c ∈ calls, c.held = []) →
      ∀ x, x ∈ s.modules.map Prod.fst ↔ ∃ v ∈ s.variants, v.shader.digest = x) := by
  intro w s
  have htabled : Tabled w := tabled_run (tabled_ofLibrary lib start) calls
  have hcurrent : Current s := current_run (current_ofLibrary lib) calls
  refine ⟨fun v hv => htabled.lookup_digest hv, ?_, ?_, ?_⟩
  · intro u hu v hv
    refine ⟨htabled.module_eq_iff hu hv, htabled.module_id_eq_iff hu hv, ?_⟩
    intro hf
    exact (htabled.module_eq_iff hu hv).mpr (hcurrent.digest_eq_of_features_eq hu hv hf)
  · intro held hheld
    have hreturned := known_returned lib start calls
    have hknown : Known held w :=
      ⟨fun v hv => hreturned.numbers_lt v (hheld hv), fun v hv => hreturned.eq_of_number v (hheld hv)⟩
    exact ⟨keepsReferenced_invalidate htabled hknown,
      fun f change hr => keepsReferenced_register htabled hknown hr⟩
  · intro hheld
    exact htabled.mem_digests_iff (owned_run (tabled_ofLibrary lib start) (by simp [Owned, ofLibrary])
      hheld)

end ShaderWeave.VariantStore
