import ShaderWeave.Proofs.Shader.Composition
import ShaderWeave.Variant.Store

/-!
# Runs of a store of variants

Whatever is asked of a store, one of three things happens to its variants: they stay, one is added,
or some are dropped. The invariants of all runs are case analyses over these.
-/

namespace ShaderWeave

/-- Counts of calls, one after another. -/
def CallCounts.add (a b : CallCounts) : CallCounts where
  shaderModules := a.shaderModules + b.shaderModules
  bindGroupLayouts := a.bindGroupLayouts + b.bindGroupLayouts
  pipelineLayouts := a.pipelineLayouts + b.pipelineLayouts
  renderPipelines := a.renderPipelines + b.renderPipelines

/-- The device after further calls. -/
def Device.also (d : Device) (calls : CallCounts) : Device := ⟨d.counts.add calls⟩

theorem Device.also_also (d : Device) (a b : CallCounts) : (d.also a).also b = d.also (a.add b) := by
  simp only [also, CallCounts.add, Nat.add_assoc]

theorem Device.nextId_also (d : Device) (calls : CallCounts) :
    (d.also calls).nextId = d.nextId + calls.total := by
  simp only [nextId, also, CallCounts.add, CallCounts.total]
  omega

namespace VariantStore

/-! ## Calls and runs -/

inductive Op
  | request (ids : List String)
  | invalidate (key : RequestKey)
  | invalidateAll
  | register (f : Feature)
  | reload
  | dump (on : Bool)
  /-- Others use the device. -/
  | others (calls : CallCounts)

structure Call where
  op : Op
  /-- The variants that callers hold meanwhile. -/
  held : List Variant := []

/-- The store and its device after a call. -/
def after (w : VariantStore × Device) (c : Call) : VariantStore × Device :=
  match c.op with
  | .request ids => (w.1.getOrCreate w.2 ids).state
  | .invalidate key => ((w.1.invalidate c.held key).state, w.2)
  | .invalidateAll => (w.1.invalidateAll.state, w.2)
  | .register f => ((w.1.register c.held f).state, w.2)
  | .reload => (w.1.reload.state, w.2)
  | .dump on => ({ w.1 with dumpSource := on }, w.2)
  | .others calls => (w.1, w.2.also calls)

def run (w : VariantStore × Device) (calls : List Call) : VariantStore × Device :=
  calls.foldl after w

@[simp]
theorem run_nil (w : VariantStore × Device) : run w [] = w := rfl

@[simp]
theorem run_cons (w : VariantStore × Device) (c : Call) (calls : List Call) :
    run w (c :: calls) = run (after w c) calls := rfl

theorem run_append (w : VariantStore × Device) (a b : List Call) :
    run w (a ++ b) = run (run w a) b := List.foldl_append

/-- What a call does to the library. -/
def Call.library (lib : Library) (c : Call) : Library :=
  match c.op with
  | .register f => (lib.register f).state
  | .reload => lib.reload.state
  | _ => lib

/-- The sources that a call composes. A request that finds its variant composes nothing. -/
def Call.sources (c : Call) (s : VariantStore) : List String :=
  match c.op with
  | .request ids => if s.contains ids then [] else s.library.sources ids
  | _ => []

/-- The sources that a run composes. -/
def sources (w : VariantStore × Device) : List Call → List String
  | [] => []
  | c :: calls => c.sources w.1 ++ sources (after w c) calls

theorem sources_append (w : VariantStore × Device) (a b : List Call) :
    sources w (a ++ b) = sources w a ++ sources (run w a) b := by
  induction a generalizing w with
  | nil => rfl
  | cons c a ih => simp [sources, ih]

/-! ## Requests -/

variable {s : VariantStore} {d : Device} {ids : List String} {shader : Shader} {v : Variant}
  {w : VariantStore × Device}

theorem find?_invalid_eq_none_iff :
    ((canonicalIds ids).find? fun id => !decide (IsFeatureId id)) = none ↔
      ∀ id ∈ ids, IsFeatureId id := by
  simp [List.find?_eq_none]

theorem getOrCreate_of_stored (hvalid : ∀ id ∈ ids, IsFeatureId id) (h : s.get? ids = some v) :
    s.getOrCreate d ids = { result := .ok v, state := (s, d), log := [.variantHit v.key] } := by
  unfold getOrCreate
  rw [find?_invalid_eq_none_iff.mpr hvalid, h]

theorem getOrCreate_of_failed {e : ShaderError} (hvalid : ∀ id ∈ ids, IsFeatureId id)
    (h : s.get? ids = none) (hc : s.library.compose ids = .error e) :
    (s.getOrCreate d ids).result = .error e ∧ (s.getOrCreate d ids).state = (s, d) := by
  unfold getOrCreate
  rw [find?_invalid_eq_none_iff.mpr hvalid, h, hc]
  exact ⟨rfl, rfl⟩

theorem getOrCreate_of_composed (hvalid : ∀ id ∈ ids, IsFeatureId id) (h : s.get? ids = none)
    (hc : s.library.compose ids = .ok shader) :
    (s.getOrCreate d ids).result = .ok (s.store d shader).result ∧
      (s.getOrCreate d ids).state = (s.store d shader).state := by
  unfold getOrCreate
  rw [find?_invalid_eq_none_iff.mpr hvalid, h, hc]
  exact ⟨rfl, rfl⟩

theorem getOrCreate_of_invalid {id : String}
    (h : ((canonicalIds ids).find? fun id => !decide (IsFeatureId id)) = some id) :
    s.getOrCreate d ids =
      { result := .error (.unknownFeature id none), state := (s, d), log := [] } := by
  unfold getOrCreate
  rw [h]

/-- The ways a request can go. -/
theorem getOrCreate_cases (s : VariantStore) (d : Device) (ids : List String) :
    (∃ e, (s.getOrCreate d ids).result = .error e ∧ (s.getOrCreate d ids).state = (s, d)) ∨
    (∃ v, (∀ id ∈ ids, IsFeatureId id) ∧ s.get? ids = some v ∧
      (s.getOrCreate d ids).result = .ok v ∧ (s.getOrCreate d ids).state = (s, d)) ∨
    ∃ shader, (∀ id ∈ ids, IsFeatureId id) ∧ s.get? ids = none ∧
      s.library.compose ids = .ok shader ∧
      (s.getOrCreate d ids).result = .ok (s.store d shader).result ∧
      (s.getOrCreate d ids).state = (s.store d shader).state := by
  cases hf : (canonicalIds ids).find? fun id => !decide (IsFeatureId id) with
  | some id =>
    rw [getOrCreate_of_invalid hf]
    exact .inl ⟨_, rfl, rfl⟩
  | none =>
    have hvalid := find?_invalid_eq_none_iff.mp hf
    cases hget : s.get? ids with
    | some v =>
      rw [getOrCreate_of_stored hvalid hget]
      exact .inr (.inl ⟨v, hvalid, rfl, rfl, rfl⟩)
    | none =>
      cases hc : s.library.compose ids with
      | error e => exact .inl ⟨e, getOrCreate_of_failed hvalid hget hc⟩
      | ok shader =>
        exact .inr (.inr ⟨shader, hvalid, rfl, rfl, getOrCreate_of_composed hvalid hget hc⟩)

theorem get?_eq_none_iff : s.get? ids = none ↔ ∀ v ∈ s.variants, v.key ≠ .ofIds ids := by
  simp [VariantStore.get?, find?, List.find?_eq_none]

theorem mem_of_get? (h : s.get? ids = some v) : v ∈ s.variants ∧ v.key = .ofIds ids :=
  ⟨List.mem_of_find?_eq_some h, by simpa using List.find?_some h⟩

/-! ## Storing -/

theorem store_variants (s : VariantStore) (d : Device) (shader : Shader) :
    (s.store d shader).state.1.variants = s.variants ++ [(s.store d shader).result] := by
  unfold store moduleFor
  split <;> rfl

@[simp]
theorem store_library (s : VariantStore) (d : Device) (shader : Shader) :
    (s.store d shader).state.1.library = s.library := by
  unfold store moduleFor
  split <;> rfl

/-- A request makes nothing on the device but modules. -/
theorem getOrCreate_device (s : VariantStore) (d : Device) (ids : List String) :
    ∃ n, (s.getOrCreate d ids).state.2 = d.also { shaderModules := n } := by
  obtain ⟨e, -, hst⟩ | ⟨v, -, -, -, hst⟩ | ⟨shader, -, -, -, -, hst⟩ := getOrCreate_cases s d ids
  · exact ⟨0, by rw [hst]; rfl⟩
  · exact ⟨0, by rw [hst]; rfl⟩
  · rw [hst]
    unfold store moduleFor
    split
    · exact ⟨0, rfl⟩
    · exact ⟨1, rfl⟩

theorem getOrCreate_library (s : VariantStore) (d : Device) (ids : List String) :
    (s.getOrCreate d ids).state.1.library = s.library := by
  obtain ⟨e, -, hst⟩ | ⟨v, -, -, -, hst⟩ | ⟨shader, -, -, -, -, hst⟩ := getOrCreate_cases s d ids
  · rw [hst]
  · rw [hst]
  · rw [hst, store_library]

theorem mem_getOrCreate_of_mem (h : v ∈ s.variants) :
    v ∈ (s.getOrCreate d ids).state.1.variants := by
  obtain ⟨e, -, hst⟩ | ⟨u, -, -, -, hst⟩ | ⟨shader, -, -, -, -, hst⟩ := getOrCreate_cases s d ids
  · rwa [hst]
  · rwa [hst]
  · rw [hst, store_variants]
    exact List.mem_append_left _ h

theorem mem_getOrCreate_of_ok (h : (s.getOrCreate d ids).result = .ok v) :
    v ∈ (s.getOrCreate d ids).state.1.variants := by
  obtain ⟨e, hr, -⟩ | ⟨u, -, hget, hr, hst⟩ | ⟨shader, -, -, -, hr, hst⟩ := getOrCreate_cases s d ids
  · simp [hr] at h
  · obtain rfl : u = v := by simpa [hr] using h
    rw [hst]
    exact (mem_of_get? hget).1
  · obtain rfl : (s.store d shader).result = v := by simpa [hr] using h
    rw [hst, store_variants]
    exact List.mem_append_right _ (List.mem_singleton_self _)

/-- The module of a new variant is the one in the table, or is compiled and put there. -/
theorem store_modules (s : VariantStore) (d : Device) (shader : Shader) :
    ((shader.digest, (s.store d shader).result.shaderModule) ∈ s.modules ∧
      (s.store d shader).state.1.modules = s.modules ∧ (s.store d shader).state.2 = d) ∨
    (s.modules.lookup shader.digest = none ∧ (s.store d shader).result.shaderModule.id = d.nextId ∧
      (s.store d shader).result.shaderModule.source = shader.source ∧
      (s.store d shader).state.1.modules =
        s.modules ++ [(shader.digest, (s.store d shader).result.shaderModule)] ∧
      (s.store d shader).state.2.nextId = d.nextId + 1) := by
  unfold store moduleFor
  split
  · next m hm =>
    obtain ⟨l₁, l₂, hs, -⟩ := List.lookup_eq_some_iff.mp hm
    exact .inl ⟨by simp [hs], rfl, rfl⟩
  · next hm =>
    refine .inr ⟨hm, rfl, rfl, rfl, ?_⟩
    simp [Device.compileModule, Device.nextId, CallCounts.total]
    omega

/-! ## What a call does -/

/-- What a call can do to a store and its device. -/
inductive Change (w : VariantStore × Device) (c : Call) : VariantStore × Device → Prop
  | same {w'} (library : w'.1.library = w.1.library) (variants : w'.1.variants = w.1.variants)
      (modules : w'.1.modules = w.1.modules) (device : w.2.nextId ≤ w'.2.nextId) : Change w c w'
  | added (ids : List String) (shader : Shader) (requested : c.op = .request ids)
      (valid : ∀ id ∈ ids, IsFeatureId id) (missing : w.1.get? ids = none)
      (composed : w.1.library.compose ids = .ok shader) :
      Change w c (w.1.store w.2 shader).state
  | dropped {w'} (device : w'.2 = w.2) (variants : w'.1.variants.Sublist w.1.variants)
      (modules : w'.1.modules.Sublist w.1.modules)
      (kept : ∀ v ∈ w'.1.variants, ∀ m ∈ w.1.modules, m.2.id = v.shaderModule.id → m ∈ w'.1.modules)
      (current : ∀ v ∈ w'.1.variants, ∀ ids, w.1.library.compose ids = .ok v.shader →
        w'.1.library.compose ids = .ok v.shader) : Change w c w'

theorem mem_releaseModules {held : List Variant} {m : Digest × ShaderModule} :
    m ∈ (releaseModules held s).modules ↔
      m ∈ s.modules ∧ ∃ v, (v ∈ s.variants ∨ v ∈ held) ∧ v.shaderModule.id = m.2.id := by
  simp only [releaseModules, List.mem_filter, List.any_eq_true, List.mem_append, beq_iff_eq]

theorem releaseModules_sublist (held : List Variant) (s : VariantStore) :
    (releaseModules held s).modules.Sublist s.modules := List.filter_sublist

theorem register_of_failed {f : Feature} {e : ShaderError} (held : List Variant)
    (h : (s.library.register f).result = .error e) :
    (s.register held f).result = .error e ∧ (s.register held f).state = s := by
  simp [VariantStore.register, h]

theorem register_of_ok {f : Feature} {previous : Option Feature} (held : List Variant)
    (h : (s.library.register f).result = .ok previous) :
    (s.register held f).result =
      .ok ⟨previous, (s.variants.filter (·.features.contains f.id)).map Variant.key⟩ ∧
    (s.register held f).state = releaseModules held { s with
      library := (s.library.register f).state
      variants := s.variants.filter fun v => !v.features.contains f.id } := by
  simp [VariantStore.register, h]

theorem register_library (held : List Variant) (s : VariantStore) (f : Feature) :
    (s.register held f).state.library = (s.library.register f).state := by
  cases h : (s.library.register f).result with
  | error e => rw [(register_of_failed held h).2, Library.register_failed h]
  | ok previous =>
    rw [(register_of_ok held h).2]
    rfl

theorem after_library (w : VariantStore × Device) (c : Call) :
    (after w c).1.library = c.library w.1.library := by
  obtain ⟨op, held⟩ := c
  cases op with
  | request ids => exact getOrCreate_library w.1 w.2 ids
  | register f => exact register_library held w.1 f
  | _ => rfl

theorem run_library (w : VariantStore × Device) (calls : List Call) :
    (run w calls).1.library = calls.foldl Call.library w.1.library := by
  induction calls generalizing w with
  | nil => rfl
  | cons c calls ih => rw [run_cons, ih, after_library, List.foldl_cons]

theorem change_register (held : List Variant) (s : VariantStore) (d : Device) (f : Feature) :
    Change (s, d) ⟨.register f, held⟩ ((s.register held f).state, d) := by
  cases h : (s.library.register f).result with
  | error e =>
    rw [(register_of_failed held h).2]
    exact .same rfl rfl rfl le_rfl
  | ok previous =>
    rw [(register_of_ok held h).2]
    refine .dropped rfl List.filter_sublist (releaseModules_sublist held _) ?_ ?_
    · intro v hv m hm hid
      exact mem_releaseModules.mpr ⟨hm, v, .inl hv, hid.symm⟩
    · intro v hv ids hc
      have hnot : f.id ∉ v.shader.features := by
        simpa [Variant.features] using (List.mem_filter.mp hv).2
      exact Library.compose_register hc h hnot

theorem change_after (w : VariantStore × Device) (c : Call) : Change w c (after w c) := by
  obtain ⟨s, d⟩ := w
  obtain ⟨op, held⟩ := c
  cases op with
  | request ids =>
    change Change (s, d) _ (s.getOrCreate d ids).state
    obtain ⟨e, -, hst⟩ | ⟨v, -, -, -, hst⟩ | ⟨shader, hvalid, hget, hc, -, hst⟩ :=
      getOrCreate_cases s d ids
    · rw [hst]
      exact .same rfl rfl rfl le_rfl
    · rw [hst]
      exact .same rfl rfl rfl le_rfl
    · rw [hst]
      exact .added ids shader rfl hvalid hget hc
  | invalidate key =>
    refine .dropped rfl List.filter_sublist (releaseModules_sublist held _) ?_ fun _ _ _ hc => hc
    intro v hv m hm hid
    exact mem_releaseModules.mpr ⟨hm, v, .inl hv, hid.symm⟩
  | invalidateAll =>
    exact .dropped rfl (List.nil_sublist _) (List.nil_sublist _) (by simp [after, invalidateAll])
      (by simp [after, invalidateAll])
  | register f => exact change_register held s d f
  | reload =>
    exact .dropped rfl (List.nil_sublist _) (List.nil_sublist _)
      (by simp [after, reload, invalidateAll]) (by simp [after, reload, invalidateAll])
  | dump on => exact .same rfl rfl rfl le_rfl
  | others calls =>
    refine .same rfl rfl rfl ?_
    simp only [after, Device.nextId, CallCounts.total, Device.also, CallCounts.add]
    omega

/-- What every change keeps holds after every run. -/
theorem run_induction {P : VariantStore × Device → Prop}
    (step : ∀ w c w', Change w c w' → P w → P w') (calls : List Call) (h : P w) :
    P (run w calls) := by
  induction calls generalizing w with
  | nil => exact h
  | cons c calls ih => exact ih (step w c _ (change_after w c) h)

/-! ## Variants are current -/

theorem nodup_map_concat {α β : Type} {f : α → β} {l : List α} {a : α} (h : (l.map f).Nodup)
    (hfresh : ∀ x ∈ l, f x ≠ f a) : ((l ++ [a]).map f).Nodup := by
  simpa using h.concat (by simpa using hfresh)

/-- Every variant is what the library composes now, and no two have the same key. -/
structure Current (s : VariantStore) : Prop where
  composes : ∀ v ∈ s.variants, s.library.compose v.key.ids = .ok v.shader
  keys_nodup : (s.variants.map Variant.key).Nodup

theorem current_change {c : Call} {w' : VariantStore × Device} (hch : Change w c w')
    (h : Current w.1) : Current w'.1 := by
  cases hch with
  | same library variants modules device =>
    exact ⟨by rw [library, variants]; exact h.composes, by rw [variants]; exact h.keys_nodup⟩
  | added ids shader requested valid missing composed =>
    have hkey : (w.1.store w.2 shader).result.key = .ofIds ids := Library.key_of_compose composed
    refine ⟨?_, ?_⟩
    · intro v hv
      rw [store_library]
      rw [store_variants] at hv
      rcases List.mem_append.mp hv with hv | hv
      · exact h.composes v hv
      · obtain rfl := List.mem_singleton.mp hv
        exact Library.compose_ids_key composed
    · rw [store_variants]
      apply nodup_map_concat h.keys_nodup
      intro v hv
      rw [hkey]
      exact get?_eq_none_iff.mp missing v hv
  | dropped device variants modules kept current =>
    exact ⟨fun v hv => current v hv _ (h.composes v (variants.subset hv)),
      h.keys_nodup.sublist (variants.map Variant.key)⟩

theorem current_run (h : Current w.1) (calls : List Call) : Current (run w calls).1 :=
  run_induction (P := fun w => Current w.1) (fun _ _ _ hch h => current_change hch h) calls h

theorem current_ofLibrary (lib : Library) : Current (ofLibrary lib) :=
  ⟨by simp [ofLibrary], by simp [ofLibrary]⟩

namespace Current

theorem isFeatureId (h : Current s) (hv : v ∈ s.variants) : ∀ id ∈ v.key.ids, IsFeatureId id :=
  Library.isFeatureId_of_compose (h.composes v hv)

theorem ofIds_ids (h : Current s) (hv : v ∈ s.variants) : .ofIds v.key.ids = v.key :=
  (Library.key_of_compose (h.composes v hv)).symm

theorem get?_eq_some_iff (h : Current s) :
    s.get? ids = some v ↔ v ∈ s.variants ∧ v.key = .ofIds ids := by
  constructor
  · exact mem_of_get?
  · rintro ⟨hv, hkey⟩
    obtain ⟨u, hu⟩ := Option.ne_none_iff_exists'.mp
      (mt get?_eq_none_iff.mp (by push Not; exact ⟨v, hv, hkey⟩))
    obtain ⟨hu', hukey⟩ := mem_of_get? hu
    rw [hu, List.inj_on_of_nodup_map h.keys_nodup hu' hv (hukey.trans hkey.symm)]

/-- A stored variant is what its request composes to. -/
theorem compose_of_get? (h : Current s) (hvalid : ∀ id ∈ ids, IsFeatureId id)
    (hget : s.get? ids = some v) : s.library.compose ids = .ok v.shader := by
  obtain ⟨hv, hkey⟩ := mem_of_get? hget
  rw [← h.composes v hv]
  apply Library.compose_eq_of_ofIds_eq hvalid (h.isFeatureId hv)
  rw [h.ofIds_ids hv, hkey]

theorem compose_of_ok (h : Current s) (hr : (s.getOrCreate d ids).result = .ok v) :
    s.library.compose ids = .ok v.shader := by
  obtain ⟨e, hr', -⟩ | ⟨u, hvalid, hget, hr', -⟩ | ⟨shader, -, -, hc, hr', -⟩ :=
    getOrCreate_cases s d ids
  · simp [hr'] at hr
  · obtain rfl : u = v := by simpa [hr'] using hr
    exact h.compose_of_get? hvalid hget
  · obtain rfl : (s.store d shader).result = v := by simpa [hr'] using hr
    exact hc

end Current

/-! ## Serial numbers -/

/-- No two variants have the same serial number, and the next one is new. -/
structure Numbered (s : VariantStore) : Prop where
  serials_lt : ∀ v ∈ s.variants, v.serial < s.nextSerial
  serials_nodup : (s.variants.map Variant.serial).Nodup

theorem Numbered.of_sublist {s' : VariantStore} (h : Numbered s)
    (hsub : s'.variants.Sublist s.variants) (hnext : s'.nextSerial = s.nextSerial) : Numbered s' := by
  refine ⟨?_, h.serials_nodup.sublist (hsub.map Variant.serial)⟩
  intro v hv
  rw [hnext]
  exact h.serials_lt v (hsub.subset hv)

theorem store_serials (s : VariantStore) (d : Device) (shader : Shader) :
    (s.store d shader).result.serial = s.nextSerial ∧
      (s.store d shader).state.1.nextSerial = s.nextSerial + 1 := by
  unfold store moduleFor
  split <;> exact ⟨rfl, rfl⟩

theorem numbered_store (h : Numbered s) (d : Device) (shader : Shader) :
    Numbered (s.store d shader).state.1 := by
  obtain ⟨hserial, hnext⟩ := store_serials s d shader
  refine ⟨?_, ?_⟩
  · intro v hv
    rw [store_variants, List.mem_append, List.mem_singleton] at hv
    rw [hnext]
    rcases hv with hv | rfl
    · exact Nat.lt_succ_of_lt (h.serials_lt v hv)
    · rw [hserial]; exact Nat.lt_succ_self _
  · rw [store_variants]
    apply nodup_map_concat h.serials_nodup
    intro v hv
    rw [hserial]
    exact (h.serials_lt v hv).ne

theorem numbered_after (h : Numbered w.1) (c : Call) : Numbered (after w c).1 := by
  obtain ⟨op, held⟩ := c
  cases op with
  | request ids =>
    change Numbered (w.1.getOrCreate w.2 ids).state.1
    obtain ⟨e, -, hst⟩ | ⟨v, -, -, -, hst⟩ | ⟨shader, -, -, -, -, hst⟩ := getOrCreate_cases w.1 w.2 ids
    · rwa [hst]
    · rwa [hst]
    · rw [hst]; exact numbered_store h w.2 shader
  | invalidate key => exact h.of_sublist List.filter_sublist rfl
  | invalidateAll => exact h.of_sublist (List.nil_sublist _) rfl
  | register f =>
    cases hr : (w.1.library.register f).result with
    | error e => simpa only [after, (register_of_failed held hr).2] using h
    | ok previous =>
      simp only [after, (register_of_ok held hr).2]
      exact h.of_sublist List.filter_sublist rfl
  | reload => exact h.of_sublist (List.nil_sublist _) rfl
  | dump on => exact h.of_sublist (List.Sublist.refl _) rfl
  | others calls => exact h

theorem numbered_run (h : Numbered w.1) (calls : List Call) : Numbered (run w calls).1 := by
  induction calls generalizing w with
  | nil => exact h
  | cons c calls ih => exact ih (numbered_after h c)

theorem numbered_ofLibrary (lib : Library) : Numbered (ofLibrary lib) :=
  ⟨by simp [ofLibrary], by simp [ofLibrary]⟩

end VariantStore

end ShaderWeave
