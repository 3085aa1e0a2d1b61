import ShaderWeave.Proofs.Pipeline.Layouts
import ShaderWeave.Proofs.Pipeline.Registration

/-!
# How long an entry is returned

A request returns the entry it returned before, until a call has made the store forget that entry.
A forgotten entry never comes back: entries are numbered, and what is built later has a greater number.
-/

namespace ShaderWeave

theorem VariantStore.getOrCreate_shaderModules (s : VariantStore) (d : Device) (ids : List String) :
    (s.getOrCreate d ids).state.2.counts.shaderModules ≤ d.counts.shaderModules + 1 := by
  obtain ⟨e, -, hst⟩ | ⟨v, -, -, -, hst⟩ | ⟨shader, -, -, -, -, hst⟩ :=
    getOrCreate_cases s d ids
  · rw [hst]; exact Nat.le_succ _
  · rw [hst]; exact Nat.le_succ _
  · rw [hst]
    unfold store moduleFor
    split
    · exact Nat.le_succ _
    · exact le_rfl

namespace PipelineStore

variable {s s' : PipelineStore} {env : MaskLayouts} {d : Device} {ids : List String} {cull : CullMode}
  {v : Variant} {e e' : BuiltPipeline} {w : World} {c : Call} {calls : List Call} {n : Nat}

/-! ## Numbers of entries -/

theorem pipelines_request (w : World) (ids : List String) (cull : CullMode) (held : List BuiltPipeline) :
    ((after w ⟨.request ids cull, held⟩).store.pipelines = w.store.pipelines ∧
      (after w ⟨.request ids cull, held⟩).store.nextSerial = w.store.nextSerial) ∨
    ∃ e, (after w ⟨.request ids cull, held⟩).store.pipelines = w.store.pipelines ++ [e] ∧
      e.serial = w.store.nextSerial ∧
      (after w ⟨.request ids cull, held⟩).store.nextSerial = w.store.nextSerial + 1 := by
  simp only [after, World.ofState]
  cases hr : (w.store.variants.getOrCreate w.device ids).result with
  | error x =>
    rw [(getOrCreate_of_failed hr).2]
    exact .inl ⟨rfl, rfl⟩
  | ok v =>
    cases hfind : w.store.find? v.key cull with
    | some e =>
      rw [(getOrCreate_of_found w.environment hr hfind).2]
      exact .inl ⟨rfl, rfl⟩
    | none =>
      rw [(getOrCreate_of_missing w.environment hr hfind).2]
      exact .inr ⟨_, rfl, rfl, rfl⟩

/-- What a call does to the pipelines: it drops some, or adds one with the next number. -/
theorem pipelines_after (w : World) (c : Call) :
    ((after w c).store.pipelines.Sublist w.store.pipelines ∧
      (after w c).store.nextSerial = w.store.nextSerial) ∨
    ∃ e, (after w c).store.pipelines = w.store.pipelines ++ [e] ∧ e.serial = w.store.nextSerial ∧
      (after w c).store.nextSerial = w.store.nextSerial + 1 := by
  obtain ⟨op, held⟩ := c
  cases op with
  | request ids cull =>
    refine (pipelines_request w ids cull held).imp_left ?_
    rintro ⟨hpipelines, hnext⟩
    exact ⟨hpipelines ▸ List.Sublist.refl _, hnext⟩
  | invalidate ids => exact .inl ⟨List.filter_sublist, rfl⟩
  | register f =>
    left
    change (w.store.register held f).state.pipelines.Sublist _ ∧
      (w.store.register held f).state.nextSerial = _
    cases hr : (w.store.variants.library.register f).result with
    | error x => rw [register_of_failed hr]; exact ⟨List.Sublist.refl _, rfl⟩
    | ok previous => rw [register_of_ok hr]; exact ⟨List.filter_sublist, rfl⟩
  | setSettings settings =>
    simp only [after, setSettings]
    split
    · exact .inl ⟨List.Sublist.refl _, rfl⟩
    · exact .inl ⟨List.nil_sublist _, rfl⟩
  | invalidateAll => exact .inl ⟨List.nil_sublist _, rfl⟩
  | reload => exact .inl ⟨List.nil_sublist _, rfl⟩
  | clear => exact .inl ⟨List.nil_sublist _, rfl⟩
  | others environment calls => exact .inl ⟨List.Sublist.refl _, rfl⟩

/-- No two entries have the same serial number, and the next one is new. -/
structure Numbered (s : PipelineStore) : Prop where
  serials_lt : ∀ e ∈ s.pipelines, e.serial < s.nextSerial
  serials_nodup : (s.pipelines.map BuiltPipeline.serial).Nodup

theorem numbered_of_empty (h : s.pipelines = []) : Numbered s := ⟨by simp [h], by simp [h]⟩

theorem numbered_after (h : Numbered w.store) (c : Call) : Numbered (after w c).store := by
  obtain ⟨hsub, hnext⟩ | ⟨e, hpipelines, hserial, hnext⟩ := pipelines_after w c
  · refine ⟨?_, h.serials_nodup.sublist (hsub.map _)⟩
    intro x hx
    rw [hnext]
    exact h.serials_lt x (hsub.subset hx)
  · refine ⟨?_, ?_⟩
    · intro x hx
      rw [hpipelines, List.mem_append, List.mem_singleton] at hx
      rw [hnext]
      rcases hx with hx | rfl
      · exact Nat.lt_succ_of_lt (h.serials_lt x hx)
      · rw [hserial]; exact Nat.lt_succ_self _
    · rw [hpipelines]
      apply VariantStore.nodup_map_concat h.serials_nodup
      intro x hx
      rw [hserial]
      exact (h.serials_lt x hx).ne

/-- The number was given, and no stored entry has it. -/
structure Gone (n : Nat) (s : PipelineStore) : Prop where
  given : n < s.nextSerial
  notStored : ∀ e ∈ s.pipelines, e.serial ≠ n

theorem gone_after (h : Gone n w.store) (c : Call) : Gone n (after w c).store := by
  have hgiven := h.given
  obtain ⟨hsub, hnext⟩ | ⟨e, hpipelines, hserial, hnext⟩ := pipelines_after w c
  · exact ⟨by omega, fun x hx => h.notStored x (hsub.subset hx)⟩
  · refine ⟨by omega, ?_⟩
    intro x hx
    rw [hpipelines, List.mem_append, List.mem_singleton] at hx
    rcases hx with hx | rfl
    · exact h.notStored x hx
    · omega

theorem gone_run (h : Gone n w.store) (calls : List Call) : Gone n (run w calls).store :=
  run_induction (P := fun w => Gone n w.store) (fun _ c h => gone_after h c) calls h

theorem gone_of_dropped (h : Numbered w.store) (he : e ∈ w.store.pipelines)
    (hdropped : e ∉ (after w c).store.pipelines) : Gone e.serial (after w c).store := by
  have hlt := h.serials_lt e he
  -- No other entry has the number, and the next one is greater.
  have honly : ∀ x ∈ w.store.pipelines, x ∈ (after w c).store.pipelines → x.serial ≠ e.serial := by
    intro x hx hx' hserial
    obtain rfl := List.inj_on_of_nodup_map h.serials_nodup hx he hserial
    exact hdropped hx'
  obtain ⟨hsub, hnext⟩ | ⟨new, hpipelines, hserial, hnext⟩ := pipelines_after w c
  · exact ⟨by omega, fun x hx => honly x (hsub.subset hx) hx⟩
  · refine ⟨by omega, ?_⟩
    intro x hx
    rcases List.mem_append.mp (hpipelines ▸ hx) with hold | hnew
    · exact honly x hold hx
    · obtain rfl := List.mem_singleton.mp hnew
      omega

/-! ## Evictions -/

/-- The store forgets the entry at this call. -/
def Call.Evicts (w : World) (e : BuiltPipeline) (c : Call) : Prop :=
  match c.op with
  | .invalidate ids => RequestKey.ofIds ids = e.key
  | .invalidateAll | .reload | .clear => True
  | .register f =>
    f.id ∈ e.variant.features ∧ ∃ previous, (w.store.register c.held f).result = .ok previous
  | .setSettings settings => settings ≠ w.store.settings
  | .request .. | .others .. => False

/-- At some call of the run, the store forgets the entry. -/
def Evicted (e : BuiltPipeline) (w : World) : List Call → Prop
  | [] => False
  | c :: calls => c.Evicts w e ∨ Evicted e (after w c) calls

structure Consistent (s : PipelineStore) : Prop where
  keyed : Keyed s
  numbered : Numbered s
  coherent : Coherent s
  current : s.variants.Current

theorem consistent_after (h : Consistent w.store) (c : Call) : Consistent (after w c).store :=
  ⟨keyed_after h.keyed c, numbered_after h.numbered c, coherent_after h.coherent c,
    current_run h.current [c]⟩

theorem consistent_run (h : Consistent w.store) (calls : List Call) :
    Consistent (run w calls).store :=
  run_induction (P := fun w => Consistent w.store) (fun _ c h => consistent_after h c) calls h

theorem consistent_start (host : HostLayouts) (lib : Library) (settings : PipelineSettings)
    (env : MaskLayouts) (d : Device) : Consistent (start host lib settings env d).store :=
  ⟨keyed_of_empty rfl, numbered_of_empty rfl, coherent_of_empty rfl,
    current_run_start host lib settings env d []⟩

theorem register_ok_isFeatureId {held : List BuiltPipeline} {f : Feature} {previous : Option Feature}
    (h : (s.register held f).result = .ok previous) : IsFeatureId f.id := by
  by_contra hf
  have hfailed : (s.variants.library.register f).result = .error (.invalidFeatureId f.id) := by
    simp [Library.register, Registry.register, hf]
  obtain ⟨hresult, -⟩ :=
    VariantStore.register_of_failed (heldVariants (s.pipelines ++ held)) hfailed
  simp [register, hresult] at h

theorem mem_after_iff (h : Consistent w.store) (he : e ∈ w.store.pipelines) :
    e ∈ (after w c).store.pipelines ↔ ¬ c.Evicts w e := by
  obtain ⟨op, held⟩ := c
  cases op with
  | request ids cull =>
    simp only [Call.Evicts, not_false_eq_true, iff_true]
    obtain ⟨hpipelines, -⟩ | ⟨x, hpipelines, -, -⟩ := pipelines_request w ids cull held
    · rwa [hpipelines]
    · rw [hpipelines]
      exact List.mem_append_left _ he
  | invalidate ids =>
    simp only [Call.Evicts, after, invalidate, List.mem_filter, bne_iff_ne, ne_eq]
    rw [and_iff_right he, eq_comm]
  | register f =>
    by_cases hf : IsFeatureId f.id
    · have hok := register_result_of_isFeatureId w.store held hf
      simp only [Call.Evicts, after]
      rw [mem_pipelines_register h.coherent h.current hf, and_iff_right he, hok]
      simp
    · have hfailed : (w.store.variants.library.register f).result = .error (.invalidFeatureId f.id) := by
        simp [Library.register, Registry.register, hf]
      simp only [Call.Evicts, after, register_of_failed hfailed, he, true_iff]
      rintro ⟨-, previous, hok⟩
      exact hf (register_ok_isFeatureId hok)
  | setSettings settings =>
    simp only [Call.Evicts, after, setSettings, not_not]
    split
    · next hsame => simp [hsame, he]
    · next hother => simp [hother]
  | invalidateAll => simp [Call.Evicts, after, invalidateAll, clear]
  | reload => simp [Call.Evicts, after, reload]
  | clear => simp [Call.Evicts, after, clear]
  | others environment calls => simpa [Call.Evicts, after] using he

theorem stored_or_gone (h : Consistent w.store) (he : e ∈ w.store.pipelines) (calls : List Call) :
    (¬ Evicted e w calls → e ∈ (run w calls).store.pipelines) ∧
      (Evicted e w calls → Gone e.serial (run w calls).store) := by
  induction calls generalizing w with
  | nil => exact ⟨fun _ => he, fun hevicted => hevicted.elim⟩
  | cons c calls ih =>
    have hnext := consistent_after h c
    -- The first call that evicts it decides: whatever comes after, its number is not given again.
    by_cases hc : c.Evicts w e
    · refine ⟨fun hnot => absurd (.inl hc) hnot, fun _ => gone_run ?_ calls⟩
      exact gone_of_dropped h.numbered he fun hkept => (mem_after_iff h he).mp hkept hc
    · have hkept := (mem_after_iff h he).mpr hc
      refine ⟨fun hnot => (ih hnext hkept).1 fun hevicted => hnot (.inr hevicted), ?_⟩
      exact fun hevicted => (ih hnext hkept).2 (hevicted.resolve_left hc)

/-! ## Requests -/

/-- The request finds its entry stored. It asks nothing of the environment and the device, since it
does the same with any of them. -/
def Hits (s : PipelineStore) (ids : List String) (cull : CullMode) (e : BuiltPipeline) : Prop :=
  ∀ env d, s.getOrCreate env d ids cull =
    { result := .ok e, state := (s, env, d), log := [.variantHit e.key, .pipelineHit e.key cull] }

theorem Consistent.hits (h : Consistent s) (he : e ∈ s.pipelines) (hvalid : ∀ id ∈ ids, IsFeatureId id)
    (hkey : e.key = .ofIds ids) : s.Hits ids e.cull e := by
  intro env d
  have hget : s.variants.get? ids = some e.variant :=
    h.current.get?_eq_some_iff.mpr ⟨h.coherent.stored e he, hkey⟩
  have hfind : s.find? e.variant.key e.cull = some e :=
    h.keyed.find?_eq_some_iff.mpr ⟨he, rfl, rfl⟩
  unfold getOrCreate
  rw [VariantStore.getOrCreate_of_stored hvalid hget]
  simp only [pipelineFor]
  rw [show find? { s with variants := s.variants } e.variant.key e.cull = some e from hfind]
  rfl

theorem pipelineFor_shaderModules (s : PipelineStore) (env : MaskLayouts) (d : Device) (v : Variant)
    (cull : CullMode) :
    (s.pipelineFor env d v cull).state.2.2.counts.shaderModules = d.counts.shaderModules := by
  cases hfind : s.find? v.key cull with
  | some e => rw [(pipelineFor_of_found hfind).2]
  | none =>
    obtain ⟨d', hmakes, -, hdevice⟩ := s.build_makes env d v cull 0
    rw [(pipelineFor_of_missing hfind).2, hdevice, hmakes.device]
    simp [Device.also, CallCounts.add]

theorem getOrCreate_shaderModules (s : PipelineStore) (env : MaskLayouts) (d : Device)
    (ids : List String) (cull : CullMode) :
    (s.getOrCreate env d ids cull).state.2.2.counts.shaderModules ≤ d.counts.shaderModules + 1 := by
  have hvariant := VariantStore.getOrCreate_shaderModules s.variants d ids
  cases hr : (s.variants.getOrCreate d ids).result with
  | error e => rwa [(getOrCreate_of_failed hr).2]
  | ok v => rwa [(getOrCreate_of_ok hr).2, pipelineFor_shaderModules]

/-- A request returns the entry of an earlier request for the same ids and cull mode, unless the store forgot
it between them. If it did, the entry is another one. -/
theorem request_stable (host : HostLayouts) (lib : Library) (settings : PipelineSettings)
    (env : MaskLayouts) (d : Device) (earlier between : List Call) (held : List BuiltPipeline)
    (a b : List String) (cull : CullMode) (e : BuiltPipeline)
    (hok : (run (start host lib settings env d) earlier).request a cull = .ok e)
    (hsame : ∀ id, id ∈ a ↔ id ∈ b) :
    let w := after (run (start host lib settings env d) earlier) ⟨.request a cull, held⟩
    let w' := run w between
    e.key = .ofIds a ∧
    (¬ Evicted e w between → w'.store.Hits b cull e) ∧
    (Evicted e w between → ∀ e', w'.request b cull = .ok e' → e'.serial ≠ e.serial) ∧
    ∀ env d ids cull, (w'.store.getOrCreate env d ids cull).state.2.2.counts.shaderModules ≤
      d.counts.shaderModules + 1 := by
  intro w w'
  have hearlier := consistent_run (consistent_start host lib settings env d) earlier
  have hw : Consistent w.store := consistent_after hearlier _
  have he : e ∈ w.store.pipelines := mem_after_request hok held
  obtain ⟨hr, hcull, -⟩ := request_ok hearlier.coherent hearlier.current hok
  have hcompose := hearlier.current.compose_of_ok hr
  have hkey : e.key = .ofIds a := Library.key_of_compose hcompose
  obtain ⟨hkept, hgone⟩ := stored_or_gone hw he between
  refine ⟨hkey, ?hit, ?evicted, fun env d ids cull => getOrCreate_shaderModules w'.store env d ids cull⟩
  case hit =>
    intro hnot
    have hvalid : ∀ id ∈ b, IsFeatureId id := fun id hid =>
      Library.isFeatureId_of_compose hcompose id ((hsame id).mpr hid)
    have hkeyb : e.key = .ofIds b := by
      rw [hkey, RequestKey.ofIds, canonicalIds_congr hsame, ← RequestKey.ofIds]
    exact hcull ▸ (consistent_run hw between).hits (hkept hnot) hvalid hkeyb
  case evicted =>
    intro hevicted e' hok'
    exact (gone_after (hgone hevicted) ⟨.request b cull, []⟩).notStored e' (mem_after_request hok' [])

def mist : Feature := { id := "mist", stage := .fragment }

theorem request_stable_fog_beside_mist :
    let w := run plain (unheld [.register (fogOf "fn thin() \x7b\x7d")])
    let w' := after w ⟨.request ["fog"] .back, []⟩
    ∃ e, w.request ["fog"] .back = .ok e ∧
      (run w' (unheld [.request ["fog"] .front, .register mist, .invalidate ["mist"]])).store.Hits
        ["fog", "fog"] .back e ∧
      ∃ e', (run w' (unheld [.register (fogOf "fn dense() \x7b\x7d")])).request ["fog"] .back =
        .ok e' ∧ e'.serial ≠ e.serial := by
  intro w w'
  have hfog : (w.request ["fog"] .back).toOption.map (fun e => (e.key.text, e.variant.features)) =
      some ("fog", ["fog"]) := by decide +kernel
  have hanew : ((run w' (unheld [.register (fogOf "fn dense() \x7b\x7d")])).request ["fog"]
      .back).toOption.map BuiltPipeline.cull = some .back := by decide +kernel
  obtain ⟨e, hok, he⟩ := exists_request_of_map hfog
  obtain ⟨e', hok', -⟩ := exists_request_of_map hanew
  obtain ⟨hkey, hfeatures⟩ : e.key.text = "fog" ∧ e.variant.features = ["fog"] := by simpa using he
  have hstable between (b : List String) (hb : ∀ id, id ∈ ["fog"] ↔ id ∈ b) :=
    request_stable plain.store.host .blank {} {} plain.device
      (unheld [.register (fogOf "fn thin() \x7b\x7d")]) between [] ["fog"] b .back e hok hb
  refine ⟨e, hok, ?_, e', hok', ?_⟩
  · refine (hstable _ ["fog", "fog"] (by simp)).2.1 ?_
    have hmist : RequestKey.ofIds ["mist"] ≠ e.key := by
      intro hsame
      have htext := congrArg RequestKey.text hsame
      rw [hkey] at htext
      exact absurd htext (by decide)
    simp [unheld, Evicted, Call.Evicts, hfeatures, mist, hmist]
  · have hevicted : Evicted e w' (unheld [.register (fogOf "fn dense() \x7b\x7d")]) :=
      Or.inl ⟨by simp [hfeatures, fogOf], _, register_result_of_isFeatureId w'.store [] (by decide)⟩
    exact (hstable _ ["fog"] (by simp)).2.2.1 hevicted e' hok'

end PipelineStore

end ShaderWeave
