import ShaderWeave.Proofs.Environment.Slots
import ShaderWeave.Proofs.Pipeline.Layouts
import ShaderWeave.Proofs.Pipeline.Request

/-!
# What a pipeline gets of the environment

An environment that is only used through its operations keeps, for each mask, a layout with the slots of
that mask. So the layout of group 3 has what the mask covers of the environment of the shader. What it
does not cover has no place in the layout, and is warned of once, when the pipeline is built.
-/

namespace ShaderWeave

namespace MaskLayouts

variable {env : MaskLayouts} {d : Device} {m : Mask} {l : BindGroupLayout}

/-- The environment was made empty, and others use its operations alone, with whatever devices. -/
inductive Reached : MaskLayouts → Prop
  | new : Reached {}
  | layoutFor {env : MaskLayouts} (h : Reached env) (d : Device) (m : Mask) :
      Reached (env.layoutFor d m).state.1
  | clear {env : MaskLayouts} (h : Reached env) : Reached env.clear

theorem layoutFor_entries (h : ∀ l, env.get? m = some l → l.entries = m.layoutEntries) (d : Device) :
    (env.layoutFor d m).result.entries = m.layoutEntries := by
  cases hkept : env.get? m with
  | some l =>
    rw [layoutFor_of_kept hkept]
    exact h l hkept
  | none =>
    obtain ⟨label, hresult, -, -⟩ := layoutFor_of_missing (d := d) hkept
    rw [hresult]
    rfl

theorem Reached.get?_entries (h : env.Reached) (hl : env.get? m = some l) :
    l.entries = m.layoutEntries := by
  induction h generalizing m l with
  | new => simp [MaskLayouts.get?] at hl
  | clear => simp [MaskLayouts.clear, MaskLayouts.get?] at hl
  | @layoutFor env _ d k ih =>
    rw [get?_layoutFor] at hl
    split at hl
    · next hk =>
      subst hk
      obtain rfl := Option.some.inj hl
      exact layoutFor_entries (fun _ => ih) d
    · exact ih hl

end MaskLayouts

/-! ## Logs without a warning -/

/-- Nothing is said of slots that the features of a shader are not known to need. -/
def Log.Quiet (log : Log) : Prop := ∀ key m, .outsideCapabilities key m ∉ log

theorem Log.Quiet.append {a b : Log} (ha : a.Quiet) (hb : b.Quiet) : Log.Quiet (a ++ b) := by
  intro key m h
  exact (List.mem_append.mp h).elim (ha key m) (hb key m)

theorem Sections.quiet_warnings (features : List Feature) : (warnings features).Quiet := by
  have hredeclarations (seen : List Varying) (varyings : List (Feature × Varying)) :
      (redeclarations seen varyings).Quiet := by
    intro key m
    fun_induction redeclarations seen varyings <;> simp [*]
  exact (hredeclarations _ _).append (by simp [Log.Quiet, ignoredInjections])

theorem Library.quiet_composeLog (lib : Library) (ids : List String) : (lib.composeLog ids).Quiet := by
  unfold composeLog
  split
  · simp [Log.Quiet]
  · next features _ =>
    split
    · simp [Log.Quiet]
    · split
      · exact Sections.quiet_warnings features
      · exact (Sections.quiet_warnings features).append (by simp [Log.Quiet, finished])

theorem VariantStore.quiet_store (s : VariantStore) (d : Device) (shader : Shader) :
    (s.store d shader).log.Quiet := by
  refine Log.Quiet.append ?_ ?_
  · split <;> simp [Log.Quiet]
  · unfold moduleFor
    split <;> simp [Log.Quiet]

theorem VariantStore.quiet_getOrCreate (s : VariantStore) (d : Device) (ids : List String) :
    (s.getOrCreate d ids).log.Quiet := by
  have hcompose := s.library.quiet_composeLog ids
  unfold getOrCreate
  split
  · simp [Log.Quiet]
  · split
    · simp [Log.Quiet]
    · dsimp only
      split
      · exact hcompose
      · exact hcompose.append (s.quiet_store d _)

namespace PipelineStore

variable {env : MaskLayouts} {d : Device} {shader : Shader} {w : World} {c : Call} {ids : List String}
  {cull : CullMode} {e : BuiltPipeline} {key : RequestKey} {m : Mask}

/-! ## Layouts of group 3 -/

theorem reached_environmentLayout (h : env.Reached) (d : Device) (shader : Shader) :
    (environmentLayout env d shader).state.1.Reached := by
  unfold environmentLayout
  split
  · exact h
  · exact h.layoutFor d shader.capabilityMask

theorem environmentLayout_entries (h : env.Reached) (d : Device) (shader : Shader) :
    (environmentLayout env d shader).result.entries = shader.capabilityMask.layoutEntries := by
  by_cases hnone : shader.capabilityMask = .empty
  · rw [environmentLayout_of_none env d hnone, hnone]
    rfl
  · rw [environmentLayout, if_neg (by simpa [Mask.isEmpty] using hnone)]
    exact MaskLayouts.layoutFor_entries (fun _ => h.get?_entries) d

/-- The environment is used as it has to be, and every pipeline has the layout of its mask. -/
structure Supplied (w : World) : Prop where
  reached : w.environment.Reached
  entries : ∀ e ∈ w.store.pipelines, e.environmentLayout.entries = e.mask.layoutEntries

theorem supplied_of_leaves {w' : World} (h : Supplied w) (hw : Leaves w w') : Supplied w' where
  reached := hw.environment ▸ h.reached
  entries e he := h.entries e (hw.pipelines e he)

theorem supplied_of_builds {w' : World} (h : Supplied w) (hw : Builds w e w') : Supplied w' := by
  obtain ⟨n, v, cull, rfl, henvironment, -⟩ := hw.build
  refine ⟨?_, ?_⟩
  · rw [henvironment]
    exact reached_environmentLayout h.reached _ v.shader
  · intro e he
    rw [hw.pipelines, List.mem_append, List.mem_singleton] at he
    rcases he with he | rfl
    · exact h.entries e he
    · exact environmentLayout_entries h.reached _ v.shader

/-- Whether others leave an environment that was only used through its operations. -/
def Op.KeepsReached : Op → Prop
  | .others environment _ => environment.Reached
  | _ => True

theorem supplied_after (h : Supplied w) (hc : c.op.KeepsReached) : Supplied (after w c) := by
  obtain ⟨op, held⟩ := c
  cases op with
  | request ids cull =>
    obtain ⟨hleaves, -⟩ | ⟨e, -, hbuilds⟩ := request_cases w ids cull held
    · exact supplied_of_leaves h hleaves
    · exact supplied_of_builds h hbuilds
  | others environment calls => exact ⟨hc, h.entries⟩
  | _ => exact supplied_of_leaves h (leaves_of_not_request trivial (by simp))

theorem supplied_run {calls : List Call} (h : Supplied w) (hcalls : ∀ c ∈ calls, c.op.KeepsReached) :
    Supplied (run w calls) := by
  induction calls generalizing w with
  | nil => exact h
  | cons c calls ih =>
    rw [List.forall_mem_cons] at hcalls
    exact ih (supplied_after h hcalls.1) hcalls.2

theorem request_entries (h : Supplied w) (hok : w.request ids cull = .ok e) :
    e.environmentLayout.entries = e.mask.layoutEntries :=
  (supplied_after (c := ⟨.request ids cull, []⟩) h trivial).entries e (mem_after_request hok [])

/-! ## The warning -/

theorem mem_coverageLog_iff : .outsideCapabilities key m ∈ coverageLog shader ↔
    key = shader.key ∧ m = shader.declaredMask.difference shader.capabilityMask ∧ m ≠ .empty := by
  simp only [coverageLog, Mask.isEmpty, beq_iff_eq]
  split
  · next hempty => simp [hempty]
  · next hsome =>
    simp only [List.mem_singleton, Event.outsideCapabilities.injEq]
    refine and_congr_right fun _ => ⟨fun h => ⟨h, h ▸ hsome⟩, And.left⟩

theorem mem_log_build_iff (s : PipelineStore) (env : MaskLayouts) (d : Device) (v : Variant)
    (cull : CullMode) : .outsideCapabilities key m ∈ (s.build env d v cull).log ↔
      .outsideCapabilities key m ∈ coverageLog v.shader := by
  have henvironment :
      (environmentLayout env (texturesLayout s.host d v.shader).2 v.shader).log.Quiet := by
    unfold environmentLayout MaskLayouts.layoutFor
    split
    · simp [Log.Quiet]
    · split <;> simp [Log.Quiet]
  have hquiet := henvironment key m
  simp [build, hquiet]

theorem log_getOrCreate_of_ok {s : PipelineStore} {v : Variant}
    (h : (s.variants.getOrCreate d ids).result = .ok v) :
    (s.getOrCreate env d ids cull).log = (s.variants.getOrCreate d ids).log ++
      (pipelineFor { s with variants := (s.variants.getOrCreate d ids).state.1 } env
        (s.variants.getOrCreate d ids).state.2 v cull).log := by
  simp [getOrCreate, h]

theorem mem_log_request_iff (hok : w.request ids cull = .ok e) :
    .outsideCapabilities key m ∈ (w.store.getOrCreate w.environment w.device ids cull).log ↔
      e ∉ w.store.pipelines ∧ .outsideCapabilities key m ∈ coverageLog e.variant.shader := by
  obtain ⟨v, hr⟩ := exists_variant_of_request hok
  have hquiet := w.store.variants.quiet_getOrCreate w.device ids key m
  rw [log_getOrCreate_of_ok hr, List.mem_append, or_iff_right hquiet]
  cases hfind : w.store.find? v.key cull with
  | some x =>
    obtain rfl : x = e := Except.ok.inj
      ((getOrCreate_of_found w.environment hr hfind).1.symm.trans hok)
    have hstored : x ∈ w.store.pipelines := (mem_of_find? hfind).1
    rw [find?] at hfind
    simp [pipelineFor, find?, hfind, hstored]
  | none =>
    obtain rfl := Except.ok.inj ((getOrCreate_of_missing w.environment hr hfind).1.symm.trans hok)
    have hnew : (w.store.build w.environment (w.store.variants.getOrCreate w.device ids).state.2 v
        cull).result ∉ w.store.pipelines := by
      intro hstored
      exact find?_eq_none_iff.mp hfind _ hstored rfl
    rw [and_iff_right hnew]
    rw [find?] at hfind
    simp only [pipelineFor, find?, hfind]
    exact mem_log_build_iff _ w.environment _ v cull

/-- What a request returns after a run is for the composed shader, and its layout of group 3 has the slots
that the features are known to need. -/
theorem request_run_start {host : HostLayouts} {lib : Library} {settings : PipelineSettings}
    {calls : List Call} (henv : env.Reached) (hcalls : ∀ c ∈ calls, c.op.KeepsReached)
    (hok : (run (start host lib settings env d) calls).request ids cull = .ok e) :
    (run (start host lib settings env d) calls).library.compose ids = .ok e.variant.shader ∧
      e.mask = e.variant.shader.capabilityMask ∧
      e.environmentLayout.entries = e.mask.layoutEntries := by
  have hcurrent := current_run_start host lib settings env d calls
  obtain ⟨hr, -, hfits⟩ := request_ok (coherent_run_start host lib settings env d calls) hcurrent hok
  have hstart : Supplied (start host lib settings env d) := ⟨henv, by simp [start, ofLibrary]⟩
  exact ⟨hcurrent.compose_of_ok hr, hfits.mask, request_entries (supplied_run hstart hcalls) hok⟩

/-- The layout of group 3 has the slots that the features are known to need, and the request that builds the
pipeline warns of the bindings that have no place there. -/
theorem environmentLayout_supplies (host : HostLayouts) (lib : Library) (settings : PipelineSettings)
    (env : MaskLayouts) (d : Device) (calls : List Call) (ids : List String) (cull : CullMode)
    (e : BuiltPipeline) (henv : env.Reached) (hcalls : ∀ c ∈ calls, c.op.KeepsReached)
    (hok : (run (start host lib settings env d) calls).request ids cull = .ok e) :
    let w := run (start host lib settings env d) calls
    let shader := e.variant.shader
    w.library.compose ids = .ok shader ∧
    e.mask = shader.capabilityMask ∧
    e.mask.Selects e.environmentLayout.entries ∧
    shader.SuppliedBy e.mask e.environmentLayout.entries ∧
    ∀ key m,
      .outsideCapabilities key m ∈ (w.store.getOrCreate w.environment w.device ids cull).log ↔
        e ∉ w.store.pipelines ∧ key = e.key ∧ m = shader.declaredMask.difference e.mask ∧
          m ≠ .empty := by
  intro w shader
  obtain ⟨hcompose, hmask, hentries⟩ := request_run_start henv hcalls hok
  have hselects : e.mask.Selects e.environmentLayout.entries := by
    rw [hentries]
    exact Mask.selects_layoutEntries e.mask
  refine ⟨hcompose, hmask, hselects, ?_, ?_⟩
  · exact Shader.suppliedBy (Library.tabled_of_compose hcompose) hselects
  · intro key m
    rw [mem_log_request_iff hok, mem_coverageLog_iff, hmask]
    rfl

/-- Shadows that are also lit from around: the id is known for the one, not for the other. -/
def litShadow : Feature where
  id := "shadow"
  stage := .fragment
  resources := [.environment "shadowMap" (.texture .depth .d2), .environment "diffuseCubemap" .textureCube]

theorem environmentLayout_supplies_lit_shadow :
    let w := run plain (unheld [.register litShadow])
    ∃ e, w.request ["shadow"] .back = .ok e ∧
      e.environmentLayout.entries.map LayoutEntry.index = [0, 1, 2, 3] ∧
      .outsideCapabilities e.key (.single 4) ∈
        (w.store.getOrCreate w.environment w.device ["shadow"] .back).log := by
  intro w
  have hmasks : (w.request ["shadow"] .back).toOption.map
      (fun e => (e.mask, e.variant.shader.declaredMask)) = some (.ofNat 15, .ofNat 17) := by
    decide +kernel
  have hnone : w.store.pipelines = [] := by decide +kernel
  obtain ⟨e, hok, he⟩ := exists_request_of_map hmasks
  obtain ⟨hmask, hdeclared⟩ : e.mask = .ofNat 15 ∧ e.variant.shader.declaredMask = .ofNat 17 := by
    simpa using he
  obtain ⟨-, -, hselects, -, hwarning⟩ := environmentLayout_supplies plain.store.host .blank {} {}
    plain.device (unheld [.register litShadow]) ["shadow"] .back e .new
    (by simp [unheld, Op.KeepsReached]) hok
  refine ⟨e, hok, ?_, ?_⟩
  · rw [hselects.indices, hmask]
    decide
  · refine (hwarning e.key (.single 4)).mpr ⟨?_, rfl, ?_, by decide⟩
    · have hnew : e ∉ w.store.pipelines := by simp [hnone]
      exact hnew
    · rw [hmask, hdeclared]
      decide

end PipelineStore

end ShaderWeave
