import ShaderWeave.Proofs.Pipeline.Run

/-!
# Pipelines and variants fit together

The variant of a stored pipeline is stored too, so it is current. Whatever drops a variant drops its
pipelines with it, and other settings drop them all.
-/

namespace ShaderWeave

/-- The entry was built for its variant, its cull mode and the settings. -/
structure BuiltPipeline.Fits (settings : PipelineSettings) (e : BuiltPipeline) : Prop where
  shaderModule : e.pipeline.shaderModule = e.variant.shaderModule.id
  cull : e.pipeline.cull = e.cull
  color : e.pipeline.color = settings.color
  depth : e.pipeline.depth = settings.depth
  compare : e.pipeline.compare = settings.compare
  mask : e.mask = e.variant.shader.capabilityMask
  hasTextures : e.hasTextures = e.variant.shader.hasTextures
  hasEnvironment : e.hasEnvironment = e.variant.shader.hasEnvironment

namespace PipelineStore

variable {s s' : PipelineStore} {env : MaskLayouts} {d : Device} {v : Variant} {cull : CullMode}
  {e : BuiltPipeline} {w : World}

structure Coherent (s : PipelineStore) : Prop where
  stored : ∀ e ∈ s.pipelines, e.variant ∈ s.variants.variants
  fits : ∀ e ∈ s.pipelines, e.Fits s.settings

theorem coherent_of_empty (h : s.pipelines = []) : Coherent s :=
  ⟨by simp [h], by simp [h]⟩

/-- Pipelines can be dropped, and variants that none of those left has. -/
theorem Coherent.of_subset (h : Coherent s) (hsettings : s'.settings = s.settings)
    (hsub : ∀ e ∈ s'.pipelines, e ∈ s.pipelines)
    (hkept : ∀ e ∈ s'.pipelines, e.variant ∈ s.variants.variants → e.variant ∈ s'.variants.variants) :
    Coherent s' := by
  refine ⟨fun e he => hkept e he (h.stored e (hsub e he)), fun e he => ?_⟩
  rw [hsettings]
  exact h.fits e (hsub e he)

/-! ## Requests -/

theorem build_fits (s : PipelineStore) (env : MaskLayouts) (d : Device) (v : Variant)
    (cull : CullMode) : (s.build env d v cull).result.Fits s.settings :=
  ⟨rfl, rfl, rfl, rfl, rfl, rfl, rfl, rfl⟩

/-- With current variants, a pipeline found for the key of a variant is the pipeline of that very
variant. -/
theorem pipelineFor_result (h : Coherent s) (hcurrent : s.variants.Current)
    (hv : v ∈ s.variants.variants) (env : MaskLayouts) (d : Device) (cull : CullMode) :
    (s.pipelineFor env d v cull).result.variant = v ∧
    (s.pipelineFor env d v cull).result.cull = cull ∧
    (s.pipelineFor env d v cull).result.Fits s.settings := by
  cases hfind : s.find? v.key cull with
  | some e =>
    rw [(pipelineFor_of_found hfind).1]
    have he : e ∈ s.pipelines := List.mem_of_find?_eq_some hfind
    obtain ⟨hkey, hcull⟩ : e.key = v.key ∧ e.cull = cull := by simpa using List.find?_some hfind
    refine ⟨?_, hcull, h.fits e he⟩
    exact List.inj_on_of_nodup_map hcurrent.keys_nodup (h.stored e he) hv hkey
  | none =>
    rw [(pipelineFor_of_missing hfind).1]
    exact ⟨rfl, rfl, build_fits s env d v cull⟩

theorem coherent_pipelineFor (h : Coherent s) (hv : v ∈ s.variants.variants) :
    Coherent (s.pipelineFor env d v cull).state.1 := by
  cases hfind : s.find? v.key cull with
  | some e => rwa [(pipelineFor_of_found hfind).2]
  | none =>
    rw [(pipelineFor_of_missing hfind).2]
    refine ⟨?_, ?_⟩
    · intro e he
      rcases List.mem_append.mp he with he | he
      · exact h.stored e he
      · rw [List.mem_singleton.mp he]; exact hv
    · intro e he
      rcases List.mem_append.mp he with he | he
      · exact h.fits e he
      · rw [List.mem_singleton.mp he]; exact build_fits s env d v cull

/-- The store of a request after its variant has been looked up or stored. -/
theorem coherent_variants (h : Coherent s) (d : Device) (ids : List String) :
    Coherent { s with variants := (s.variants.getOrCreate d ids).state.1 } :=
  h.of_subset rfl (fun _ he => he) fun _ _ => VariantStore.mem_getOrCreate_of_mem

theorem coherent_getOrCreate (h : Coherent s) (env : MaskLayouts) (d : Device) (ids : List String)
    (cull : CullMode) : Coherent (s.getOrCreate env d ids cull).state.1 := by
  cases hr : (s.variants.getOrCreate d ids).result with
  | error e =>
    rw [(getOrCreate_of_failed hr).2]
    exact coherent_variants h d ids
  | ok v =>
    rw [(getOrCreate_of_ok hr).2]
    exact coherent_pipelineFor (coherent_variants h d ids) (VariantStore.mem_getOrCreate_of_ok hr)

/-! ## Invalidation -/

theorem coherent_invalidate (h : Coherent s) (held : List BuiltPipeline) (ids : List String) :
    Coherent (s.invalidate held ids).state := by
  refine h.of_subset rfl (fun e he => (List.mem_filter.mp he).1) ?_
  intro e he hv
  exact List.mem_filter.mpr ⟨hv, (List.mem_filter.mp he).2⟩

theorem coherent_register (h : Coherent s) (held : List BuiltPipeline) (f : Feature) :
    Coherent (s.register held f).state := by
  cases hr : (s.variants.library.register f).result with
  | error e => rwa [register_of_failed hr]
  | ok previous =>
    rw [register_of_ok hr]
    refine h.of_subset rfl (fun e he => (List.mem_filter.mp he).1) ?_
    intro e he hv
    have hstale : ∀ u ∈ s.variants.variants, f.id ∈ u.features → u.key ≠ e.key := by
      simpa using (List.mem_filter.mp he).2
    rw [(VariantStore.register_of_ok _ hr).2]
    refine List.mem_filter.mpr ⟨hv, ?_⟩
    by_contra hf
    exact hstale e.variant hv (by simpa using hf) rfl

/-! ## Runs -/

theorem coherent_after (h : Coherent w.store) (c : Call) : Coherent (after w c).store := by
  obtain ⟨op, held⟩ := c
  cases op with
  | request ids cull => exact coherent_getOrCreate h w.environment w.device ids cull
  | invalidate ids => exact coherent_invalidate h held ids
  | invalidateAll => exact coherent_of_empty rfl
  | register f => exact coherent_register h held f
  | reload => exact coherent_of_empty rfl
  | setSettings settings =>
    by_cases hsame : settings = w.store.settings
    · simpa [after, setSettings, hsame] using h
    · exact coherent_of_empty (by simp [after, setSettings, hsame])
  | clear => exact coherent_of_empty rfl
  | others environment calls => exact h

theorem coherent_run (h : Coherent w.store) (calls : List Call) : Coherent (run w calls).store :=
  run_induction (P := fun w => Coherent w.store) (fun _ c h => coherent_after h c) calls h

/-! ## Runs from the start -/

theorem coherent_run_start (host : HostLayouts) (lib : Library) (settings : PipelineSettings)
    (env : MaskLayouts) (d : Device) (calls : List Call) :
    Coherent (run (start host lib settings env d) calls).store :=
  coherent_run (coherent_of_empty rfl) calls

theorem current_run_start (host : HostLayouts) (lib : Library) (settings : PipelineSettings)
    (env : MaskLayouts) (d : Device) (calls : List Call) :
    (run (start host lib settings env d) calls).store.variants.Current := by
  obtain ⟨below, hrun, -⟩ := variants_run_start host lib settings env d calls
  have h := VariantStore.current_run (w := (.ofLibrary lib, d)) (VariantStore.current_ofLibrary lib)
    below
  rwa [← hrun] at h

theorem tabled_run_start (host : HostLayouts) (lib : Library) (settings : PipelineSettings)
    (env : MaskLayouts) (d : Device) (calls : List Call) :
    VariantStore.Tabled (run (start host lib settings env d) calls).variants := by
  obtain ⟨below, hrun, -⟩ := variants_run_start host lib settings env d calls
  rw [hrun]
  exact VariantStore.tabled_run (VariantStore.tabled_ofLibrary lib d) below

end PipelineStore

end ShaderWeave
