import Mathlib.Data.Set.Function
import ShaderWeave.Proofs.Pipeline.Coherence

/-!
# What a request for a pipeline returns

Stored or not, the entry that a request returns is one that a new store would build for it.
-/

namespace ShaderWeave

namespace BuiltPipeline

/-- The entry is for what the library composes of the ids now, for the cull mode and for the
settings. -/
structure Serves (lib : Library) (settings : PipelineSettings) (ids : List String) (cull : CullMode)
    (e : BuiltPipeline) : Prop where
  shader : lib.compose ids = .ok e.variant.shader
  source : e.variant.shaderModule.source = e.variant.shader.source
  shaderModule : e.pipeline.shaderModule = e.variant.shaderModule.id
  entryCull : e.cull = cull
  pipelineCull : e.pipeline.cull = cull
  color : e.pipeline.color = settings.color
  depth : e.pipeline.depth = settings.depth
  compare : e.pipeline.compare = settings.compare
  mask : ∃ features, lib.resolve ids = .ok features ∧ e.mask = .ofFeatures (features.map Feature.id)
  hasTextures : e.hasTextures = true ↔ e.variant.shader.textures ≠ []
  hasEnvironment : e.hasEnvironment = true ↔ e.variant.shader.environment ≠ []

/-- The entries differ at most in what the device and the host gave: numbers, labels and layouts. -/
structure Agrees (a b : BuiltPipeline) : Prop where
  shader : a.variant.shader = b.variant.shader
  source : a.variant.shaderModule.source = b.variant.shaderModule.source
  entryCull : a.cull = b.cull
  pipelineCull : a.pipeline.cull = b.pipeline.cull
  color : a.pipeline.color = b.pipeline.color
  depth : a.pipeline.depth = b.pipeline.depth
  compare : a.pipeline.compare = b.pipeline.compare
  mask : a.mask = b.mask
  hasTextures : a.hasTextures = b.hasTextures
  hasEnvironment : a.hasEnvironment = b.hasEnvironment

variable {lib : Library} {settings : PipelineSettings} {ids : List String} {cull : CullMode}
  {a b e : BuiltPipeline}

theorem Fits.serves (h : e.Fits settings) (hshader : lib.compose ids = .ok e.variant.shader)
    (hsource : e.variant.shaderModule.source = e.variant.shader.source) (hcull : e.cull = cull) :
    e.Serves lib settings ids cull where
  shader := hshader
  source := hsource
  shaderModule := h.shaderModule
  entryCull := hcull
  pipelineCull := h.cull.trans hcull
  color := h.color
  depth := h.depth
  compare := h.compare
  mask := by
    obtain ⟨features, hres, hmade⟩ := Library.exists_assembledFrom hshader
    refine ⟨features, hres, ?_⟩
    rw [h.mask, Shader.capabilityMask, hmade.ids]
  hasTextures := by
    rw [h.hasTextures]
    simp [Shader.hasTextures]
  hasEnvironment := by
    rw [h.hasEnvironment]
    simp [Shader.hasEnvironment]

/-- Two entries that serve the same request agree. -/
theorem Serves.agrees (ha : a.Serves lib settings ids cull) (hb : b.Serves lib settings ids cull) :
    a.Agrees b := by
  have hshader : a.variant.shader = b.variant.shader := by
    simpa [ha.shader] using hb.shader
  obtain ⟨features, hres, hmask⟩ := ha.mask
  obtain ⟨features', hres', hmask'⟩ := hb.mask
  obtain rfl : features = features' := by simpa [hres] using hres'
  refine ⟨hshader, ?_, ?_, ?_, ?_, ?_, ?_, ?_, ?_, ?_⟩
  · rw [ha.source, hb.source, hshader]
  · rw [ha.entryCull, hb.entryCull]
  · rw [ha.pipelineCull, hb.pipelineCull]
  · rw [ha.color, hb.color]
  · rw [ha.depth, hb.depth]
  · rw [ha.compare, hb.compare]
  · rw [hmask, hmask']
  · rw [Bool.eq_iff_iff, ha.hasTextures, hb.hasTextures, hshader]
  · rw [Bool.eq_iff_iff, ha.hasEnvironment, hb.hasEnvironment, hshader]

end BuiltPipeline

namespace PipelineStore

variable {host : HostLayouts} {lib : Library} {settings : PipelineSettings} {env : MaskLayouts}
  {d : Device} {ids : List String} {cull : CullMode} {e : BuiltPipeline}
  {w : World}

/-- What a request returns. -/
def World.request (w : World) (ids : List String) (cull : CullMode) :
    Except ShaderError BuiltPipeline :=
  (w.store.getOrCreate w.environment w.device ids cull).result

theorem source_run_start {v : Variant} {calls : List Call}
    (hdigests : Set.InjOn Digest.ofText {t | t ∈ sources (start host lib settings env d) calls})
    (hv : v ∈ (run (start host lib settings env d) calls).store.variants.variants) :
    v.shaderModule.source = v.shader.source := by
  obtain ⟨below, hrun, hsources⟩ := variants_run_start host lib settings env d calls
  have hsourced := VariantStore.sourced_run (sources (start host lib settings env d) calls) below
    (VariantStore.sourced_ofLibrary _ lib) (by rw [hsources]; exact fun _ ht => ht)
  rw [← hrun] at hsourced
  exact VariantStore.source_eq_of_injOn (current_run_start host lib settings env d calls)
    (tabled_run_start host lib settings env d calls) hsourced hdigests hv

/-! ## Requests -/

theorem exists_variant_of_request (h : w.request ids cull = .ok e) :
    ∃ v, (w.store.variants.getOrCreate w.device ids).result = .ok v := by
  cases hr : (w.store.variants.getOrCreate w.device ids).result with
  | error x => simp [World.request, (getOrCreate_of_failed hr).1] at h
  | ok v => exact ⟨v, rfl⟩

/-- A request that succeeds is told by what is computed of its entry. -/
theorem exists_request_of_map {α : Type} {g : BuiltPipeline → α} {a : α}
    (h : (w.request ids cull).toOption.map g = some a) : ∃ e, w.request ids cull = .ok e ∧ g e = a := by
  cases hok : w.request ids cull with
  | error x => simp [hok, Except.toOption] at h
  | ok e => exact ⟨e, rfl, by simpa [hok, Except.toOption] using h⟩

theorem request_ok (hcoherent : Coherent w.store) (hcurrent : w.store.variants.Current)
    (h : w.request ids cull = .ok e) :
    (w.store.variants.getOrCreate w.device ids).result = .ok e.variant ∧ e.cull = cull ∧
      e.Fits w.store.settings := by
  obtain ⟨v, hr⟩ := exists_variant_of_request h
  have hv := VariantStore.mem_getOrCreate_of_ok hr
  have hcurrent' := VariantStore.current_change
    (VariantStore.change_after w.variants ⟨.request ids, []⟩) hcurrent
  obtain ⟨hvariant, hcull, hfits⟩ :=
    pipelineFor_result (coherent_variants hcoherent w.device ids) hcurrent' hv w.environment
      (w.store.variants.getOrCreate w.device ids).state.2 cull
  rw [World.request, (getOrCreate_of_ok hr).1, Except.ok.injEq] at h
  rw [h] at hvariant hcull hfits
  exact ⟨by rw [hr, hvariant], hcull, hfits⟩

theorem request_of_compose {shader : Shader} (cull : CullMode)
    (hnew : w.store.variants.variants = []) (h : w.library.compose ids = .ok shader) :
    ∃ e, w.request ids cull = .ok e := by
  have hmissing : w.store.variants.get? ids = none :=
    VariantStore.get?_eq_none_iff.mpr (by simp [hnew])
  have hr := (VariantStore.getOrCreate_of_composed (d := w.device)
    (Library.isFeatureId_of_compose h) hmissing h).1
  exact ⟨_, (getOrCreate_of_ok hr).1⟩

theorem request_serves (calls : List Call)
    (hdigests : Set.InjOn Digest.ofText
      {t | t ∈ sources (start host lib settings env d) (calls ++ [⟨.request ids cull, []⟩])})
    (h : (run (start host lib settings env d) calls).request ids cull = .ok e) :
    e.Serves (run (start host lib settings env d) calls).library
      (run (start host lib settings env d) calls).store.settings ids cull := by
  have hcurrent := current_run_start host lib settings env d calls
  obtain ⟨hr, hcull, hfits⟩ :=
    request_ok (coherent_run_start host lib settings env d calls) hcurrent h
  refine hfits.serves (hcurrent.compose_of_ok hr) ?_ hcull
  -- The request is one more call of the run, after which the variant is stored.
  apply source_run_start hdigests
  rw [run_append, run_cons, run_nil]
  simp only [after, World.ofState, getOrCreate_variants]
  exact VariantStore.mem_getOrCreate_of_ok hr

theorem new_request_serves {shader : Shader} (host : HostLayouts) (env : MaskLayouts) (d : Device)
    (h : lib.compose ids = .ok shader) :
    ∃ e, (start host lib settings env d).request ids cull = .ok e ∧ e.Serves lib settings ids cull := by
  obtain ⟨e, he⟩ := request_of_compose (w := start host lib settings env d) cull rfl h
  refine ⟨e, he, request_serves [] ?_ he⟩
  -- One source shares its digest with no other.
  have hsources : sources (start host lib settings env d) ([] ++ [⟨.request ids cull, []⟩]) =
      [shader.source] := by
    simp [sources, Call.sources, VariantStore.Call.sources, start, ofLibrary, VariantStore.contains,
      VariantStore.get?, VariantStore.find?, Library.sources, h]
  rw [hsources]
  simp

/-- If no two sources of a run have the same digest, what a request returns serves it and agrees with what
a new store returns. -/
theorem request_serves_as_new (host : HostLayouts) (lib : Library) (settings : PipelineSettings)
    (env : MaskLayouts) (d : Device) (calls : List Call) (ids : List String) (cull : CullMode)
    (e : BuiltPipeline)
    (hdigests : Set.InjOn Digest.ofText
      {t | t ∈ sources (start host lib settings env d) (calls ++ [⟨.request ids cull, []⟩])})
    (h : (run (start host lib settings env d) calls).request ids cull = .ok e) :
    let lib' := calls.foldl Call.library lib
    let settings' := calls.foldl Call.settings settings
    e.Serves lib' settings' ids cull ∧
    ∀ host' env' d', ∃ e', (start host' lib' settings' env' d').request ids cull = .ok e' ∧
      e'.Serves lib' settings' ids cull ∧ e.Agrees e' := by
  intro lib' settings'
  have hlib : (run (start host lib settings env d) calls).library = lib' := run_library _ calls
  have hsettings : (run (start host lib settings env d) calls).store.settings = settings' :=
    run_settings _ calls
  have hserves : e.Serves lib' settings' ids cull := by
    rw [← hlib, ← hsettings]
    exact request_serves calls hdigests h
  refine ⟨hserves, fun host' env' d' => ?_⟩
  obtain ⟨e', he', hserves'⟩ := new_request_serves host' env' d' hserves.shader
  exact ⟨e', he', hserves', hserves.agrees hserves'⟩

theorem request_serves_fog_declared_anew :
    ∃ e, (run plain (unheld fogDeclaredAnew)).request ["fog"] .back = .ok e ∧
      e.Serves ((unheld fogDeclaredAnew).foldl Call.library plain.library) {} ["fog"] .back := by
  have hdigests : ∀ a ∈ sources plain (unheld fogDeclaredAnew ++ [⟨.request ["fog"] .back, []⟩]),
      ∀ b ∈ sources plain (unheld fogDeclaredAnew ++ [⟨.request ["fog"] .back, []⟩]),
      Digest.ofText a = .ofText b → a = b := by decide +kernel
  have hok : ((run plain (unheld fogDeclaredAnew)).request ["fog"] .back).toOption.isSome = true := by
    decide +kernel
  cases h : (run plain (unheld fogDeclaredAnew)).request ["fog"] .back with
  | error x => simp [h, Except.toOption] at hok
  | ok e =>
    exact ⟨e, rfl, (request_serves_as_new _ _ _ _ _ (unheld fogDeclaredAnew) ["fog"] .back e
      (fun a ha b hb => hdigests a ha b hb) h).1⟩

end PipelineStore

end ShaderWeave
