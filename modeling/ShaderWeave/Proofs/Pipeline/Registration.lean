import ShaderWeave.Proofs.Pipeline.Request
import ShaderWeave.Proofs.Variant.Registration

/-!
# What registering a feature does to the pipelines

The store of variants says by their keys which variants it forgot. That is enough to find the pipelines
built for them, and those alone, because the variant of a stored pipeline is the one stored under its
key.
-/

namespace ShaderWeave.PipelineStore

open VariantStore (Replaces Serves)

variable {s : PipelineStore} {f : Feature} {held : List BuiltPipeline} {e : BuiltPipeline}
  {ids : List String} {cull : CullMode} {w : World} {calls : List Call}

theorem register_result_of_isFeatureId (s : PipelineStore) (held : List BuiltPipeline)
    (hf : IsFeatureId f.id) :
    (s.register held f).result = .ok (s.variants.library.registry.get? f.id) := by
  obtain ⟨hresult, -⟩ := VariantStore.register_of_ok (heldVariants (s.pipelines ++ held))
    (s.variants.library.register_result hf)
  simp [register, hresult]

theorem register_variants (s : PipelineStore) (held : List BuiltPipeline) (f : Feature) :
    (s.register held f).state.variants =
      (s.variants.register (heldVariants (s.pipelines ++ held)) f).state := by
  unfold register
  dsimp only
  split <;> rfl

theorem mem_pipelines_register (hcoherent : Coherent s) (hcurrent : s.variants.Current)
    (hf : IsFeatureId f.id) :
    e ∈ (s.register held f).state.pipelines ↔ e ∈ s.pipelines ∧ f.id ∉ e.variant.features := by
  rw [register_of_ok (s.variants.library.register_result hf), List.mem_filter]
  refine and_congr_right fun he => ?_
  have hstored := hcoherent.stored e he
  have hstale : e.key ∈ (s.variants.variants.filter (·.features.contains f.id)).map Variant.key ↔
      f.id ∈ e.variant.features := by
    rw [List.mem_map]
    constructor
    · rintro ⟨u, hu, hkey⟩
      obtain ⟨hu, huf⟩ := List.mem_filter.mp hu
      obtain rfl := List.inj_on_of_nodup_map hcurrent.keys_nodup hu hstored hkey
      exact List.contains_iff_mem.mp huf
    · intro hmem
      exact ⟨e.variant, List.mem_filter.mpr ⟨hstored, List.contains_iff_mem.mpr hmem⟩, rfl⟩
  rw [← hstale]
  simp

/-! ## Afterwards -/

theorem get?_after {c : Call} (h : w.library.registry.get? f.id = some f)
    (hc : ∀ g, c.op = .register g → g.id ≠ f.id) :
    (after w c).library.registry.get? f.id = some f := by
  rw [after_library]
  obtain ⟨op, held⟩ := c
  cases op with
  | register g =>
    have hne : f.id ≠ g.id := (hc g rfl).symm
    rwa [← Library.get?_register_of_ne w.library hne] at h
  | reload => simpa [Call.library] using h
  | _ => exact h

theorem get?_run (h : w.library.registry.get? f.id = some f)
    (hcalls : ∀ c ∈ calls, ∀ g, c.op = .register g → g.id ≠ f.id) :
    (run w calls).library.registry.get? f.id = some f := by
  induction calls generalizing w with
  | nil => exact h
  | cons c calls ih =>
    obtain ⟨hc, hcalls⟩ := List.forall_mem_cons.mp hcalls
    exact ih (get?_after h hc) hcalls

/-- The entry of a request has the shader that the library composes, or the request fails as the
composition does. -/
theorem request_shader (hcoherent : Coherent w.store) (hcurrent : w.store.variants.Current)
    (hvalid : ∀ id ∈ ids, IsFeatureId id) :
    (w.request ids cull).map (fun e => e.variant.shader) = w.library.compose ids := by
  have hcompose : (w.store.variants.getOrCreate w.device ids).result.map Variant.shader =
      w.library.compose ids := VariantStore.getOrCreate_shader hcurrent hvalid
  cases hr : (w.store.variants.getOrCreate w.device ids).result with
  | error x =>
    rw [World.request, (getOrCreate_of_failed hr).1, ← hcompose, hr]
    rfl
  | ok v =>
    obtain ⟨e, hok⟩ : ∃ e, w.request ids cull = .ok e := ⟨_, (getOrCreate_of_ok hr).1⟩
    obtain ⟨hv, -, -⟩ := request_ok hcoherent hcurrent hok
    rw [hok, ← hcompose, hv]
    rfl

theorem current_run {w : World} (h : w.store.variants.Current) (calls : List Call) :
    (run w calls).store.variants.Current := by
  obtain ⟨below, hrun, -⟩ := variants_run w calls
  have hbelow := VariantStore.current_run (w := w.variants) h below
  rwa [← hrun] at hbelow

/-- A registration forgets just the variants and pipelines that have a feature of its id, and requests are
answered with the new declaration until the id is registered anew. -/
theorem register_precise (lib : Library) (f : Feature) (hf : IsFeatureId f.id) :
    (∀ d calls held,
      let w := VariantStore.run (.ofLibrary lib, d) calls
      let r := w.1.register held f
      (∃ change, r.result = .ok change ∧ change.Reports f w.1) ∧ Replaces f w.1 r.state ∧
      ∀ more, (∀ c ∈ more, ∀ g, c.op = .register g → g.id ≠ f.id) →
        Serves f (VariantStore.run (r.state, w.2) more).1) ∧
    ∀ host settings env d calls held,
      let w := run (start host lib settings env d) calls
      let r := w.store.register held f
      r.result = .ok (w.library.registry.get? f.id) ∧
      Replaces f w.store.variants r.state.variants ∧
      (∀ e, e ∈ r.state.pipelines ↔ e ∈ w.store.pipelines ∧ f.id ∉ e.variant.features) ∧
      ∀ more, (∀ c ∈ more, ∀ g, c.op = .register g → g.id ≠ f.id) →
        let w' := run { w with store := r.state } more
        Serves f w'.store.variants ∧
        ∀ ids cull, (∀ id ∈ ids, IsFeatureId id) →
          (w'.request ids cull).map (fun e => e.variant.shader) = w'.library.compose ids := by
  refine ⟨?variants, ?pipelines⟩
  case variants =>
    intro d calls held w r
    have hcurrent := VariantStore.current_start lib d calls
    refine ⟨VariantStore.register_reports hcurrent held hf,
      VariantStore.register_replaces w.1 held hf, ?_⟩
    intro more hmore
    exact VariantStore.serves_run_register hcurrent held hf hmore
  case pipelines =>
    intro host settings env d calls held w r
    have hcoherent : Coherent w.store := coherent_run_start host lib settings env d calls
    have hcurrent : w.store.variants.Current := current_run_start host lib settings env d calls
    have hreplaces : Replaces f w.store.variants r.state.variants := by
      rw [register_variants]
      exact VariantStore.register_replaces w.store.variants _ hf
    refine ⟨register_result_of_isFeatureId w.store held hf, hreplaces,
      fun e => mem_pipelines_register hcoherent hcurrent hf, ?_⟩
    intro more hmore w'
    have hcurrent' : w'.store.variants.Current := current_run (w := after w ⟨.register f, held⟩)
      (current_run (w := w) hcurrent [⟨.register f, held⟩]) more
    have hcoherent' : Coherent w'.store :=
      coherent_run (w := after w ⟨.register f, held⟩) (coherent_register hcoherent held f) more
    refine ⟨VariantStore.serves_of_get? hcurrent' (get?_run hreplaces.declared hmore), ?_⟩
    intro ids cull hvalid
    exact request_shader hcoherent' hcurrent' hvalid

theorem register_precise_fog_declared_anew :
    let s := (run plain (unheld (fogDeclaredAnew.take 2))).store
    let dense := fogOf "fn dense() \x7b\x7d"
    IsFeatureId dense.id ∧ s.pipelines.map (fun e => e.variant.features) = [["fog"]] ∧
      (s.register [] dense).result = .ok (some (fogOf "fn thin() \x7b\x7d")) ∧
      ∀ e ∈ s.pipelines, e ∉ (s.register [] dense).state.pipelines := by
  intro s dense
  have hfeatures : s.pipelines.map (fun e => e.variant.features) = [["fog"]] := by decide +kernel
  have hthin : s.variants.library.registry.get? "fog" = some (fogOf "fn thin() \x7b\x7d") := by
    decide +kernel
  obtain ⟨hresult, -, hpipelines, -⟩ := (register_precise .blank dense (by decide)).2 _ {} {} _
    (unheld (fogDeclaredAnew.take 2)) []
  refine ⟨by decide, hfeatures, hresult.trans (congrArg _ hthin), ?_⟩
  intro e he hkept
  have hmem : e.variant.features ∈ [["fog"]] := hfeatures ▸ List.mem_map_of_mem he
  exact ((hpipelines e).mp hkept).2 (by simp [List.mem_singleton.mp hmem, dense, fogOf])

end ShaderWeave.PipelineStore
