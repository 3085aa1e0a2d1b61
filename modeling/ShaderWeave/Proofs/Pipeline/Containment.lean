import ShaderWeave.Proofs.Pipeline.Request

/-!
# Pipelines lie within the variants

A store of pipelines has at most one for a key and a cull mode, and what it has is built for the very
variant that is stored under that key. All cull modes of a request so share one variant.
-/

namespace ShaderWeave.PipelineStore

variable {s s' : PipelineStore} {env : MaskLayouts} {d : Device} {ids : List String} {cull : CullMode}
  {v : Variant} {e : BuiltPipeline} {key : RequestKey} {w : World}

/-! ## One pipeline for a key and a cull mode -/

def Keyed (s : PipelineStore) : Prop := (s.pipelines.map fun e => (e.key, e.cull)).Nodup

theorem find?_eq_none_iff :
    s.find? key cull = none ↔ ∀ e ∈ s.pipelines, (e.key, e.cull) ≠ (key, cull) := by
  simp [find?, List.find?_eq_none]

theorem mem_of_find? (h : s.find? key cull = some e) :
    e ∈ s.pipelines ∧ e.key = key ∧ e.cull = cull :=
  ⟨List.mem_of_find?_eq_some h, by simpa using List.find?_some h⟩

theorem Keyed.find?_eq_some_iff (h : Keyed s) :
    s.find? key cull = some e ↔ e ∈ s.pipelines ∧ e.key = key ∧ e.cull = cull := by
  constructor
  · exact mem_of_find?
  · rintro ⟨he, rfl, rfl⟩
    obtain ⟨x, hx⟩ := Option.ne_none_iff_exists'.mp
      (mt find?_eq_none_iff.mp (by push Not; exact ⟨e, he, rfl⟩))
    obtain ⟨hxs, hkey, hcull⟩ := mem_of_find? hx
    rw [hx, List.inj_on_of_nodup_map h hxs he (by rw [hkey, hcull])]

theorem keyed_of_empty (h : s.pipelines = []) : Keyed s := by simp [Keyed, h]

theorem Keyed.of_sublist (h : Keyed s) (hsub : s'.pipelines.Sublist s.pipelines) : Keyed s' :=
  List.Nodup.sublist (hsub.map _) h

theorem keyed_pipelineFor (h : Keyed s) : Keyed (s.pipelineFor env d v cull).state.1 := by
  cases hfind : s.find? v.key cull with
  | some e => rwa [(pipelineFor_of_found hfind).2]
  | none =>
    rw [(pipelineFor_of_missing hfind).2]
    exact VariantStore.nodup_map_concat h (find?_eq_none_iff.mp hfind)

theorem keyed_getOrCreate (h : Keyed s) (env : MaskLayouts) (d : Device) (ids : List String)
    (cull : CullMode) : Keyed (s.getOrCreate env d ids cull).state.1 := by
  cases hr : (s.variants.getOrCreate d ids).result with
  | error e => rw [(getOrCreate_of_failed hr).2]; exact h
  | ok v =>
    rw [(getOrCreate_of_ok hr).2]
    exact keyed_pipelineFor h

theorem keyed_after (h : Keyed w.store) (c : Call) : Keyed (after w c).store := by
  obtain ⟨op, held⟩ := c
  cases op with
  | request ids cull => exact keyed_getOrCreate h w.environment w.device ids cull
  | invalidate ids => exact h.of_sublist List.filter_sublist
  | register f =>
    cases hr : (w.store.variants.library.register f).result with
    | error e => simpa only [after, register_of_failed hr] using h
    | ok previous =>
      simp only [after, register_of_ok hr]
      exact h.of_sublist List.filter_sublist
  | setSettings settings =>
    by_cases hsame : settings = w.store.settings
    · simpa [after, setSettings, hsame] using h
    · exact keyed_of_empty (by simp [after, setSettings, hsame])
  | invalidateAll => exact keyed_of_empty rfl
  | reload => exact keyed_of_empty rfl
  | clear => exact keyed_of_empty rfl
  | others environment calls => exact h

theorem keyed_run (h : Keyed w.store) (calls : List Call) : Keyed (run w calls).store :=
  run_induction (P := fun w => Keyed w.store) (fun _ c h => keyed_after h c) calls h

/-! ## What is stored under a key -/

/-- The entry was built for the variant stored under the key, for the cull mode and for the settings of
the store. -/
structure StoredUnder (s : PipelineStore) (key : RequestKey) (cull : CullMode) (e : BuiltPipeline) :
    Prop where
  entryCull : e.cull = cull
  variant : s.variants.find? key = some e.variant
  variantKey : e.variant.shader.key = key
  pipelineCull : e.pipeline.cull = cull
  shaderModule : e.pipeline.shaderModule = e.variant.shaderModule.id
  color : e.pipeline.color = s.settings.color
  depth : e.pipeline.depth = s.settings.depth
  compare : e.pipeline.compare = s.settings.compare

theorem storedUnder_of_find? (hcoherent : Coherent s) (hcurrent : s.variants.Current)
    (h : s.find? key cull = some e) : s.StoredUnder key cull e := by
  obtain ⟨he, hkey, hcull⟩ := mem_of_find? h
  have hfits := hcoherent.fits e he
  have hvariant : s.variants.find? key = some e.variant := by
    have hids : .ofIds e.variant.key.ids = key := (hcurrent.ofIds_ids (hcoherent.stored e he)).trans hkey
    rw [← hids]
    exact hcurrent.get?_eq_some_iff.mpr ⟨hcoherent.stored e he, hkey.trans hids.symm⟩
  exact ⟨hcull, hvariant, hkey, hfits.cull.trans hcull, hfits.shaderModule, hfits.color, hfits.depth,
    hfits.compare⟩

theorem mem_pipelineFor (s : PipelineStore) (env : MaskLayouts) (d : Device) (v : Variant)
    (cull : CullMode) :
    (s.pipelineFor env d v cull).result ∈ (s.pipelineFor env d v cull).state.1.pipelines := by
  cases hfind : s.find? v.key cull with
  | some e =>
    rw [(pipelineFor_of_found hfind).1, (pipelineFor_of_found hfind).2]
    exact (mem_of_find? hfind).1
  | none =>
    rw [(pipelineFor_of_missing hfind).1, (pipelineFor_of_missing hfind).2]
    simp

theorem mem_after_request (h : w.request ids cull = .ok e) (held : List BuiltPipeline) :
    e ∈ (after w ⟨.request ids cull, held⟩).store.pipelines := by
  obtain ⟨v, hr⟩ := exists_variant_of_request h
  rw [World.request, (getOrCreate_of_ok hr).1, Except.ok.injEq] at h
  simp only [after, World.ofState, (getOrCreate_of_ok hr).2, ← h]
  exact mem_pipelineFor ..

theorem numbered_run_start (host : HostLayouts) (lib : Library) (settings : PipelineSettings)
    (env : MaskLayouts) (d : Device) (calls : List Call) :
    (run (start host lib settings env d) calls).store.variants.Numbered := by
  obtain ⟨below, hrun, -⟩ := variants_run_start host lib settings env d calls
  have h := VariantStore.numbered_run (w := (.ofLibrary lib, d)) (VariantStore.numbered_ofLibrary lib)
    below
  rwa [← hrun] at h

/-- In every run, what is found under a key and a cull mode was built for that cull mode, for the variant
that is now stored under that key and for the settings. -/
theorem pipelines_within_variants (host : HostLayouts) (lib : Library) (settings : PipelineSettings)
    (env : MaskLayouts) (d : Device) (calls : List Call) :
    let w := run (start host lib settings env d) calls
    let s := w.store
    (∀ key cull e, s.find? key cull = some e → s.StoredUnder key cull e) ∧
    (∀ e ∈ s.pipelines, s.find? e.key e.cull = some e) ∧
    (∀ key cull cull' e e', s.find? key cull = some e → s.find? key cull' = some e' →
      e.variant = e'.variant ∧ e.pipeline.shaderModule = e'.pipeline.shaderModule) ∧
    (∀ u ∈ s.variants.variants, ∀ v ∈ s.variants.variants, u.serial = v.serial → u = v) ∧
    ∀ ids cull e held, w.request ids cull = .ok e →
      (after w ⟨.request ids cull, held⟩).store.find? (.ofIds ids) cull = some e := by
  intro w s
  have hkeyed : Keyed s := keyed_run (keyed_of_empty rfl) calls
  have hcoherent : Coherent s := coherent_run_start host lib settings env d calls
  have hcurrent : s.variants.Current := current_run_start host lib settings env d calls
  have hunder {key cull e} (h : s.find? key cull = some e) : s.StoredUnder key cull e :=
    storedUnder_of_find? hcoherent hcurrent h
  refine ⟨fun key cull e h => hunder h, ?_, ?_, ?_, ?_⟩
  · intro e he
    exact hkeyed.find?_eq_some_iff.mpr ⟨he, rfl, rfl⟩
  · intro key cull cull' e e' h h'
    have hvariant : e.variant = e'.variant := by
      simpa [(hunder h).variant] using (hunder h').variant
    exact ⟨hvariant, by rw [(hunder h).shaderModule, (hunder h').shaderModule, hvariant]⟩
  · intro u hu v hv hserial
    exact List.inj_on_of_nodup_map (numbered_run_start host lib settings env d calls).serials_nodup
      hu hv hserial
  · intro ids cull e held h
    obtain ⟨hr, hcull, -⟩ := request_ok hcoherent hcurrent h
    exact (keyed_after hkeyed _).find?_eq_some_iff.mpr
      ⟨mem_after_request h held, Library.key_of_compose (hcurrent.compose_of_ok hr), hcull⟩

end ShaderWeave.PipelineStore
