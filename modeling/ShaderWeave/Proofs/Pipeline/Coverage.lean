import ShaderWeave.Proofs.Environment.Catalogue
import ShaderWeave.Proofs.Pipeline.Environment

/-!
# Pipelines of extensions of the catalogue

A store that starts with an extension of the catalogue and registers features beside it builds no pipeline
with a warning. The layout of group 3 has the declared slots and no others.
-/

namespace ShaderWeave

/-! ## The layout of the declared slots -/

variable {shader : Shader} {m : Mask} {x : LayoutEntry}

/-- The entry of a binding of the environment, which both stages see. -/
def Binding.sharedEntry (b : Binding) : LayoutEntry := ⟨b.index, .both, .ofKind b.kind⟩

@[simp]
theorem Mask.difference_self (m : Mask) : m.difference m = .empty :=
  ext_has fun i _ => by simp

theorem Mask.mem_layoutEntries_iff :
    x ∈ m.layoutEntries ↔ ∃ s ∈ Slot.table, m.has s.index ∧ s.layoutEntry = x := by
  simp [layoutEntries, Slot.ofMask, and_assoc]

namespace Shader

theorem mem_layoutEntries_declaredMask_iff (h : shader.Tabled) :
    x ∈ shader.declaredMask.layoutEntries ↔ x ∈ shader.environment.map Binding.sharedEntry := by
  simp only [Mask.mem_layoutEntries_iff, has_declaredMask_iff h, List.mem_map]
  constructor
  · rintro ⟨s, hs, ⟨b, hb, hindex⟩, rfl⟩
    obtain ⟨t, ht, -, htindex, hkind⟩ := h b hb
    obtain rfl : t = s := Slot.eq_of_index_eq ht hs (htindex.trans hindex)
    exact ⟨b, hb, by rw [Binding.sharedEntry, Slot.layoutEntry, hindex, hkind]⟩
  · rintro ⟨b, hb, rfl⟩
    obtain ⟨s, hs, -, hindex, hkind⟩ := h b hb
    exact ⟨s, hs, ⟨b, hb, hindex.symm⟩, by rw [Binding.sharedEntry, Slot.layoutEntry, hindex, hkind]⟩

/-- Both lists ascend, so they are the same as soon as they have the same entries. -/
theorem layoutEntries_declaredMask (h : shader.Tabled)
    (hascending : Bindings.Ascending shader.environment) :
    shader.declaredMask.layoutEntries = shader.environment.map Binding.sharedEntry := by
  have htable : Slot.table.Pairwise fun s t => s.index < t.index := by decide
  have hslots : shader.declaredMask.layoutEntries.Pairwise fun x y => x.index < y.index :=
    List.pairwise_map.mpr (htable.filter _)
  have hbindings : (shader.environment.map Binding.sharedEntry).Pairwise fun x y => x.index < y.index :=
    List.pairwise_map.mpr hascending
  have hnodup {xs : List LayoutEntry} (hxs : xs.Pairwise fun x y => x.index < y.index) : xs.Nodup :=
    hxs.imp fun hlt heq => absurd (heq ▸ hlt) (lt_irrefl _)
  refine List.Perm.eq_of_pairwise (fun x y _ _ hlt hgt => absurd hgt hlt.asymm) hslots hbindings ?_
  rw [List.perm_ext_iff_of_nodup (hnodup hslots) (hnodup hbindings)]
  exact fun x => mem_layoutEntries_declaredMask_iff h

end Shader

namespace PipelineStore

variable {env : MaskLayouts} {d : Device} {w : World} {c : Call} {calls : List Call} {ids : List String}
  {cull : CullMode} {e : BuiltPipeline} {lib : Library}

/-! ## Registering beside the catalogue -/

/-- Whether what is registered stands beside the catalogue. -/
def Op.Extends : Op → Prop
  | .register f => f.Extends
  | _ => True

theorem extension_library (h : lib.registry.Extension) (hc : c.op.Extends) :
    (c.library lib).registry.Extension := by
  obtain ⟨op, held⟩ := c
  cases op with
  | register f => exact h.register hc
  | reload => rwa [Call.library, Library.reload_state]
  | _ => exact h

theorem extension_run (h : w.library.registry.Extension) (hcalls : ∀ c ∈ calls, c.op.Extends) :
    (run w calls).library.registry.Extension := by
  induction calls generalizing w with
  | nil => exact h
  | cons c calls ih =>
    rw [List.forall_mem_cons] at hcalls
    exact ih (after_library w c ▸ extension_library h hcalls.1) hcalls.2

/-! ## Requests -/

theorem declaredMask_of_request (hcompose : w.library.compose ids = .ok e.variant.shader)
    (hextension : w.library.registry.Extension) :
    e.variant.shader.declaredMask = e.variant.shader.capabilityMask := by
  obtain ⟨features, -, hids, hmask⟩ := Library.declaredMask_of_compose hextension hcompose
  rw [hmask, Shader.capabilityMask, hids]

theorem quiet_of_failed {s : PipelineStore} {x : ShaderError}
    (h : (s.variants.getOrCreate d ids).result = .error x) :
    (s.getOrCreate env d ids cull).log.Quiet := by
  simpa [getOrCreate, h] using s.variants.quiet_getOrCreate d ids

theorem quiet_of_request (hok : w.request ids cull = .ok e)
    (hmask : e.variant.shader.declaredMask = e.variant.shader.capabilityMask) :
    (w.store.getOrCreate w.environment w.device ids cull).log.Quiet := by
  intro key m hwarning
  obtain ⟨-, hcoverage⟩ := (mem_log_request_iff hok).mp hwarning
  obtain ⟨-, hm, hsome⟩ := mem_coverageLog_iff.mp hcoverage
  rw [hmask, Mask.difference_self] at hm
  exact hsome hm

/-- What an extension of the catalogue composes to declares the slots that its features are known to need,
so a store that starts with it never warns of slots without a place. -/
theorem extension_covered (r : Registry) (template : Template) (h : r.Extension) :
    (∀ ids shader, (Library.mk r template).compose ids = .ok shader →
      ∃ features, (Library.mk r template).resolve ids = .ok features ∧
        shader.features = features.map Feature.id ∧
        shader.declaredMask = .ofFeatures (features.map Feature.id)) ∧
    ∀ (host : HostLayouts) (settings : PipelineSettings) (env : MaskLayouts) (d : Device)
      (calls : List Call), env.Reached → (∀ c ∈ calls, c.op.KeepsReached) →
      (∀ c ∈ calls, c.op.Extends) →
      let w := run (start host ⟨r, template⟩ settings env d) calls
      ∀ ids cull,
        (w.store.getOrCreate w.environment w.device ids cull).log.Quiet ∧
        ∀ e, w.request ids cull = .ok e →
          w.library.compose ids = .ok e.variant.shader ∧
          e.mask = e.variant.shader.declaredMask ∧
          e.environmentLayout.entries = e.variant.shader.environment.map Binding.sharedEntry := by
  refine ⟨fun ids shader hshader => Library.declaredMask_of_compose h hshader, ?_⟩
  intro host settings env d calls henv hreached hextends w ids cull
  have hextension : w.library.registry.Extension := extension_run h hextends
  have hok (e : BuiltPipeline) (he : w.request ids cull = .ok e) :
      w.library.compose ids = .ok e.variant.shader ∧ e.mask = e.variant.shader.capabilityMask ∧
        e.environmentLayout.entries = e.mask.layoutEntries := request_run_start henv hreached he
  constructor
  · cases hr : (w.store.variants.getOrCreate w.device ids).result with
    | error x => exact quiet_of_failed hr
    | ok v =>
      obtain ⟨e, he⟩ : ∃ e, w.request ids cull = .ok e := ⟨_, (getOrCreate_of_ok hr).1⟩
      exact quiet_of_request he (declaredMask_of_request (hok e he).1 hextension)
  · intro e he
    obtain ⟨hcompose, hmask, hentries⟩ := hok e he
    have hdeclared := declaredMask_of_request hcompose hextension
    refine ⟨hcompose, hmask.trans hdeclared.symm, ?_⟩
    rw [hentries, hmask, ← hdeclared]
    exact Shader.layoutEntries_declaredMask (Library.tabled_of_compose hcompose)
      (Library.ascending_of_compose hcompose)

def glow : Feature := { id := "glow", stage := .fragment, dependencies := ["probes", "shadow"] }

def windless : Registry := (Registry.builtin.unregister "wind").state

theorem extension_covered_glow :
    let w := run (start plain.store.host (Marks.library windless) {} {} plain.device)
      (unheld [.register glow])
    ∃ e, w.request ["glow"] .back = .ok e ∧ e.mask = e.variant.shader.declaredMask ∧
      e.environmentLayout.entries.map LayoutEntry.index = [0, 1, 2, 3, 4, 5, 6, 7, 8, 11] ∧
      (w.store.getOrCreate w.environment w.device ["glow"] .back).log.Quiet := by
  intro w
  have hglow : glow.Extends := ⟨by decide +kernel, by simp [glow]⟩
  obtain ⟨hquiet, hrequest⟩ :=
    (extension_covered windless (.base Marks.engine) (.unregister .builtin "wind")).2
      plain.store.host {} {} plain.device (unheld [.register glow]) .new
      (by simp [unheld, Op.KeepsReached]) (by simpa [unheld, Op.Extends] using hglow) ["glow"] .back
  have hindices : ((Marks.library (windless.register glow).state).resolve ["glow"] >>=
      Bindings.collect).map (fun b => b.environment.map Binding.index) =
        .ok [0, 1, 2, 3, 4, 5, 6, 7, 8, 11] := by
    decide +kernel
  obtain ⟨shader, hshader, hbindings⟩ := Library.compose_base_of_map Marks.fillsBase hindices
  have hlibrary : w.library = ⟨(windless.register glow).state, .base Marks.engine⟩ := run_library _ _
  obtain ⟨e, he⟩ := request_of_compose (w := w) .back rfl (hlibrary ▸ hshader)
  obtain ⟨hcompose, hmask, hentries⟩ := hrequest e he
  refine ⟨e, he, hmask, ?_, hquiet⟩
  obtain rfl : e.variant.shader = shader := Except.ok.inj (hcompose.symm.trans (hlibrary ▸ hshader))
  rw [hentries, List.map_map]
  exact hbindings

end PipelineStore

end ShaderWeave
