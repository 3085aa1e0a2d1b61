import ShaderWeave.Proofs.Pipeline.Coherence

/-!
# Modules that nobody needs

Where callers hold no entries, every call that drops variants drops the modules that no variant needs
any more, but one: a registration looks for such modules while the stale pipelines are still there,
and leaves the modules that these hold.
-/

namespace ShaderWeave.PipelineStore

open VariantStore (Owned Tabled)

variable {s : PipelineStore} {f : Feature} {w : World}

/-- The module of each stale pipeline is also that of a variant that stays. -/
def StaysShared (s : PipelineStore) (f : Feature) : Prop :=
  ∀ e ∈ s.pipelines, f.id ∈ e.variant.features →
    ∃ v ∈ s.variants.variants, f.id ∉ v.features ∧ v.shader.digest = e.variant.shader.digest

/-- The table has as many modules as there are digests of stored variants. -/
def ModulesExact (s : PipelineStore) : Prop := s.stats.shaderModules = s.variants.digests.length

instance : DecidablePred ModulesExact := fun s =>
  inferInstanceAs (Decidable (s.stats.shaderModules = s.variants.digests.length))

theorem modulesExact_iff (h : Tabled w.variants) : ModulesExact w.store ↔ Owned w.store.variants :=
  VariantStore.moduleCount_eq_iff h

/-! ## Calls -/

theorem mem_heldVariants {entries : List BuiltPipeline} {v : Variant} :
    v ∈ heldVariants (entries ++ []) ↔ ∃ e ∈ entries, e.variant = v := by
  simp [heldVariants]

theorem owned_getOrCreate (h : Owned w.store.variants) (ids : List String) (cull : CullMode) :
    Owned (w.store.getOrCreate w.environment w.device ids cull).state.1.variants := by
  rw [getOrCreate_variants]
  exact VariantStore.owned_after_request (w := w.variants) h ids

theorem owned_invalidate (hcoherent : Coherent w.store) (htabled : Tabled w.variants)
    (ids : List String) : Owned (w.store.invalidate [] ids).state.variants := by
  have hstored := (coherent_invalidate hcoherent [] ids).stored
  refine (VariantStore.owned_releaseModules_iff w.store.variants.library htabled ?_ ?_).mpr ?_
  · exact fun v hv => (List.mem_filter.mp hv).1
  · intro u hu
    obtain ⟨e, he, rfl⟩ := mem_heldVariants.mp hu
    exact hcoherent.stored e (List.mem_filter.mp he).1
  · -- The pipelines were dropped first, so only variants that stay are held.
    intro u hu
    obtain ⟨e, he, rfl⟩ := mem_heldVariants.mp hu
    exact ⟨e.variant, hstored e he, rfl⟩

theorem owned_register_iff (hcoherent : Coherent w.store) (htabled : Tabled w.variants)
    (hf : IsFeatureId f.id) :
    Owned (w.store.register [] f).state.variants ↔ StaysShared w.store f := by
  have hr := w.store.variants.library.register_result hf
  rw [register_of_ok hr, (VariantStore.register_of_ok _ hr).2]
  rw [VariantStore.owned_releaseModules_iff _ htabled (fun v hv => (List.mem_filter.mp hv).1) ?_]
  · constructor
    · intro hshared e he _
      obtain ⟨v, hv, hdigest⟩ := hshared e.variant (mem_heldVariants.mpr ⟨e, he, rfl⟩)
      obtain ⟨hv, hnot⟩ := List.mem_filter.mp hv
      exact ⟨v, hv, by simpa using hnot, hdigest⟩
    · intro hshared u hu
      obtain ⟨e, he, rfl⟩ := mem_heldVariants.mp hu
      by_cases hstale : f.id ∈ e.variant.features
      · obtain ⟨v, hv, hnot, hdigest⟩ := hshared e he hstale
        exact ⟨v, List.mem_filter.mpr ⟨hv, by simpa using hnot⟩, hdigest⟩
      · exact ⟨e.variant, List.mem_filter.mpr ⟨hcoherent.stored e he, by simpa using hstale⟩, rfl⟩
  · intro u hu
    obtain ⟨e, he, rfl⟩ := mem_heldVariants.mp hu
    exact hcoherent.stored e he

/-- The call drops pipelines before it looks for modules that nobody needs, or it drops all. -/
def Op.Releases : Op → Prop
  | .invalidate _ | .invalidateAll | .reload | .clear => True
  | _ => False

theorem owned_of_releases {op : Op} (hcoherent : Coherent w.store) (htabled : Tabled w.variants)
    (h : op.Releases) : Owned (after w ⟨op, []⟩).store.variants := by
  cases op with
  | invalidate ids => exact owned_invalidate hcoherent htabled ids
  | invalidateAll => simp [after, invalidateAll, clear, VariantStore.invalidateAll, Owned]
  | reload => simp [after, reload, VariantStore.reload, VariantStore.invalidateAll, Owned]
  | clear => simp [after, clear, VariantStore.invalidateAll, Owned]
  | _ => exact h.elim

theorem owned_after {op : Op} (hcoherent : Coherent w.store) (htabled : Tabled w.variants)
    (howned : Owned w.store.variants)
    (hshared : ∀ f, op = .register f → IsFeatureId f.id → StaysShared w.store f) :
    Owned (after w ⟨op, []⟩).store.variants := by
  cases op with
  | request ids cull => exact owned_getOrCreate howned ids cull
  | register f =>
    by_cases hf : IsFeatureId f.id
    · exact (owned_register_iff hcoherent htabled hf).mpr (hshared f rfl hf)
    · cases hr : (w.store.variants.library.register f).result with
      | error e => simpa [after, register_of_failed hr] using howned
      | ok previous => exact absurd (Library.register_ok hr).1 hf
  | setSettings settings =>
    simp only [after, setSettings]
    split <;> exact howned
  | others environment calls => exact howned
  | invalidate ids => exact owned_of_releases hcoherent htabled trivial
  | invalidateAll => exact owned_of_releases hcoherent htabled trivial
  | reload => exact owned_of_releases hcoherent htabled trivial
  | clear => exact owned_of_releases hcoherent htabled trivial

/-! ## Runs -/

theorem run_unheld_succ {ops : List Op} {op : Op} {n : Nat} (w : World) (h : ops[n]? = some op) :
    run w (unheld (ops.take (n + 1))) = after (run w (unheld (ops.take n))) ⟨op, []⟩ := by
  simp [unheld, List.take_add_one, h, run_append]

theorem run_unheld_of_end {ops : List Op} {n : Nat} (w : World) (h : ops[n]? = none) :
    run w (unheld (ops.take (n + 1))) = run w (unheld (ops.take n)) := by
  simp [unheld, List.take_add_one, h]

/-- Without held entries there are always as many modules as digests of stored variants, if and only if at
every registration the modules of the stale pipelines are also those of variants that stay. -/
theorem modules_exact_iff (host : HostLayouts) (lib : Library) (settings : PipelineSettings)
    (env : MaskLayouts) (d : Device) (ops : List Op) :
    let w n := run (start host lib settings env d) (unheld (ops.take n))
    ((∀ n, ModulesExact (w n).store) ↔
      ∀ n f, ops[n]? = some (.register f) → IsFeatureId f.id → StaysShared (w n).store f) ∧
    (∀ n f, ops[n]? = some (.register f) → IsFeatureId f.id →
      (ModulesExact (w (n + 1)).store ↔ StaysShared (w n).store f)) ∧
    (∀ n op, ops[n]? = some op → op.Releases → ModulesExact (w (n + 1)).store) ∧
    ∀ n, ModulesExact (w n).store ↔
      ∀ m ∈ (w n).store.variants.modules,
        ∃ v ∈ (w n).store.variants.variants, (v.shader.digest, v.shaderModule) = m := by
  intro w
  have hcoherent n : Coherent (w n).store := coherent_run_start host lib settings env d _
  have htabled n : Tabled (w n).variants := tabled_run_start host lib settings env d _
  have hexact n : ModulesExact (w n).store ↔ Owned (w n).store.variants :=
    modulesExact_iff (htabled n)
  have hregister n f (hop : ops[n]? = some (.register f)) (hf : IsFeatureId f.id) :
      ModulesExact (w (n + 1)).store ↔ StaysShared (w n).store f := by
    rw [hexact]
    simp only [w, run_unheld_succ _ hop]
    exact owned_register_iff (hcoherent n) (htabled n) hf
  refine ⟨⟨?_, ?_⟩, hregister, ?_, hexact⟩
  · intro hall n f hop hf
    exact (hregister n f hop hf).mp (hall (n + 1))
  · intro hshared n
    rw [hexact]
    induction n with
    | zero => simp [w, unheld, start, ofLibrary, Owned]
    | succ n ih =>
      cases hop : ops[n]? with
      | none => simpa only [w, run_unheld_of_end _ hop] using ih
      | some op =>
        simp only [w, run_unheld_succ _ hop]
        exact owned_after (hcoherent n) (htabled n) ih fun f hf => hshared n f (by rw [hop, hf])
  · intro n op hop hreleases
    rw [hexact]
    simp only [w, run_unheld_succ _ hop]
    exact owned_of_releases (hcoherent n) (htabled n) hreleases

/-- The module of the first fog stays when fog is declared anew. -/
theorem modules_not_exact_fog_declared_anew :
    ¬ ModulesExact (run plain (unheld fogDeclaredAnew)).store := by decide +kernel

end ShaderWeave.PipelineStore
