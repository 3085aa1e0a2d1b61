import ShaderWeave.Proofs.Pipeline.Request

/-!
# Failed calls

A request or a registration that fails leaves everything as it was: whatever its error is, it has been
found before anything was stored, made or forgotten. So the failed calls of a run can be left out of it.
-/

namespace ShaderWeave

/-! ## Leaving out failures -/

section Effective

variable {σ α : Type} {step : σ → α → σ} {fails : σ → α → Bool}

/-- The calls of a run that do not fail, each told by the state it is made in. -/
def effective (step : σ → α → σ) (fails : σ → α → Bool) (s : σ) : List α → List α
  | [] => []
  | a :: rest =>
    if fails s a then effective step fails s rest
    else a :: effective step fails (step s a) rest

theorem foldl_effective (h : ∀ s a, fails s a = true → step s a = s) (s : σ) (calls : List α) :
    (effective step fails s calls).foldl step s = calls.foldl step s := by
  induction calls generalizing s with
  | nil => rfl
  | cons a rest ih =>
    rw [effective]
    split
    · next hfails => rw [ih, List.foldl_cons, h s a hfails]
    · rw [List.foldl_cons, ih, List.foldl_cons]

end Effective

/-! ## The library -/

theorem Registry.register_state_of_error {r : Registry} {f : Feature} {e : ShaderError}
    (h : (r.register f).result = .error e) : (r.register f).state = r := by
  unfold register at h ⊢
  split at h
  · simp at h
  · next hf => rw [dif_neg hf]

/-! ## Variants -/

namespace VariantStore

variable {s : VariantStore} {d : Device} {ids : List String} {f : Feature} {held : List Variant}
  {e : ShaderError}

theorem getOrCreate_state_of_error (h : (s.getOrCreate d ids).result = .error e) :
    (s.getOrCreate d ids).state = (s, d) := by
  obtain ⟨-, -, hst⟩ | ⟨v, -, -, hr, -⟩ | ⟨shader, -, -, -, hr, -⟩ := getOrCreate_cases s d ids
  · exact hst
  · simp [hr] at h
  · simp [hr] at h

theorem register_state_of_error (h : (s.register held f).result = .error e) :
    (s.register held f).state = s := by
  cases hr : (s.library.register f).result with
  | error x => exact (register_of_failed held hr).2
  | ok previous => simp [(register_of_ok held hr).1] at h

/-- Whether the call returns an error. -/
def fails (w : VariantStore × Device) (c : Call) : Bool :=
  match c.op with
  | .request ids => !(w.1.getOrCreate w.2 ids).result.isOk
  | .register f => !(w.1.register c.held f).result.isOk
  | _ => false

theorem after_of_fails (w : VariantStore × Device) (c : Call) (h : fails w c = true) :
    after w c = w := by
  obtain ⟨op, held⟩ := c
  cases op with
  | request ids =>
    cases hr : (w.1.getOrCreate w.2 ids).result with
    | error x => exact getOrCreate_state_of_error hr
    | ok v => simp [fails, hr, Except.isOk, Except.toBool] at h
  | register f =>
    cases hr : (w.1.register held f).result with
    | error x => simp only [after, register_state_of_error hr]
    | ok change => simp [fails, hr, Except.isOk, Except.toBool] at h
  | _ => simp [fails] at h

end VariantStore

/-! ## Pipelines -/

namespace PipelineStore

variable {s : PipelineStore} {env : MaskLayouts} {d : Device} {ids : List String} {cull : CullMode}
  {f : Feature} {held : List BuiltPipeline} {e : ShaderError}

theorem getOrCreate_state_of_error (h : (s.getOrCreate env d ids cull).result = .error e) :
    (s.getOrCreate env d ids cull).state = (s, env, d) := by
  cases hr : (s.variants.getOrCreate d ids).result with
  | error x => rw [(getOrCreate_of_failed hr).2, VariantStore.getOrCreate_state_of_error hr]
  | ok v => simp [(getOrCreate_of_ok hr).1] at h

theorem register_state_of_error (h : (s.register held f).result = .error e) :
    (s.register held f).state = s := by
  cases hr : (s.variants.library.register f).result with
  | error x => exact register_of_failed hr
  | ok previous =>
    obtain ⟨hresult, -⟩ := VariantStore.register_of_ok (heldVariants (s.pipelines ++ held)) hr
    simp [register, hresult] at h

/-- Whether the call returns an error. -/
def fails (w : World) (c : Call) : Bool :=
  match c.op with
  | .request ids cull => !(w.request ids cull).isOk
  | .register f => !(w.store.register c.held f).result.isOk
  | _ => false

theorem after_of_fails (w : World) (c : Call) (h : fails w c = true) : after w c = w := by
  obtain ⟨op, held⟩ := c
  cases op with
  | request ids cull =>
    cases hr : w.request ids cull with
    | error x => simp only [after, getOrCreate_state_of_error hr, World.ofState]
    | ok e => simp [fails, hr, Except.isOk, Except.toBool] at h
  | register f =>
    cases hr : (w.store.register held f).result with
    | error x => simp only [after, register_state_of_error hr]
    | ok previous => simp [fails, hr, Except.isOk, Except.toBool] at h
  | _ => simp [fails] at h

/-- Every run ends as it does without the calls that fail. -/
theorem failures_change_nothing :
    (∀ (r : Registry) f e, (r.register f).result = .error e → (r.register f).state = r) ∧
    (∀ (lib : Library) f e, (lib.register f).result = .error e → (lib.register f).state = lib) ∧
    (∀ (s : VariantStore) d ids e, (s.getOrCreate d ids).result = .error e →
      (s.getOrCreate d ids).state = (s, d)) ∧
    (∀ (s : VariantStore) held f e, (s.register held f).result = .error e →
      (s.register held f).state = s) ∧
    (∀ (s : PipelineStore) env d ids cull e, (s.getOrCreate env d ids cull).result = .error e →
      (s.getOrCreate env d ids cull).state = (s, env, d)) ∧
    (∀ (s : PipelineStore) held f e, (s.register held f).result = .error e →
      (s.register held f).state = s) ∧
    (∀ w calls, VariantStore.run w (effective VariantStore.after VariantStore.fails w calls) =
      VariantStore.run w calls) ∧
    ∀ w calls, run w (effective after fails w calls) = run w calls := by
  refine ⟨fun r f e => Registry.register_state_of_error, fun lib f e => Library.register_failed,
    fun s d ids e => VariantStore.getOrCreate_state_of_error,
    fun s held f e => VariantStore.register_state_of_error,
    fun s env d ids cull e => getOrCreate_state_of_error, fun s held f e => register_state_of_error,
    ?_, ?_⟩
  · intro w calls
    exact foldl_effective VariantStore.after_of_fails w calls
  · intro w calls
    exact foldl_effective after_of_fails w calls

/-- Of these calls, two fail for an unknown id and one for an id that cannot be registered. -/
example : (effective after fails plain (unheld [.request ["fog"] .back, .register (fogOf ""),
    .request ["fog"] .back, .register { fogOf "" with id := "fog+mist" },
    .request ["fog", "mist"] .back])).length = 2 := by
  decide +kernel

end PipelineStore

end ShaderWeave
