import ShaderWeave.Proofs.Feature.Outcome
import ShaderWeave.Proofs.Shader.Composition

/-!
# What a composition depends on

A composition reads the declarations that its request leads to and no others. Registries that agree on
those cannot be told apart by the request, not even by the way it fails.
-/

namespace ShaderWeave

namespace Registry

variable {r r' : Registry} {request : List String} {id a b : String}

/-- What the request leads to in `r` is declared in `r'` as it is there, or is missing in both. -/
def AgreesFor (r r' : Registry) (request : List String) : Prop :=
  ∀ id, r.Needs request id → r'.get? id = r.get? id

theorem AgreesFor.dependsOn_iff (h : r.AgreesFor r' request) (ha : r.Needs request a) :
    r'.DependsOn a b ↔ r.DependsOn a b := by
  unfold DependsOn
  rw [h a ha]

/-- The request leads to the same ids in both, so each registry may be taken as the first. -/
theorem AgreesFor.needs_iff (h : r.AgreesFor r' request) :
    r'.Needs request id ↔ r.Needs request id := by
  constructor
  · rintro ⟨root, hroot, hreach⟩
    -- Along the way in `r'`, all ids so far are needed in `r`.
    induction hreach with
    | refl => exact needs_of_mem hroot
    | tail _ hstep ih => exact ih.dependsOn ((h.dependsOn_iff ih).mp hstep)
  · rintro ⟨root, hroot, hreach⟩
    induction hreach with
    | refl => exact needs_of_mem hroot
    | tail hpath hstep ih => exact ih.dependsOn ((h.dependsOn_iff ⟨root, hroot, hpath⟩).mpr hstep)

theorem AgreesFor.resolve_eq (h : r.AgreesFor r' request) : r'.resolve request = r.resolve request :=
  resolve_congr fun root hroot _ hreach => h _ ⟨root, hroot, hreach⟩

/-- Ids that have the request and all their dependencies among them have all that it leads to. -/
theorem Needs.mem_of_closed {ids : List String} (h : r.Needs request id) (hrequest : request ⊆ ids)
    (hclosed : ∀ f ∈ r.features, f.id ∈ ids → f.dependencies ⊆ ids) : id ∈ ids := by
  obtain ⟨root, hroot, hreach⟩ := h
  induction hreach with
  | refl => exact hrequest hroot
  | tail _ hstep ih =>
    obtain ⟨f, hf, hdep⟩ := hstep
    exact hclosed f (mem_of_get? hf) (id_of_get? hf ▸ ih) hdep

end Registry

namespace Library

/-- Registries that agree on all that a request leads to lead it to the same ids, and it resolves and
composes alike with both, whether it succeeds or fails. -/
theorem compose_of_agreesFor (r r' : Registry) (template : Template) (ids : List String)
    (h : r.AgreesFor r' ids) :
    (∀ id, r'.Needs ids id ↔ r.Needs ids id) ∧
    (Library.mk r' template).resolve ids = (Library.mk r template).resolve ids ∧
    (Library.mk r' template).compose ids = (Library.mk r template).compose ids ∧
    (Library.mk r' template).composeLog ids = (Library.mk r template).composeLog ids := by
  have hresolve : (Library.mk r' template).resolve ids = (Library.mk r template).resolve ids :=
    h.resolve_eq
  -- With the features resolved, only the template is left to differ.
  have hassemble : (Library.mk r' template).assemble = (Library.mk r template).assemble := rfl
  refine ⟨fun id => h.needs_iff, hresolve, ?_, ?_⟩
  · unfold compose
    rw [hresolve, hassemble]
  · unfold composeLog
    rw [hresolve, hassemble]

/-- Leads to snow, and to thunder, which nobody declares. -/
def storm : Feature := { id := "storm", stage := .both, dependencies := ["snow", "thunder"] }

def stormy : Registry := (Registry.builtin.register storm).state

/-- The wind is gone, and shadow is another feature. -/
def windless : Registry :=
  ((stormy.unregister "wind").state.register { id := "shadow", stage := .vertex }).state

theorem compose_of_agreesFor_storm :
    windless.get? "shadow" ≠ stormy.get? "shadow" ∧ stormy.AgreesFor windless ["storm"] ∧
      (Marks.library windless).compose ["storm"] = .error (.unknownFeature "thunder" (some "storm")) := by
  have hagrees : stormy.AgreesFor windless ["storm"] := by
    intro id hid
    have hclosed : ∀ f ∈ stormy.features, f.id ∈ ["storm", "snow", "wetness", "thunder"] →
        f.dependencies ⊆ ["storm", "snow", "wetness", "thunder"] := by
      decide +kernel
    have hids := hid.mem_of_closed (by simp) hclosed
    have hsame : ∀ id ∈ ["storm", "snow", "wetness", "thunder"],
        windless.get? id = stormy.get? id := by
      decide +kernel
    exact hsame id hids
  obtain ⟨-, -, hcompose, -⟩ :=
    compose_of_agreesFor stormy windless (.base Marks.engine) ["storm"] hagrees
  have hstormy : (Library.mk stormy (.base Marks.engine)).resolve ["storm"] =
      .error (.unknownFeature "thunder" (some "storm")) := by
    decide +kernel
  refine ⟨by decide +kernel, hagrees, hcompose.trans ?_⟩
  unfold compose
  rw [hstormy]

end Library

end ShaderWeave
