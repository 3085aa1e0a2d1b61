import ShaderWeave.Proofs.Feature.Outcome
import ShaderWeave.Proofs.Marks.Plain
import ShaderWeave.Proofs.Shader.Collecting
import ShaderWeave.Proofs.Shader.Composition
import ShaderWeave.Proofs.Template.Base

/-!
# When features have a shader together

An engine that fills the base template takes any sections, so a request that resolves has a shader on it
if and only if what its features require is compatible.
-/

namespace ShaderWeave.Library

open Bindings Template Wgsl

variable {lib : Library} {engine : Engine} {r : Registry} {ids : List String}
  {features : List Feature} {e : ShaderError}

theorem compose_base_of_collect (hengine : engine.FillsBase)
    (h : (Library.mk r (.base engine)).resolve ids = .ok features) {b : Bindings}
    (hb : collect features = .ok b) :
    ∃ shader, (Library.mk r (.base engine)).compose ids = .ok shader ∧
      shader.features = features.map Feature.id ∧
      (⟨shader.uniforms, shader.textures, shader.environment⟩ : Bindings) = b := by
  obtain ⟨shader, hshader⟩ : ∃ shader, (Library.mk r (.base engine)).compose ids = .ok shader := by
    rw [compose_of_resolve h]
    exact assemble_of_fill _ _ hb (fill_base hengine _)
  have hmade := assembledFrom_of_compose hshader h
  exact ⟨shader, hshader, hmade.ids, Except.ok.inj (hmade.bindings.symm.trans hb)⟩

theorem compose_base_ok (hengine : engine.FillsBase)
    (h : (Library.mk r (.base engine)).resolve ids = .ok features)
    (hcompatible : Compatible (requirements features)) :
    ∃ shader, (Library.mk r (.base engine)).compose ids = .ok shader := by
  obtain ⟨b, hb⟩ := collect_ok_iff.mpr hcompatible
  obtain ⟨shader, hshader, -⟩ := compose_base_of_collect hengine h hb
  exact ⟨shader, hshader⟩

/-- A shader of the base template is told by what is computed of its bindings. -/
theorem compose_base_of_map (hengine : engine.FillsBase) {α : Type} {g : Bindings → α} {a : α}
    (h : ((Library.mk r (.base engine)).resolve ids >>= collect).map g = .ok a) :
    ∃ shader, (Library.mk r (.base engine)).compose ids = .ok shader ∧
      g ⟨shader.uniforms, shader.textures, shader.environment⟩ = a := by
  cases hres : (Library.mk r (.base engine)).resolve ids with
  | error e => simp [hres, bind, Except.bind, Except.map] at h
  | ok features =>
    replace h : (collect features).map g = .ok a := by simpa [hres, bind, Except.bind] using h
    cases hb : collect features with
    | error e => simp [hb, Except.map] at h
    | ok b =>
      obtain ⟨shader, hshader, -, rfl⟩ := compose_base_of_collect hengine hres hb
      rw [hb] at h
      exact ⟨shader, hshader, Except.ok.inj h⟩

theorem compatible_of_compose {shader : Shader} (h : lib.resolve ids = .ok features)
    (hshader : lib.compose ids = .ok shader) : Compatible (requirements features) :=
  collect_ok_iff.mp ⟨_, (assembledFrom_of_compose hshader h).bindings⟩

theorem collect_of_compose_base_error (hengine : engine.FillsBase)
    (h : (Library.mk r (.base engine)).resolve ids = .ok features)
    (he : (Library.mk r (.base engine)).compose ids = .error e) : collect features = .error e := by
  cases hb : collect features with
  | error e' =>
    rw [compose_of_resolve h, assemble_of_collect_error hb, Except.error.injEq] at he
    rw [he]
  | ok b =>
    obtain ⟨shader, hshader, -⟩ := compose_base_of_collect hengine h hb
    simp [hshader] at he

/-- On the base template, features have a shader together if and only if their requirements are compatible. -/
theorem compose_base_compatible (engine : Engine) (hengine : engine.FillsBase) (r : Registry)
    (ids : List String) (features : List Feature)
    (h : (Library.mk r (.base engine)).resolve ids = .ok features) :
    ((∃ shader, (Library.mk r (.base engine)).compose ids = .ok shader) ↔
      Compatible (requirements features)) ∧
    (∀ e, (Library.mk r (.base engine)).compose ids = .error e →
      ∃ before f q after, requirements features = before ++ (f, q) :: after ∧
        Compatible before ∧ ¬ Compatible (before ++ [(f, q)]) ∧
        Refusal (firstDeclared? features q.group q.name) f q e) ∧
    ((∃ shader, (Library.mk r (.base engine)).compose ids = .ok shader) →
      ∀ fewer ⊆ ids, ∃ shader, (Library.mk r (.base engine)).compose fewer = .ok shader) := by
  refine ⟨⟨?_, compose_base_ok hengine h⟩, ?error, ?fewer⟩
  · rintro ⟨shader, hshader⟩
    exact compatible_of_compose h hshader
  case error =>
    intro e he
    have hspec := collect_spec features
    rw [collect_of_compose_base_error hengine h he] at hspec
    exact hspec
  case fewer =>
    rintro ⟨shader, hshader⟩ fewer hsub
    obtain ⟨found, hfound, hpart⟩ := Registry.resolve_subset (r := r) h hsub
    have hcompatible := compatible_of_compose h hshader
    exact compose_base_ok hengine hfound (hcompatible.mono (requirements_mono hpart))

/-- A feature with one field of the object uniforms. -/
def dense (id : String) (type : Numeric) : Feature :=
  { id, stage := .fragment, resources := [.perObject "density" (.numeric type)] }

/-- Fog and mist want the field to be of different types. -/
def hazes : Registry :=
  ((Registry.empty.register (dense "fog" .f32)).state.register (dense "mist" .vec3)).state

theorem compose_base_compatible_hazes :
    (∃ shader, (Marks.library hazes).compose ["mist"] = .ok shader) ∧
      ¬ ∃ shader, (Marks.library hazes).compose ["mist", "fog"] = .ok shader := by
  have hmist : (Marks.library hazes).resolve ["mist"] = .ok [dense "mist" .vec3] := by
    decide +kernel
  have hboth : (Marks.library hazes).resolve ["mist", "fog"] =
      .ok [dense "fog" .f32, dense "mist" .vec3] := by
    decide +kernel
  constructor
  · refine (compose_base_compatible Marks.engine Marks.fillsBase hazes _ _ hmist).1.mpr ?_
    refine ⟨?_, by simp [requirements, dense]⟩
    intro p hp
    obtain rfl : p = (dense "mist" .vec3, .perObject "density" (.numeric .vec3)) := by
      simpa [requirements, dense] using hp
    have hbase : ∀ type, ("density", type) ∉ Uniforms.baseFields := by simp [Uniforms.baseFields]
    exact admissible_of_perObject rfl rfl fun base hfield => absurd hfield (hbase base)
  · intro hok
    have hcompatible := (compose_base_compatible Marks.engine Marks.fillsBase hazes _ _ hboth).1.mp hok
    have hkinds := hcompatible.agree (dense "fog" .f32, .perObject "density" (.numeric .f32))
      (by simp [requirements, dense]) (dense "mist" .vec3, .perObject "density" (.numeric .vec3))
      (by simp [requirements, dense]) rfl rfl
    simp [Requirement.perObject, Requirement.ofKind] at hkinds

end ShaderWeave.Library
