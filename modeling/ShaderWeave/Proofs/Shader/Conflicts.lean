import ShaderWeave.Proofs.Binding.Description
import ShaderWeave.Proofs.Shader.Compatibility

/-!
# The two sides of a conflict

An error about a resource of two kinds describes both. The kinds differ, and the descriptions differ too
unless the kinds differ only in what a description leaves out.
-/

namespace ShaderWeave

open Bindings Wgsl

variable {q q' : Requirement} {e : ShaderError}

namespace Bindings

/-! ## Kinds of one resource -/

theorem Admissible.not_struct (h : Admissible q) (hgroup : q.group ≠ .environment) (name : String) :
    q.kind ≠ .uniform (.struct name) := by
  intro hkind
  cases hg : q.group with
  | perObject =>
    obtain ⟨type, htype⟩ := h.uniform hg
    simp [hkind] at htype
  | textures => exact h.texture hg name hkind
  | environment => exact hgroup hg

/-- Of what features declare for themselves, samplers and storage buffers may read the same. -/
theorem Admissible.textures_of_readsAs (h : Admissible q) (h' : Admissible q') (hgroup : q.group = q'.group)
    (hne : q'.group ≠ .environment) (hreads : q.kind.ReadsAs q'.kind) :
    q'.group = .textures ∧ ∀ type, q.kind ≠ .uniform type := by
  have hstruct := h.not_struct (hgroup ▸ hne)
  have hstruct' := h'.not_struct hne
  have hnot : ∀ type, q.kind ≠ .uniform type := by
    intro type hkind
    rw [hkind] at hreads hstruct
    generalize hkind' : q'.kind = kind' at hreads
    cases hreads with
    | uniform types =>
      cases types with
      | struct type => exact hstruct' _ hkind'
      | numeric type => exact hstruct _ rfl
  refine ⟨?_, hnot⟩
  cases hg : q'.group with
  | perObject =>
    obtain ⟨type, htype⟩ := h.uniform (hgroup.trans hg)
    exact absurd htype (hnot _)
  | textures => rfl
  | environment => exact absurd hg hne

theorem exists_refusal {features : List Feature} (h : collect features = .error e) :
    ∃ before f q, Compatible before ∧ Refusal (firstRequired? before q.group q.name) f q e := by
  have hspec := addAll_spec (requirements features) Collected.empty
  rw [← collect, h] at hspec
  obtain ⟨before, f, q, -, -, hcompatible, hrefusal⟩ := hspec
  exact ⟨before, f, q, hcompatible, hrefusal⟩

end Bindings

/-! ## Kinds of slots -/

namespace Slot

variable {s : Slot} {kind : Kind}

theorem kind_cases : ∀ s ∈ table, (∃ sample dimension, s.kind = .texture sample dimension) ∨
    s.kind = .uniform (.struct "CascadeUniforms") ∨ s.kind = .sampler .comparison ∨
      s.kind = .sampler .filtering := by
  simp [table, Kind.texture2d, Kind.textureCube]

theorem not_homonym_cascadeUniforms (t : ValueType) :
    ¬ (ValueType.struct "CascadeUniforms").Homonym t := by
  generalize hname : "CascadeUniforms" = name
  intro h
  cases h with
  | numeric type => cases type <;> simp [Numeric.wgsl] at hname

/-- Only a sampler of a slot reads the same as another kind. -/
theorem readsAs_kind_iff (hs : s ∈ table) :
    s.kind.ReadsAs kind ↔ s.kind = .sampler .filtering ∧ kind = .sampler .nonFiltering := by
  constructor
  · intro h
    obtain ⟨sample, dimension, hkind⟩ | hkind | hkind | hkind := kind_cases s hs <;> rw [hkind] at h ⊢
    · cases h
    · cases h with
      | uniform types => exact absurd types (not_homonym_cascadeUniforms _)
    · cases h
    · cases h
      exact ⟨rfl, rfl⟩
  · rintro ⟨hkind, rfl⟩
    rw [hkind]
    exact .nonFiltering

end Slot

/-! ## Conflicts -/

namespace Library

variable {lib : Library} {ids : List String} {feature owner name : String} {group : Group}
  {existing incoming expected found : Kind}

theorem compose_error_cases (h : lib.compose ids = .error e) : lib.registry.Shows ids e ∨
    (∃ features, lib.resolve ids = .ok features ∧ collect features = .error e) ∨
      ∃ cause, e = .template cause := by
  cases hres : lib.resolve ids with
  | error e' =>
    simp only [compose, hres, Except.error.injEq] at h
    exact .inl (h ▸ Registry.shows_of_resolve hres)
  | ok features =>
    rw [compose_of_resolve hres] at h
    obtain hcollect | hcause := assemble_error h
    · exact .inr (.inl ⟨features, rfl, hcollect⟩)
    · exact .inr (.inr hcause)

theorem conflict_sides
    (h : lib.compose ids = .error (.resourceTypeConflict feature owner name group existing incoming)) :
    existing ≠ incoming ∧
      (existing.ReadsAs incoming → group = .textures ∧ ∀ type, existing ≠ .uniform type) := by
  obtain hshows | ⟨features, -, hcollect⟩ | ⟨cause, hcause⟩ := compose_error_cases h
  · exact hshows.elim
  · obtain ⟨before, f, q, hcompatible, hrefusal⟩ := exists_refusal hcollect
    cases hrefusal with
    | otherBaseType hgroup field hkind differs =>
      rw [hkind]
      refine ⟨by simpa using differs, fun hreads => ?_⟩
      cases hreads with
      | uniform types => cases types
    | otherKind hq hfree declared differs =>
      refine ⟨differs, ?_⟩
      obtain ⟨p, hp, hgroup, -, rfl⟩ := exists_of_firstRequired? declared
      refine (hcompatible.admissible p hp).textures_of_readsAs hq hgroup ?_
      intro henvironment
      rw [henvironment] at hfree
      exact hfree
  · simp at hcause

theorem mismatch_sides
    (h : lib.compose ids = .error (.environmentTypeMismatch feature name expected found)) :
    expected ≠ found ∧ ∃ s ∈ Slot.table, s.kind = expected := by
  obtain hshows | ⟨features, -, hcollect⟩ | ⟨cause, hcause⟩ := compose_error_cases h
  · exact hshows.elim
  · obtain ⟨before, f, q, -, hrefusal⟩ := exists_refusal hcollect
    cases hrefusal with
    | otherSlotKind hgroup hs hname differs => exact ⟨differs, _, hs, rfl⟩
  · simp at hcause

/-- The sides of a conflict have different descriptions, unless they are samplers with and without filtering,
or storage buffers in the textures group with elements of one spelling. -/
theorem compose_conflict_describe (lib : Library) (ids : List String) :
    (∀ feature owner name group existing incoming,
      lib.compose ids = .error (.resourceTypeConflict feature owner name group existing incoming) →
      existing ≠ incoming ∧
        (existing.describe = incoming.describe ↔ existing.ReadsAs incoming) ∧
        (existing.ReadsAs incoming → group = .textures ∧ ∀ type, existing ≠ .uniform type)) ∧
    ∀ feature name expected found,
      lib.compose ids = .error (.environmentTypeMismatch feature name expected found) →
      expected ≠ found ∧
        (expected.describe = found.describe ↔
          expected = .sampler .filtering ∧ found = .sampler .nonFiltering) := by
  refine ⟨?conflict, ?mismatch⟩
  case conflict =>
    intro feature owner name group existing incoming h
    obtain ⟨hne, hgroup⟩ := conflict_sides h
    refine ⟨hne, ?_, hgroup⟩
    rw [Kind.describe_eq_iff, or_iff_right hne]
  case mismatch =>
    intro feature name expected found h
    obtain ⟨hne, s, hs, rfl⟩ := mismatch_sides h
    refine ⟨hne, ?_⟩
    rw [Kind.describe_eq_iff, or_iff_right hne, Slot.readsAs_kind_iff hs]

/-- A picture where the environment has the map of the shadows. -/
def sketch : Feature :=
  { id := "sketch", stage := .fragment, resources := [.environment "shadowMap" .texture2d] }

theorem compose_conflict_describe_hazes :
    (Marks.library hazes).compose ["mist", "fog"] = .error (.resourceTypeConflict "mist" "fog" "density"
        .perObject (.uniform (.numeric .f32)) (.uniform (.numeric .vec3))) ∧
      (Kind.uniform (.numeric .f32)).describe ≠ (Kind.uniform (.numeric .vec3)).describe ∧
    (Marks.library (hazes.register sketch).state).compose ["sketch"] =
        .error (.environmentTypeMismatch "sketch" "shadowMap" (.texture .depth .d2) .texture2d) ∧
      (Kind.texture .depth .d2).describe ≠ Kind.texture2d.describe := by
  have hconflict : (Marks.library hazes).compose ["mist", "fog"] =
      .error (.resourceTypeConflict "mist" "fog" "density" .perObject (.uniform (.numeric .f32))
        (.uniform (.numeric .vec3))) := by
    decide +kernel
  have hmismatch : (Marks.library (hazes.register sketch).state).compose ["sketch"] =
      .error (.environmentTypeMismatch "sketch" "shadowMap" (.texture .depth .d2) .texture2d) := by
    decide +kernel
  obtain ⟨-, hsides, htextures⟩ := (compose_conflict_describe _ _).1 _ _ _ _ _ _ hconflict
  obtain ⟨-, hslot⟩ := (compose_conflict_describe _ _).2 _ _ _ _ hmismatch
  refine ⟨hconflict, ?_, hmismatch, ?_⟩
  · intro h
    exact absurd (htextures (hsides.mp h)).1 (by decide)
  · intro h
    exact absurd (hslot.mp h).1 (by decide)

/-- Two features that want one sampler, with filtering and without, and one that wants the sampler of the
environment without. -/
def grains : Registry :=
  (((Registry.empty.register
    { id := "smooth", stage := .fragment, resources := [.sampler "grain" .filtering] }).state.register
    { id := "sharp", stage := .fragment, resources := [.sampler "grain" .nonFiltering] }).state.register
    { id := "banded", stage := .fragment,
      resources := [.environment "brdfSampler" (.sampler .nonFiltering)] }).state

theorem describe_sampler_grains :
    (Marks.library grains).compose ["smooth", "sharp"] = .error (.resourceTypeConflict "smooth" "sharp"
        "grain" .textures (.sampler .nonFiltering) (.sampler .filtering)) ∧
    (Marks.library grains).compose ["banded"] = .error (.environmentTypeMismatch "banded" "brdfSampler"
        (.sampler .filtering) (.sampler .nonFiltering)) ∧
    (Kind.sampler .filtering).describe = (Kind.sampler .nonFiltering).describe := by
  refine ⟨?_, ?_, rfl⟩ <;> decide +kernel

end Library

end ShaderWeave
