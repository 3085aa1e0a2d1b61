import Mathlib.Data.List.Nodup
import ShaderWeave.Binding.Kind

/-!
# Descriptions of kinds

A description tells a kind from all others, but for what is left out: the filtering of a sampler, and
whether a type is built in or a struct under the name of one.
-/

namespace ShaderWeave

open Wgsl

namespace Wgsl

def Numeric.all : List Numeric := [f32, i32, u32, vec2, vec3, vec4, mat3, mat4]

theorem Numeric.mem_all (t : Numeric) : t ∈ all := by cases t <;> decide

theorem Numeric.wgsl_injective : Function.Injective wgsl := by
  have hdistinct : (all.map wgsl).Nodup := by decide
  exact fun a b h => List.inj_on_of_nodup_map hdistinct a.mem_all b.mem_all h

/-- One type is built in, the other a struct that has its name. -/
inductive ValueType.Homonym : ValueType → ValueType → Prop
  | struct (type : Numeric) : Homonym (.numeric type) (.struct type.wgsl)
  | numeric (type : Numeric) : Homonym (.struct type.wgsl) (.numeric type)

theorem ValueType.wgsl_eq_iff {t t' : ValueType} : t.wgsl = t'.wgsl ↔ t = t' ∨ t.Homonym t' := by
  constructor
  · intro h
    cases t with
    | numeric a =>
      cases t' with
      | numeric b => exact .inl (congrArg numeric (Numeric.wgsl_injective h))
      | struct name =>
        obtain rfl : a.wgsl = name := h
        exact .inr (.struct a)
    | struct name =>
      cases t' with
      | numeric b =>
        obtain rfl : name = b.wgsl := h
        exact .inr (.numeric b)
      | struct name' => exact .inl (congrArg struct h)
  · rintro (rfl | h)
    · rfl
    · cases h <;> rfl

end Wgsl

namespace Kind

variable {k k' : Kind} {t t' : ValueType}

/-- Two kinds that differ in what a description leaves out. -/
inductive ReadsAs : Kind → Kind → Prop
  | nonFiltering : ReadsAs (.sampler .filtering) (.sampler .nonFiltering)
  | filtering : ReadsAs (.sampler .nonFiltering) (.sampler .filtering)
  | uniform {t t' : ValueType} (types : t.Homonym t') : ReadsAs (.uniform t) (.uniform t')
  | storage {t t' : ValueType} (types : t.Homonym t') (readOnly : Bool) :
      ReadsAs (.storage t readOnly) (.storage t' readOnly)

/-- The kinds of textures. -/
def textures : List Kind :=
  [SampleKind.float, .unfilterable, .depth, .sint, .uint].flatMap fun sample =>
    [Dimension.d2, .d2Array, .cube, .cubeArray].map (texture sample)

theorem mem_textures (sample : SampleKind) (dimension : Dimension) :
    texture sample dimension ∈ textures := by
  cases sample <;> cases dimension <;> decide

theorem describe_uniform (t : ValueType) : (uniform t).describe = "uniform " ++ t.wgsl := rfl

theorem describe_storage (t : ValueType) (readOnly : Bool) : (storage t readOnly).describe =
    "storage<" ++ access readOnly ++ "> " ++ ("array<" ++ t.wgsl ++ ">") := rfl

/-- The two characters that a description begins with. They tell the shape of the kind. -/
def lead : Kind → List Char
  | uniform _ => ['u', 'n']
  | texture .. => ['t', 'e']
  | sampler _ => ['s', 'a']
  | storage .. => ['s', 't']

theorem take_describe (k : Kind) : k.describe.toList.take 2 = k.lead := by
  have htextures : ∀ k ∈ textures, k.describe.toList.take 2 = k.lead := by decide +kernel
  cases k with
  | uniform t => simp [describe_uniform, lead]
  | texture sample dimension => exact htextures _ (mem_textures sample dimension)
  | sampler kind => cases kind <;> decide
  | storage t readOnly => simp [describe_storage, lead]

theorem lead_eq_of_describe_eq (h : k.describe = k'.describe) : k.lead = k'.lead := by
  rw [← take_describe, h, take_describe]

theorem describe_uniform_eq_iff : (uniform t).describe = (uniform t').describe ↔ t.wgsl = t'.wgsl :=
  String.append_right_inj _

theorem describe_storage_eq_iff {r r' : Bool} :
    (storage t r).describe = (storage t' r').describe ↔ t.wgsl = t'.wgsl ∧ r = r' := by
  cases r <;> cases r' <;> simp [describe_storage, access, ← String.toList_inj]

theorem texture_eq_of_describe_eq {s s' : SampleKind} {d d' : Dimension}
    (h : (texture s d).describe = (texture s' d').describe) : texture s d = texture s' d' := by
  have hdistinct : (textures.map describe).Nodup := by decide +kernel
  exact List.inj_on_of_nodup_map hdistinct (mem_textures s d) (mem_textures s' d') h

theorem sampler_of_describe_eq {s s' : SamplerKind}
    (h : (sampler s).describe = (sampler s').describe) :
    sampler s = sampler s' ∨ (sampler s).ReadsAs (sampler s') := by
  cases s <;> cases s'
  case filtering.nonFiltering => exact .inr .nonFiltering
  case nonFiltering.filtering => exact .inr .filtering
  all_goals first | exact .inl rfl | exact absurd h (by decide)

theorem ReadsAs.describe_eq (h : k.ReadsAs k') : k.describe = k'.describe := by
  cases h with
  | nonFiltering => rfl
  | filtering => rfl
  | uniform types => exact describe_uniform_eq_iff.mpr (ValueType.wgsl_eq_iff.mpr (.inr types))
  | storage types readOnly =>
    exact describe_storage_eq_iff.mpr ⟨ValueType.wgsl_eq_iff.mpr (.inr types), rfl⟩

/-- Kinds with one description are equal or differ in what it leaves out. -/
theorem describe_eq_iff : k.describe = k'.describe ↔ k = k' ∨ k.ReadsAs k' := by
  constructor
  · intro h
    have hlead := lead_eq_of_describe_eq h
    cases k <;> cases k'
    case uniform.uniform t t' =>
      obtain rfl | types := ValueType.wgsl_eq_iff.mp (describe_uniform_eq_iff.mp h)
      · exact .inl rfl
      · exact .inr (.uniform types)
    case texture.texture => exact .inl (texture_eq_of_describe_eq h)
    case sampler.sampler => exact sampler_of_describe_eq h
    case storage.storage t r t' r' =>
      obtain ⟨hwgsl, rfl⟩ := describe_storage_eq_iff.mp h
      obtain rfl | types := ValueType.wgsl_eq_iff.mp hwgsl
      · exact .inl rfl
      · exact .inr (.storage types r)
    all_goals exact absurd hlead (by simp [lead])
  · rintro (rfl | h)
    · rfl
    · exact h.describe_eq

end Kind

end ShaderWeave
