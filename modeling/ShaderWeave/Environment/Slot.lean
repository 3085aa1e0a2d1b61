import ShaderWeave.Binding.LayoutEntry
import ShaderWeave.Environment.Mask
import ShaderWeave.Text.Lines

/-!
# The environment table

Bindings of the environment group have fixed names, indices and kinds, so that the composed shaders
and the shared environment agree on them without talking to each other. The index of a slot is
also its bit in a capability mask.
-/

namespace ShaderWeave

structure Slot where
  name : String
  index : Nat
  kind : Kind
  /-- The struct definition that the kind of the slot needs. -/
  structDef : Option String
  deriving DecidableEq

namespace Slot

/-- The block of uniforms for cascaded shadows. -/
def cascadeUniforms : String := Text.unlines [
  "struct CascadeUniforms \x7b",
  "    light_view_projection: array<mat4x4<f32>, 4>,",
  "    split_depths: vec4<f32>,",
  "    cascade_count: u32,",
  "    depth_bias: f32,",
  "    normal_bias: f32,",
  "    _pad: f32,",
  "\x7d;"]

/-- The slots in the order of their indices. -/
def table : List Slot := [
  ⟨"shadowMap", 0, .texture .depth .d2, none⟩,
  ⟨"shadowSampler", 1, .sampler .comparison, none⟩,
  ⟨"cascadedShadowMap", 2, .texture .depth .d2Array, none⟩,
  ⟨"cascadeUniforms", 3, .uniform (.struct "CascadeUniforms"), some cascadeUniforms⟩,
  ⟨"diffuseCubemap", 4, .textureCube, none⟩,
  ⟨"specularCubemap", 5, .textureCube, none⟩,
  ⟨"brdfLut", 6, .texture2d, none⟩,
  ⟨"cubemapSampler", 7, .sampler .filtering, none⟩,
  ⟨"brdfSampler", 8, .sampler .filtering, none⟩,
  ⟨"ssrTexture", 9, .texture2d, none⟩,
  ⟨"ssrSampler", 10, .sampler .filtering, none⟩,
  ⟨"probeCubemap", 11, .textureCube, none⟩]

def find? (name : String) : Option Slot := table.find? (·.name == name)

/-- The bit of the slot. -/
def mask (s : Slot) : Mask := Mask.single s.index

/-- The slots that a mask selects, in the order of their indices. -/
def ofMask (m : Mask) : List Slot := table.filter fun s => m.has s.index

/-- The layout entry of the slot. Both stages see it, so that one layout for a mask serves every
variant. -/
def layoutEntry (s : Slot) : LayoutEntry := ⟨s.index, .both, .ofKind s.kind⟩

theorem mem_table_of_find? {name : String} {s : Slot} (h : find? name = some s) : s ∈ table :=
  List.mem_of_find?_eq_some h

theorem name_of_find? {name : String} {s : Slot} (h : find? name = some s) : s.name = name := by
  simpa using List.find?_some h

theorem index_lt {s : Slot} (h : s ∈ table) : s.index < 12 := by
  have : ∀ t ∈ table, t.index < 12 := by simp [table]
  exact this s h

end Slot

/-- The layout entries of the slots that a mask selects. -/
def Mask.layoutEntries (m : Mask) : List LayoutEntry := (Slot.ofMask m).map Slot.layoutEntry

end ShaderWeave
