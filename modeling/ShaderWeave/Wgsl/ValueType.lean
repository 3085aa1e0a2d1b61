/-!
# Value types

The types a shader value can have here. A struct is known by its name alone; all other types have
an alignment and a size that memory layout can use.
-/

namespace ShaderWeave.Wgsl

/-- The scalar, vector and matrix types. -/
inductive Numeric
  | f32
  | i32
  | u32
  | vec2
  | vec3
  | vec4
  | mat3
  | mat4
  deriving DecidableEq

namespace Numeric

def wgsl : Numeric → String
  | f32 => "f32"
  | i32 => "i32"
  | u32 => "u32"
  | vec2 => "vec2<f32>"
  | vec3 => "vec3<f32>"
  | vec4 => "vec4<f32>"
  | mat3 => "mat3x3<f32>"
  | mat4 => "mat4x4<f32>"

/-- The alignment in bytes in a buffer that host and shader share. -/
def align : Numeric → Nat
  | f32 | i32 | u32 => 4
  | vec2 => 8
  | vec3 | vec4 | mat3 | mat4 => 16

/-- The size in bytes in a buffer that host and shader share. -/
def size : Numeric → Nat
  | f32 | i32 | u32 => 4
  | vec2 => 8
  | vec3 => 12
  | vec4 => 16
  | mat3 => 48
  | mat4 => 64

theorem align_pos (t : Numeric) : 0 < t.align := by cases t <;> decide

end Numeric

inductive ValueType
  | numeric (type : Numeric)
  /-- A struct, defined elsewhere under this name. -/
  | struct (name : String)
  deriving DecidableEq

namespace ValueType

def wgsl : ValueType → String
  | numeric t => t.wgsl
  | struct name => name

/-- Alignment and size; the layout of a struct is unknown here. -/
def alignAndSize? : ValueType → Option (Nat × Nat)
  | numeric t => some (t.align, t.size)
  | struct _ => none

/-- Integers cannot be interpolated between vertices. -/
def isInteger : ValueType → Bool
  | numeric .i32 | numeric .u32 => true
  | _ => false

end ValueType

end ShaderWeave.Wgsl
