import ShaderWeave.Wgsl.ValueType

/-!
# What a binding holds

Two declarations of one resource are compatible if their kinds are equal. The description of a
kind is for people: it leaves out what the shading language does not write.
-/

namespace ShaderWeave

open Wgsl

/-- How the texels of a texture are read. -/
inductive SampleKind
  | float
  | unfilterable
  | depth
  | sint
  | uint
  deriving DecidableEq

inductive Dimension
  | d2
  | d2Array
  | cube
  | cubeArray
  deriving DecidableEq

inductive SamplerKind
  | filtering
  | nonFiltering
  | comparison
  deriving DecidableEq

inductive Kind
  | uniform (type : ValueType)
  | texture (sample : SampleKind) (dimension : Dimension)
  | sampler (kind : SamplerKind)
  /-- A buffer with an array of any length. -/
  | storage (element : ValueType) (readOnly : Bool)
  deriving DecidableEq

def Dimension.wgsl : Dimension → String
  | .d2 => "2d"
  | .d2Array => "2d_array"
  | .cube => "cube"
  | .cubeArray => "cube_array"

namespace Kind

/-- A two-dimensional texture of filterable floats. -/
def texture2d : Kind := texture .float .d2

/-- A cube texture of filterable floats. -/
def textureCube : Kind := texture .float .cube

/-- The type of the variable. -/
def wgslType : Kind → String
  | uniform t => t.wgsl
  | texture .depth d => "texture_depth_" ++ d.wgsl
  | texture .float d | texture .unfilterable d => "texture_" ++ d.wgsl ++ "<f32>"
  | texture .sint d => "texture_" ++ d.wgsl ++ "<i32>"
  | texture .uint d => "texture_" ++ d.wgsl ++ "<u32>"
  | sampler .comparison => "sampler_comparison"
  | sampler _ => "sampler"
  | storage t _ => "array<" ++ t.wgsl ++ ">"

/-- The word for how a shader may use a storage buffer. -/
def access (readOnly : Bool) : String := if readOnly then "read" else "read_write"

/-- The address space of the variable, where it has to be written. -/
def space : Kind → String
  | uniform _ => "<uniform>"
  | storage _ readOnly => "<storage, " ++ access readOnly ++ ">"
  | texture .. | sampler _ => ""

/-- The declaration of a variable of this kind, without the semicolon. -/
def declaration (k : Kind) (group binding : Nat) (name : String) : String :=
  s!"@group({group}) @binding({binding}) var{k.space} {name}: {k.wgslType}"

/-- The kind in words, for messages. -/
def describe : Kind → String
  | uniform t => "uniform " ++ t.wgsl
  | texture .unfilterable d => (texture .unfilterable d).wgslType ++ " (unfilterable)"
  | storage t readOnly => "storage<" ++ access readOnly ++ "> " ++ (storage t readOnly).wgslType
  | k => k.wgslType

end Kind

end ShaderWeave
