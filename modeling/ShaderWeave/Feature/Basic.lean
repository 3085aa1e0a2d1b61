import ShaderWeave.Binding.Group
import ShaderWeave.Binding.Kind
import ShaderWeave.Binding.Stage

/-!
# Features

A feature is one capability of a shader, written on its own: the resources it needs, the helper
functions it brings, and the pieces of source it puts into the template.
-/

namespace ShaderWeave

open Wgsl

/-- A resource that a feature needs. Two requirements with the same name in the same group are
the same resource. -/
structure Requirement where
  name : String
  kind : Kind
  group : Group
  /-- The label of the component that supplies the resource when drawing. -/
  provider : String
  deriving DecidableEq

namespace Requirement

/-- A requirement that no component is known to supply. -/
def ofKind (name : String) (kind : Kind) (group : Group) : Requirement := ⟨name, kind, group, ""⟩

/-- A field of the uniform struct of one object. -/
def perObject (name : String) (type : ValueType) : Requirement :=
  ofKind name (.uniform type) .perObject

def texture (name : String) (sample : SampleKind) (dimension : Dimension) : Requirement :=
  ofKind name (.texture sample dimension) .textures

def sampler (name : String) (kind : SamplerKind) : Requirement :=
  ofKind name (.sampler kind) .textures

def storage (name : String) (element : ValueType) (readOnly : Bool) : Requirement :=
  ofKind name (.storage element readOnly) .textures

/-- A binding that the shared environment supplies. -/
def environment (name : String) (kind : Kind) : Requirement :=
  ⟨name, kind, .environment, "environment"⟩

def inGroup (q : Requirement) (group : Group) : Requirement := { q with group }

def providedBy (q : Requirement) (provider : String) : Requirement := { q with provider }

end Requirement

/-- A value handed from the vertex stage to the fragment stage. -/
structure Varying where
  name : String
  type : ValueType
  deriving DecidableEq

structure Feature where
  id : String
  stage : Stage
  resources : List Requirement := []
  /-- Helper functions, written once into the shader. -/
  functions : String := ""
  vertex : Option String := none
  /-- The body of the one fragment slot that the feature owns, if it owns one. -/
  fragment : Option String := none
  preLighting : Option String := none
  post : Option String := none
  varyings : List Varying := []
  /-- The features that have to come before this one. -/
  dependencies : List String := []
  deriving DecidableEq

end ShaderWeave
