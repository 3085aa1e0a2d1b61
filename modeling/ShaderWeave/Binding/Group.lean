/-! # The bind groups that features can put resources in -/

namespace ShaderWeave

inductive Group
  /-- Fields of the uniform struct of one object. -/
  | perObject
  /-- Bindings of one mesh, numbered in the order of their declaration. -/
  | textures
  /-- Bindings shared by all meshes, numbered by the environment table. -/
  | environment
  deriving DecidableEq

namespace Group

/-- The index that the group is bound at. -/
def index : Group → Nat
  | perObject => 1
  | textures => 2
  | environment => 3

def name : Group → String
  | perObject => "per-object"
  | textures => "textures"
  | environment => "environment"

/-- The name that diagnoses show. -/
def debug : Group → String
  | perObject => "PerObject"
  | textures => "Textures"
  | environment => "Environment"

end Group

end ShaderWeave
