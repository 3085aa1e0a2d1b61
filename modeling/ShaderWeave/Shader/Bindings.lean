import ShaderWeave.Environment.Slot
import ShaderWeave.Error
import ShaderWeave.Feature.Basic
import ShaderWeave.Wgsl.StructLayout

/-!
# The bindings of a shader

The requirements of the resolved features, each resource once. A resource that is required again
has to have the same kind again. Textures get their indices in the order in which they are first
seen; the environment table gives the indices of the environment group, which keeps their order.
-/

namespace ShaderWeave

open Wgsl

/-- A binding of the textures or of the environment group. -/
structure Binding where
  name : String
  index : Nat
  kind : Kind
  /-- The stages of all features that require it. -/
  visibility : Stage
  provider : String
  /-- The feature that required it first. -/
  feature : String
  deriving DecidableEq

namespace Binding

def ofRequirement (f : Feature) (q : Requirement) (index : Nat) : Binding :=
  ⟨q.name, index, q.kind, f.stage, q.provider, f.id⟩

/-- The declaration of the variable in a group. -/
def declaration (b : Binding) (group : Group) : String :=
  b.kind.declaration group.index b.index b.name ++ ";"

def layoutEntry (b : Binding) : LayoutEntry := ⟨b.index, b.visibility, .ofKind b.kind⟩

end Binding

/-- A field appended to the uniforms of an object. -/
structure ObjectField where
  name : String
  type : Numeric
  provider : String
  feature : String
  deriving DecidableEq

/-! ## The uniforms of an object -/

namespace Uniforms

/-- The fields that every object has. -/
def baseFields : List (String × Numeric) :=
  [("model", .mat4), ("normal_matrix", .mat4), ("base_color", .vec4), ("emissive", .vec3),
    ("metallic", .f32), ("roughness", .f32)]

/-- The first byte after the base fields. -/
def baseEnd : Nat := 164

/-- The alignment of the struct, which its matrices need. -/
def structAlign : Nat := 16

/-- The places of appended fields. -/
def offsets (fields : List ObjectField) : List Placement :=
  place baseEnd (fields.map fun f => (f.name, f.type))

/-- The size of the struct with appended fields, with the padding at its end. -/
def size (fields : List ObjectField) : Nat :=
  alignUp (placedEnd baseEnd (offsets fields)) structAlign

end Uniforms

/-! ## Collecting -/

structure Bindings where
  uniforms : List ObjectField := []
  textures : List Binding := []
  environment : List Binding := []
  deriving DecidableEq

namespace Bindings

/-- The owner of the base fields, as messages name it. -/
def baseOwner : String := "<base>"

/-- A requirement has to have the kind that the resource has already. -/
def checkKind (f : Feature) (q : Requirement) (existingFeature : String) (existing : Kind) :
    Except ShaderError Unit :=
  if existing = q.kind then .ok ()
  else .error (.resourceTypeConflict f.id existingFeature q.name q.group existing q.kind)

/-- Widens the visibility of the first binding of a name. -/
def widen (name : String) (stage : Stage) : List Binding → List Binding
  | [] => []
  | b :: rest =>
    if b.name = name then { b with visibility := b.visibility.union stage } :: rest
    else b :: widen name stage rest

def addUniform (b : Bindings) (f : Feature) (q : Requirement) : Except ShaderError Bindings :=
  match q.kind with
  | .uniform (.numeric type) =>
    match Uniforms.baseFields.lookup q.name with
    | some base => (checkKind f q baseOwner (.uniform (.numeric base))).map fun _ => b
    | none =>
      match b.uniforms.find? (·.name == q.name) with
      | some e => (checkKind f q e.feature (.uniform (.numeric e.type))).map fun _ => b
      | none => .ok { b with uniforms := b.uniforms ++ [⟨q.name, type, q.provider, f.id⟩] }
  | _ => .error (.invalidPerObjectResource f.id q.name)

/-- Whether a kind is a uniform struct, whose definition only the environment table has. -/
def isStructUniform : Kind → Bool
  | .uniform (.struct _) => true
  | _ => false

def addTexture (b : Bindings) (f : Feature) (q : Requirement) : Except ShaderError Bindings :=
  if isStructUniform q.kind then .error (.invalidTextureResource f.id q.name)
  else match b.textures.find? (·.name == q.name) with
    | some e => (checkKind f q e.feature e.kind).map fun _ =>
      { b with textures := widen q.name f.stage b.textures }
    | none =>
      .ok { b with textures := b.textures ++ [.ofRequirement f q b.textures.length] }

/-- Puts a binding in the order of indices, after those with its index. -/
def insertByIndex (b : Binding) : List Binding → List Binding
  | [] => [b]
  | x :: xs => if b.index < x.index then b :: x :: xs else x :: insertByIndex b xs

def addEnvironment (b : Bindings) (f : Feature) (q : Requirement) : Except ShaderError Bindings :=
  match Slot.find? q.name with
  | none => .error (.unknownEnvironmentResource f.id q.name)
  | some slot =>
    if slot.kind = q.kind then
      if b.environment.any (·.name == q.name) then
        .ok { b with environment := widen q.name f.stage b.environment }
      else
        .ok { b with environment := insertByIndex (.ofRequirement f q slot.index) b.environment }
    else .error (.environmentTypeMismatch f.id q.name slot.kind q.kind)

def add (b : Bindings) (f : Feature) (q : Requirement) : Except ShaderError Bindings :=
  match q.group with
  | .perObject => b.addUniform f q
  | .textures => b.addTexture f q
  | .environment => b.addEnvironment f q

/-- Adds requirements one after another; the first that does not fit ends it. -/
def addAll (b : Bindings) : List (Feature × Requirement) → Except ShaderError Bindings
  | [] => .ok b
  | (f, q) :: rest =>
    match b.add f q with
    | .error e => .error e
    | .ok b => b.addAll rest

/-- All requirements of features, with the features that have them. -/
def requirements (features : List Feature) : List (Feature × Requirement) :=
  features.flatMap fun f => f.resources.map (f, ·)

/-- The bindings that features need together. -/
def collect (features : List Feature) : Except ShaderError Bindings :=
  addAll {} (requirements features)

end Bindings

end ShaderWeave
