import ShaderWeave.Digest.Basic
import ShaderWeave.Environment.Capability
import ShaderWeave.Feature.Catalogue
import ShaderWeave.Feature.Resolution
import ShaderWeave.Shader.Sections
import ShaderWeave.Template.Basic

/-!
# Composition

A library has the features that can be asked for and the template they go into. It turns a request
into one shader with the layouts that drawing needs. The result depends on the registry, the template
and the set of requested ids alone.
-/

namespace ShaderWeave

/-- A composed shader. -/
structure Shader where
  source : String
  /-- The fields appended to the uniforms of an object, in the order in which they are first seen. -/
  uniforms : List ObjectField
  /-- The bindings of the textures group, with the indices from zero on. -/
  textures : List Binding
  /-- The bindings of the environment group, in the order of their indices. -/
  environment : List Binding
  key : RequestKey
  /-- The ids of the resolved features, dependencies first. -/
  features : List String
  digest : Digest
  deriving DecidableEq

namespace Shader

def hasTextures (s : Shader) : Bool := !s.textures.isEmpty

def hasEnvironment (s : Shader) : Bool := !s.environment.isEmpty

/-- The bits of the environment bindings that the shader declares. -/
def declaredMask (s : Shader) : Mask := Mask.unions (s.environment.map fun b => .single b.index)

/-- The bits of the slots that the features of the shader are known to need. -/
def capabilityMask (s : Shader) : Mask := Mask.ofFeatures s.features

def hasFeature (s : Shader) (id : String) : Bool := s.features.contains id

/-- The appended field of a name. -/
def uniform? (s : Shader) (name : String) : Option ObjectField :=
  s.uniforms.find? (·.name == name)

/-- The layout entries of the textures group. -/
def textureLayout (s : Shader) : List LayoutEntry := s.textures.map Binding.layoutEntry

end Shader

structure Library where
  registry : Registry
  template : Template

namespace Library

/-- The built-in features in the base template. -/
def standard (engine : Template.Engine) : Library := ⟨.builtin, .base engine⟩

def resolve (lib : Library) (ids : List String) : Except ShaderError (List Feature) :=
  lib.registry.resolve ids

/-- The shader of resolved features. -/
def assemble (lib : Library) (key : RequestKey) (features : List Feature) :
    Except ShaderError Shader :=
  match Bindings.collect features with
  | .error e => .error e
  | .ok b =>
    match lib.template.fill (Sections.generate features b) with
    | .error e => .error (.template e)
    | .ok source => .ok
      { source
        uniforms := b.uniforms
        textures := b.textures
        environment := b.environment
        key
        features := features.map Feature.id
        digest := .ofText source }

def compose (lib : Library) (ids : List String) : Except ShaderError Shader :=
  match lib.resolve ids with
  | .error e => .error e
  | .ok features => lib.assemble (.ofIds ids) features

/-- What is logged when a shader has been composed. -/
def finished (s : Shader) : Log :=
  [.composed s.key s.features.length s.textures.length s.environment.length]

/-- What a composition logs: warnings as soon as there are bindings to generate source for, and a
last event if it succeeds. -/
def composeLog (lib : Library) (ids : List String) : Log :=
  match lib.resolve ids with
  | .error _ => []
  | .ok features =>
    match Bindings.collect features with
    | .error _ => []
    | .ok _ =>
      match lib.assemble (.ofIds ids) features with
      | .error _ => Sections.warnings features
      | .ok shader => Sections.warnings features ++ finished shader

/-- Registers a feature; the result is the declaration it replaces. -/
def register (lib : Library) (f : Feature) :
    Reply Library (Except ShaderError (Option Feature)) :=
  let r := lib.registry.register f
  { result := r.result, state := { lib with registry := r.state }, log := r.log }

def unregister (lib : Library) (id : String) : Reply Library (Option Feature) :=
  let r := lib.registry.unregister id
  { result := r.result, state := { lib with registry := r.state }, log := r.log }

/-- Reads the template anew. -/
def reload (lib : Library) : Reply Library Unit :=
  let r := lib.template.reload
  { result := (), state := { lib with template := r.state }, log := r.log }

end Library

end ShaderWeave
