/-!
# Markers

The base template is a shader with named places for generated source. A place is written as a
marker, which the shading language reads as a comment. What goes into a place is its section.
-/

namespace ShaderWeave

/-- The places for generated source, in the order of the base template. -/
inductive Marker
  /-- The fields appended to the uniform struct of an object. -/
  | perObjectUniforms
  /-- The declarations of the textures group. -/
  | textureBindings
  /-- Struct definitions, then the declarations of the environment group. -/
  | environmentBindings
  /-- The fields appended to the vertex output. -/
  | varyings
  | functions
  | vertexInject
  /-- Owned by one feature, as the shadow and the ambient slot are. -/
  | fragmentTextureSampling
  | fragmentShadow
  | fragmentPreLighting
  | fragmentAmbient
  | fragmentPost
  deriving DecidableEq

namespace Marker

def all : List Marker :=
  [perObjectUniforms, textureBindings, environmentBindings, varyings, functions, vertexInject,
    fragmentTextureSampling, fragmentShadow, fragmentPreLighting, fragmentAmbient, fragmentPost]

def name : Marker → String
  | perObjectUniforms => "PER_OBJECT_UNIFORMS"
  | textureBindings => "TEXTURE_BINDINGS"
  | environmentBindings => "ENVIRONMENT_BINDINGS"
  | varyings => "VARYINGS"
  | functions => "FUNCTIONS"
  | vertexInject => "VERTEX_INJECT"
  | fragmentTextureSampling => "FRAGMENT_TEXTURE_SAMPLING"
  | fragmentShadow => "FRAGMENT_SHADOW"
  | fragmentPreLighting => "FRAGMENT_PRE_LIGHTING"
  | fragmentAmbient => "FRAGMENT_AMBIENT"
  | fragmentPost => "FRAGMENT_POST"

def ofName? (name : String) : Option Marker := all.find? (·.name == name)

/-- The marker as a template writes it. -/
def source (m : Marker) : String := "/*\x7b\x7b" ++ m.name ++ "\x7d\x7d*/"

theorem mem_all (m : Marker) : m ∈ all := by cases m <;> decide

theorem ofName?_name (m : Marker) : ofName? m.name = some m := by cases m <;> rfl

end Marker

/-- The generated source for each place. -/
abbrev Sections := Marker → String

/-- The section with a name, if there is a place of that name. -/
def Sections.get? (s : Sections) (name : String) : Option String := (Marker.ofName? name).map s

/-! ## Plain templates -/

/-- A part of a template that has markers in it and no other marks. -/
inductive Segment
  | literal (text : String)
  | marker (marker : Marker)
  deriving DecidableEq

namespace Segment

def source : Segment → String
  | literal text => text
  | marker m => m.source

/-- The text of a plain template. -/
def join (segments : List Segment) : String := String.join (segments.map source)

/-- What the part becomes when the places are filled. -/
def fill (sections : Sections) : Segment → String
  | literal text => text
  | marker m => sections m

/-- The text of a plain template with its places filled. -/
def joinFilled (sections : Sections) (segments : List Segment) : String :=
  String.join (segments.map (fill sections))

end Segment

end ShaderWeave
