import ShaderWeave.Log
import ShaderWeave.Shader.Bindings
import ShaderWeave.Template.Marker
import ShaderWeave.Text.Blank
import ShaderWeave.Text.Lines

/-!
# The generated source

What goes into each place of the template, from the resolved features and their bindings. Pieces of
several features stand one after another in the order of the features, each under a comment that
names its feature. Three fragment slots belong to one feature each; a fragment body of any other
feature is left out.
-/

namespace ShaderWeave

open Text

namespace Sections

/-! ## Bindings -/

def uniformField (f : ObjectField) : String := s!"    {f.name}: {f.type.wgsl},\n"

def perObjectUniforms (fields : List ObjectField) : String :=
  String.join (fields.map uniformField)

def textureBindings (bindings : List Binding) : String :=
  unlines (bindings.map fun b => b.declaration .textures)

/-- The struct definitions that bindings need, each once. -/
def structDefs (bindings : List Binding) : List String :=
  (bindings.filterMap fun b => (Slot.find? b.name).bind Slot.structDef).eraseDups

/-- Definitions stand before all declarations that name them. -/
def environmentBindings (bindings : List Binding) : String :=
  unlines (structDefs bindings ++ bindings.map fun b => b.declaration .environment)

/-! ## Varyings -/

/-- The locations that the vertex output of the template uses. -/
def baseVaryingLocations : Nat := 3

/-- The varyings of features, with the features that have them. -/
def allVaryings (features : List Feature) : List (Feature × Varying) :=
  features.flatMap fun f => f.varyings.map (f, ·)

/-- The first varying of each name, after those in `seen`. -/
def firstVaryings (seen : List Varying) : List (Feature × Varying) → List Varying
  | [] => seen
  | (_, v) :: rest =>
    if seen.any (·.name == v.name) then firstVaryings seen rest
    else firstVaryings (seen ++ [v]) rest

def varyingField (v : Varying) (index : Nat) : String :=
  let flat := if v.type.isInteger then " @interpolate(flat)" else ""
  s!"    @location({baseVaryingLocations + index}){flat} {v.name}: {v.type.wgsl},\n"

/-- One field for each name, of the type it is first declared with. -/
def varyings (features : List Feature) : String :=
  String.join ((firstVaryings [] (allVaryings features)).mapIdx fun i v => varyingField v i)

/-- The varyings that are declared again with another type. -/
def redeclarations (seen : List Varying) : List (Feature × Varying) → Log
  | [] => []
  | (f, v) :: rest =>
    match seen.find? (·.name == v.name) with
    | some first =>
      if first.type = v.type then redeclarations seen rest
      else .varyingRedeclared v.name f.id :: redeclarations seen rest
    | none => redeclarations (seen ++ [v]) rest

/-! ## Source of the features -/

/-- The comment that names the feature a source comes from. -/
def tag (id : String) : String := "// feature: " ++ id ++ "\n"

/-- Sources with an empty line between each two. -/
def paragraphs (sources : List String) : String := "\n\n".intercalate sources

def functions (features : List Feature) : String :=
  paragraphs ((features.filter fun f => trim f.functions != "").map fun f =>
    tag f.id ++ trimEnd f.functions)

def tagged (id source : String) : String := tag id ++ trim source

/-- The pieces that features have for one place. -/
def body (piece : Feature → Option String) (features : List Feature) : String :=
  indentBody (paragraphs (features.filterMap fun f => (piece f).map (tagged f.id)))

/-! ## Slots with one owner -/

/-- The fragment slots that belong to one feature each, with their owners. -/
def slotOwners : List (String × Marker) :=
  [("textured", .fragmentTextureSampling), ("shadow", .fragmentShadow), ("ibl", .fragmentAmbient)]

/-- A feature with a fragment body writes it into the slot that it owns, over what is there. -/
def writeSlot (slots : Sections) (f : Feature) : Sections :=
  match f.fragment, slotOwners.lookup f.id with
  | some source, some slot => fun m => if m = slot then indentBody (tagged f.id source) else slots m
  | _, _ => slots

/-- The slots when all features have written theirs, one after another. -/
def fragmentSlots (features : List Feature) : Sections := features.foldl writeSlot fun _ => ""

/-- The features whose fragment body is left out. -/
def ignoredInjections (features : List Feature) : Log :=
  (features.filter fun f => f.fragment.isSome && (slotOwners.lookup f.id).isNone).map fun f =>
    .injectionIgnored f.id

/-- All sections. -/
def generate (features : List Feature) (b : Bindings) : Sections
  | .perObjectUniforms => perObjectUniforms b.uniforms
  | .textureBindings => textureBindings b.textures
  | .environmentBindings => environmentBindings b.environment
  | .varyings => varyings features
  | .functions => functions features
  | .vertexInject => body Feature.vertex features
  | .fragmentTextureSampling => fragmentSlots features .fragmentTextureSampling
  | .fragmentShadow => fragmentSlots features .fragmentShadow
  | .fragmentPreLighting => body Feature.preLighting features
  | .fragmentAmbient => fragmentSlots features .fragmentAmbient
  | .fragmentPost => body Feature.post features

/-- What is logged of the features while their source is generated. -/
def warnings (features : List Feature) : Log :=
  redeclarations [] (allVaryings features) ++ ignoredInjections features

end Sections

end ShaderWeave
