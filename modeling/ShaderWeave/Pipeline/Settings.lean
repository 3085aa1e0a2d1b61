/-!
# What a pipeline is built with

Face culling, the state of the render targets, and the layout of the one vertex buffer.
-/

namespace ShaderWeave

inductive CullMode
  | none
  | front
  | back
  deriving DecidableEq

namespace CullMode

/-- Back faces are culled unless a request says otherwise. -/
def standard : CullMode := back

/-- The culled face; `none` culls nothing. -/
def face? : CullMode → Option String
  | none => Option.none
  | front => some "Front"
  | back => some "Back"

/-- The name that labels and messages show. -/
def debug : CullMode → String
  | none => "None"
  | front => "Front"
  | back => "Back"

end CullMode

/-- A texel format, known by its name alone. -/
structure TextureFormat where
  name : String
  deriving DecidableEq

/-- The test that a depth value has to pass. -/
inductive CompareFunction
  | never
  | less
  | equal
  | lessEqual
  | greater
  | notEqual
  | greaterEqual
  | always
  deriving DecidableEq

structure PipelineSettings where
  color : TextureFormat := ⟨"Rgba16Float"⟩
  depth : TextureFormat := ⟨"Depth32Float"⟩
  /-- Depth is stored reversed, so what is nearer is greater. -/
  compare : CompareFunction := .greater
  /-- Whether each newly composed source is logged. -/
  dumpSource : Bool := false
  deriving DecidableEq

namespace CompareFunction

def all : List CompareFunction :=
  [never, less, equal, lessEqual, greater, notEqual, greaterEqual, always]

def name : CompareFunction → String
  | never => "Never"
  | less => "Less"
  | equal => "Equal"
  | lessEqual => "LessEqual"
  | greater => "Greater"
  | notEqual => "NotEqual"
  | greaterEqual => "GreaterEqual"
  | always => "Always"

def ofName? (name : String) : Option CompareFunction := all.find? (·.name == name)

end CompareFunction

/-! ## Vertices -/

structure VertexAttribute where
  location : Nat
  offset : Nat
  format : String
  deriving DecidableEq

/-- The bytes from one vertex to the next. -/
def vertexStride : Nat := 32

/-- The buffer advances once a vertex, not once an instance. -/
def vertexStep : String := "Vertex"

/-- Position, normal and texture coordinates, one after another. -/
def vertexAttributes : List VertexAttribute :=
  [⟨0, 0, "Float32x3"⟩, ⟨1, 12, "Float32x3"⟩, ⟨2, 24, "Float32x2"⟩]

end ShaderWeave
