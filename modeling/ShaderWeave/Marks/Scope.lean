import ShaderWeave.Error
import ShaderWeave.Marks.Target
import ShaderWeave.Marks.Value

/-!
# What names stand for

Names are set in frames, the innermost first; behind all frames stand the values that a template is
filled with. A loop, a scope and a part have a frame of their own, a condition has none.
-/

namespace ShaderWeave.Marks

structure Scope where
  frames : List (List (String × Value))
  /-- What a name stands for that no frame has. -/
  behind : String → Value

namespace Scope

/-- Names that stand for functions, of which nothing else is kept. -/
def functionNames : List String := ["range", "dict", "debug", "namespace"]

/-- The scope in which a template begins to be filled with texts. -/
def ofTexts (texts : String → Option String) : Scope where
  frames := [[]]
  behind name := match texts name with
    | some t => .text t
    | none => if functionNames.contains name then .unknown else .undefined

def lookup (s : Scope) (name : String) : Value :=
  match s.frames.findSome? (·.lookup name) with
  | some value => value
  | none => s.behind name

/-- Sets a name in the innermost frame. -/
def set (s : Scope) (name : String) (value : Value) : Scope :=
  { s with frames := s.frames.modifyHead ((name, value) :: ·) }

def enter (s : Scope) : Scope := { s with frames := [] :: s.frames }

def leave (s : Scope) : Scope := { s with frames := s.frames.tail }

mutual

/-- Sets a target to a value. A row needs as many items as it has targets, and parts of values are
not set here; `line` is where that shows. -/
def assign (line : Nat) (s : Scope) : Target → Value → Except TemplateError Scope
  | .name text, value => .ok (s.set text value)
  | .row _, .undefined => .error (.undefinedName line)
  | .row targets, value =>
    match value.items? with
    | some values => s.assignAll line targets values
    | none => .error (.unsupported line)
  | .field _ _, _ => .error (.unsupported line)

def assignAll (line : Nat) (s : Scope) : List Target → List Value → Except TemplateError Scope
  | [], [] => .ok s
  | target :: targets, value :: values => do
    let s ← s.assign line target value
    s.assignAll line targets values
  | _, _ => .error (.unsupported line)

end

end Scope

end ShaderWeave.Marks
