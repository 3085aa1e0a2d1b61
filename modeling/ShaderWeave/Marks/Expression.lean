import ShaderWeave.Error
import ShaderWeave.Marks.Value

/-!
# Expressions of a template

A tag shows the value of an expression, or a condition asks whether it is true.

A name that nothing has stands for an undefined value. That is a mistake only where something is
done with the value, so `FUNCTIONS or OTHER` may do without the second name. The mistake is reported
on the line of the last part that has been looked at.
-/

namespace ShaderWeave.Marks

/-- An expression. `start` is the line of its first token, and the line of a single token is its
own. -/
inductive Expression
  | name (text : String) (line : Nat)
  | written (value : Value) (line : Nat)
  | field (of : Expression) (name : String)
  | item (of place : Expression)
  /-- The part between some places, by those that are given. -/
  | slice (of : Expression) (places : List Expression)
  | negation (operand : Expression) (start : Nat)
  | opposite (operand : Expression) (start : Nat)
  | both (left right : Expression) (start : Nat)
  | either (left right : Expression) (start : Nat)
  | binary (operator : Operator) (left right : Expression) (start : Nat)
  /-- A value under a condition. -/
  | only (value condition : Expression)
  | choice (value condition alternative : Expression)
  | list (items : List Expression) (start : Nat)
  /-- A map, by its keys and values in turn. -/
  | map (parts : List Expression) (start : Nat)
  | filter (of : Expression) (name : String) (arguments : List Expression)
  | test (of : Expression) (name : String) (arguments : List Expression)
  | call (of : Expression) (arguments : List Expression)

namespace Expression

def ofWord (text : String) (line : Nat) : Expression :=
  match text with
  | "true" | "True" => written (.truth true) line
  | "false" | "False" => written (.truth false) line
  | "none" | "None" => written .nothing line
  | _ => name text line

/-! ## Lines -/

mutual

/-- Whether an expression is written out, so that it is looked at as a whole. -/
def isConstant : Expression → Bool
  | written _ _ => true
  | negation e _ | opposite e _ => e.isConstant
  | both left right _ | either left right _ | binary _ left right _ =>
    left.isConstant && right.isConstant
  | list parts _ | map parts _ => areConstant parts
  | _ => false

def areConstant : List Expression → Bool
  | [] => true
  | e :: rest => e.isConstant && areConstant rest

end

mutual

/-- The line of the last part that is looked at when the whole is worked out in order: a condition
comes before what it chooses from. A missing value is reported there. -/
def line : Expression → Nat
  | name _ line | written _ line => line
  | field e _ => e.line
  | item _ place => place.line
  | slice e places | filter e _ places | test e _ places | call e places =>
    match lastLine? places with
    | some line => line
    | none => e.line
  | negation e start | opposite e start => if e.isConstant then start else e.line
  | both left right start | either left right start | binary _ left right start =>
    if left.isConstant && right.isConstant then start else right.line
  | only value _ => value.line
  | choice _ _ alternative => alternative.line
  | list parts start | map parts start =>
    if areConstant parts then start
    else match lastLine? parts with
      | some line => line
      | none => start

def lastLine? : List Expression → Option Nat
  | [] => none
  | e :: rest =>
    match lastLine? rest with
    | some line => some line
    | none => some e.line

end

/-! ## Values -/

/-- Refuses an undefined value after an expression. -/
def insist (after : Expression) (value : Value) : Except TemplateError Value :=
  match value with
  | .undefined => .error (.undefinedName after.line)
  | value => .ok value

def insistAll (after : Expression) : List Value → Except TemplateError Unit
  | [] => .ok ()
  | value :: rest => do
    let _ ← after.insist value
    after.insistAll rest

/-- What there is of a value after an expression, if it is defined and not unknown. -/
def demand {α : Type} (after : Expression) (view : Value → Option α) (value : Value) :
    Except TemplateError α :=
  match after.insist value with
  | .error e => .error e
  | .ok value =>
    match view value with
    | some found => .ok found
    | none => .error (.unsupported after.line)

def entries : List Value → List (Value × Value)
  | key :: value :: rest => (key, value) :: entries rest
  | _ => []

/-- The filters that put another value in the place of an undefined one. -/
def defaultFilters : List String := ["default", "d"]

mutual

/-- The value of an expression, with the values of names that `lookup` finds. -/
def eval (lookup : String → Value) : Expression → Except TemplateError Value
  | name text _ => .ok (lookup text)
  | written value _ => .ok value
  | field of part => do
    let value ← of.insist (← of.eval lookup)
    return value.field part
  | item of place => do
    let value ← of.eval lookup
    let found ← place.eval lookup
    return (← place.insist value).item found
  | slice of places => do
    let value ← of.eval lookup
    let found ← evalAll lookup places
    (slice of places).insistAll (value :: found)
    return .unknown
  | negation e _ => do
    let value ← e.insist (← e.eval lookup)
    return value.not
  | opposite e start =>
    match e.eval lookup with
    | .error e => .error e
    | .ok .undefined => .error (.undefinedName start)
    | .ok value => .ok value.opposite
  | both left right _ => do
    let value ← left.eval lookup
    if ← left.demand Value.isTrue? value then right.eval lookup else return value
  | either left right _ => do
    let value ← left.eval lookup
    if ← left.demand Value.isTrue? value then return value else right.eval lookup
  | binary operator left right _ => do
    let a ← left.eval lookup
    let b ← right.eval lookup
    right.insistAll [a, b]
    return .combine operator a b
  | only value condition => do
    let test ← condition.eval lookup
    if ← condition.demand Value.isTrue? test then value.eval lookup else return .blank
  | choice value condition alternative => do
    let test ← condition.eval lookup
    if ← condition.demand Value.isTrue? test then value.eval lookup else alternative.eval lookup
  | list parts _ => do return .list (← evalAll lookup parts)
  | map parts _ => do return .map (entries (← evalAll lookup parts))
  | filter of title arguments => do
    let value ← of.eval lookup
    let found ← evalAll lookup arguments
    (filter of title arguments).insistAll found
    match value, defaultFilters.contains title, found with
    | .undefined, true, [] => return .text ""
    | .undefined, true, other :: _ => return other
    | value, true, [] | value, true, [_] => return value
    | _, _, _ => do
      (filter of title arguments).insistAll [value]
      return .unknown
  | test of title arguments => do
    let value ← of.eval lookup
    let found ← evalAll lookup arguments
    (test of title arguments).insistAll found
    match value.isA? title with
    | some b => return .truth b
    | none => do
      (test of title arguments).insistAll [value]
      return .unknown
  | call of arguments => do
    -- A call of a field is one of the value that has the field.
    let value ← match of with
      | field owner _ => owner.eval lookup
      | of => of.eval lookup
    let found ← evalAll lookup arguments
    (call of arguments).insistAll (value :: found)
    throw (.unsupported (call of arguments).line)

def evalAll (lookup : String → Value) : List Expression → Except TemplateError (List Value)
  | [] => .ok []
  | e :: rest => do
    let value ← e.eval lookup
    return value :: (← evalAll lookup rest)

end

def text (lookup : String → Value) (e : Expression) : Except TemplateError String := do
  e.demand Value.text? (← e.eval lookup)

def holds (lookup : String → Value) (e : Expression) : Except TemplateError Bool := do
  e.demand Value.isTrue? (← e.eval lookup)

end Expression

end ShaderWeave.Marks
