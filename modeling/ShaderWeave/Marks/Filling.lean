import ShaderWeave.Marks.Node
import ShaderWeave.Marks.Scope

/-!
# Filling a template

The text of a tree is made of the texts of its nodes in order, and what one node sets the next ones
see. The first mistake counts. A statement that cannot be filled is one too, after the mistakes in
its expressions and its block.
-/

namespace ShaderWeave.Marks

/-! ## Loops -/

/-- What `loop` stands for in a turn, counted from zero, of a loop over some items. -/
def loopValue (items : List Value) (turn : Nat) : Value :=
  let turns := items.length
  .map [
    (.text "index", .integer (turn + 1)),
    (.text "index0", .integer turn),
    (.text "revindex", .integer (turns - turn)),
    (.text "revindex0", .integer (turns - turn - 1)),
    (.text "first", .truth (turn == 0)),
    (.text "last", .truth (turn + 1 == turns)),
    (.text "length", .integer turns),
    (.text "depth", .unknown),
    (.text "depth0", .unknown),
    (.text "previtem", if turn = 0 then .undefined else items[turn - 1]?.getD .undefined),
    (.text "nextitem", items[turn + 1]?.getD .undefined)]

def LoopHead.takes (head : LoopHead) (s : Scope) (item : Value) : Except TemplateError Bool :=
  match head.condition with
  | none => .ok true
  | some condition => do
    let s ← s.enter.assign head.series.line head.target item
    condition.holds s.lookup

def LoopHead.items (head : LoopHead) (s : Scope) : Except TemplateError (List Value) := do
  let all ← head.series.demand Value.items? (← head.series.eval s.lookup)
  all.filterM (head.takes s)

/-- The scope of the turn of a loop for one of its items, which comes with its place. -/
def LoopHead.turn (head : LoopHead) (s : Scope) (items : List Value) (item : Value × Nat) :
    Except TemplateError Scope :=
  (s.set "loop" (loopValue items item.2)).assign head.series.line head.target item.1

/-! ## Nodes -/

/-- Sets names one after the other, so that each value may use those before it. -/
def bindAll (s : Scope) : List (Target × Expression) → Except TemplateError Scope
  | [] => .ok s
  | (target, value) :: rest => do
    let s ← s.assign value.line target (← value.eval s.lookup)
    bindAll s rest

mutual

/-- The text of a node, and the scope after it. -/
def Node.fill (s : Scope) : Node → Except TemplateError (String × Scope)
  | .literal text => .ok (text, s)
  | .insert e => (e.text s.lookup).map (·, s)
  | .branch test yes no => do
    if ← test.holds s.lookup then fillAll s yes else fillAll s no
  | .set target value => (bindAll s [(target, value)]).map ("", ·)
  | .single heads line => do
    let _ ← Expression.evalAll s.lookup heads
    throw (.unsupported line)
  | .block (.loop head) _ body otherwise => do
    let items ← head.items s
    if items.isEmpty then fillAll s otherwise
    else do
      let turn (done : String × Scope) (item : Value × Nat) : Except TemplateError _ := do
        let (text, s) ← fillAll (← head.turn done.2 items item) body
        return (done.1 ++ text, s)
      let (text, s) ← items.zipIdx.foldlM turn ("", s.enter)
      return (text, s.leave)
  | .block (.scope bindings) _ body _ => do
    let (text, s) ← fillAll (← bindAll s.enter bindings) body
    return (text, s.leave)
  | .block (.capture target filters) line body _ => do
    let (text, s) ← fillAll s body
    let value ← match filters with
      | some filters => filters.eval s.lookup
      | none => .ok (.text text)
    return ("", ← s.assign line target value)
  | .block (.part _ _) _ body _ => do
    let (text, s) ← fillAll s.enter body
    return (text, s.leave)
  | .block (.definition name) _ _ _ => .ok ("", s.set name .unknown)
  | .block (.escaping way) line body _ => do
    let _ ← way.eval s.lookup
    let _ ← fillAll s body
    throw (.unsupported line)
  | .block (.filtering filters) line body _ => do
    let (_, s) ← fillAll s body
    let _ ← filters.eval s.lookup
    throw (.unsupported line)
  | .block (.caller call) line _ _ => do
    let _ ← call.eval s.lookup
    throw (.unsupported line)

def fillAll (s : Scope) : List Node → Except TemplateError (String × Scope)
  | [] => .ok ("", s)
  | node :: rest => do
    let (text, s) ← node.fill s
    let (more, s) ← fillAll s rest
    return (text ++ more, s)

end

end ShaderWeave.Marks
