import ShaderWeave.Marks.Expression
import ShaderWeave.Marks.Remainder

/-!
# Reading expressions

An expression is read token by token. What has begun and waits for its next operand is kept in a
list, the innermost first: operators, conditions and open brackets. An operator settles those before
it that bind at least as tightly.

Reading reports the line of the first token that cannot stand where it does; if the tokens end too
early, or too much is open at once, the line of the last thing read.
-/

namespace ShaderWeave.Marks

/-- How many things may be open at once: statements, expressions and operands. -/
def depthLimit : Nat := 150

/-- How many arguments a call may have. -/
def argumentLimit : Nat := 2000

inductive Form
  | full
  /-- An expression with choices only inside brackets. -/
  | plain
  /-- The filters of a statement, with bars between them. -/
  | filters
  deriving DecidableEq

structure Place where
  nesting : Nat
  form : Form

/-- An expression that is read, with the line of its first token. -/
structure Operand where
  e : Expression
  start : Nat

inductive Role
  | plain
  | spread
  | named
  deriving DecidableEq

/-- What arguments are for. -/
inductive Callee
  | call (of : Operand)
  | filter (of : Operand) (name : String)
  | test (of : Operand) (name : String) (negated : Bool)

/-- An open bracket, by what it holds and what has been read of it. -/
inductive Enclosure
  /-- One expression, or the items of a row once a comma has come. -/
  | group (start : Nat) (row : Option (List Expression))
  | list (start : Nat) (items : List Expression)
  /-- Keys and values of a map, before the colon of an entry and after it. -/
  | key (start : Nat) (parts : List Expression)
  | entry (start : Nat) (parts : List Expression)
  /-- The place of a part, or a range of places by the number of its colons. -/
  | subscript (of : Operand) (colons : Nat) (places : List Expression)
  /-- Arguments after those in `before`. `named` says whether a named one came before. -/
  | arguments (callee : Callee) (named : Bool) (before : List Expression) (role : Role)

inductive Pending
  | negation (start : Nat)
  | both (left : Operand)
  | either (left : Operand)
  | binary (operator : Operator) (negated : Bool) (left : Operand)
  | condition (value : Operand)
  | alternative (value condition : Operand)
  /-- A minus, which binds more tightly than a call. -/
  | sign (start : Nat)
  /-- A test whose argument has no brackets. -/
  | argument (callee : Callee)
  | enclosure (e : Enclosure)

/-- What may follow an operand besides an operator. -/
inductive Tail
  /-- A field, a subscript or a call. -/
  | any
  /-- The same or another quoted text. -/
  | quoted
  /-- More of the name of a filter or a test, or arguments for it. -/
  | named (callee : Callee)
  | nothing

/-- What the next token is read as. -/
inductive Awaited
  | operand
  /-- The name or the number of a field. -/
  | fieldName (of : Operand)
  | filterName (of : Operand)
  /-- The name of a test, before which may stand a `not`. -/
  | testName (of : Operand)
  | negatedTestName (of : Operand)
  /-- The next part of the name of a filter or a test. -/
  | moreName (callee : Callee)
  /-- The second word of `not in`. -/
  | membership (left : Operand)
  | operator (e : Operand) (tail : Tail)

structure Reading where
  pending : List Pending
  awaited : Awaited

inductive Step
  | more (reading : Reading)
  /-- The expression has ended before the token. -/
  | done (e : Expression)

namespace Operand

/-- A quoted text with another one beside it, which make one text. -/
def beside (first : Operand) (second : String) : Operand :=
  match first.e with
  | .written (.text t) line => ⟨.written (.text (t ++ second)) line, line⟩
  | _ => first

end Operand

namespace Callee

def apply (arguments : List Expression) : Callee → Operand
  | call of => ⟨.call of.e arguments, of.start⟩
  | filter of name => ⟨.filter of.e name arguments, of.start⟩
  | test of name negated =>
    let e := .test of.e name arguments
    ⟨if negated then .negation e of.start else e, of.start⟩

def extend (more : String) : Callee → Callee
  | call of => call of
  | filter of name => filter of (name ++ "." ++ more)
  | test of name negated => test of (name ++ "." ++ more) negated

def tail : Callee → Tail
  | call _ => .any
  | _ => .nothing

def isTest : Callee → Bool
  | test .. => true
  | _ => false

end Callee

/-! ## Depth -/

namespace Pending

/-- How much is open for a bracket: the expression in it, and the operand that it makes if it stands
where an operand does. -/
def depth : Pending → Nat
  | enclosure (.group ..) | enclosure (.list ..) | enclosure (.key ..) | enclosure (.entry ..) => 2
  | enclosure _ => 1
  | _ => 0

end Pending

namespace Place

/-- How much is open inside the brackets of `pending`. -/
def depth (place : Place) (pending : List Pending) : Nat :=
  place.nesting + (if place.form = .full then 1 else 0) +
    pending.foldl (fun sum p => sum + p.depth) 0

def isTooDeep (place : Place) (pending : List Pending) : Bool :=
  depthLimit < place.depth pending

def isOperandTooDeep (place : Place) (pending : List Pending) : Bool :=
  depthLimit ≤ place.depth pending

end Place

/-! ## Settling -/

namespace Pending

/-- The rank of a test whose argument has no brackets, above that of every operator. -/
def argumentRank : Nat := 9

def rank : Pending → Nat
  | sign _ => 10
  | argument _ => argumentRank
  | binary operator _ _ => operator.rank
  | negation _ => 3
  | both _ => 2
  | either _ => 1
  | condition _ | alternative .. | enclosure _ => 0

def apply (e : Operand) : Pending → Operand
  | negation start => ⟨.negation e.e start, start⟩
  | both left => ⟨.both left.e e.e left.start, left.start⟩
  | either left => ⟨.either left.e e.e left.start, left.start⟩
  | binary operator negated left =>
    let found := .binary operator left.e e.e left.start
    ⟨if negated then .negation found left.start else found, left.start⟩
  | condition value => ⟨.only value.e e.e, value.start⟩
  | alternative value test => ⟨.choice value.e test.e e.e, value.start⟩
  | sign start => ⟨.opposite e.e start, start⟩
  | argument callee => callee.apply [e.e]
  | enclosure _ => e

def isSign : Pending → Bool
  | sign _ => true
  | _ => false

def isEnclosure : Pending → Bool
  | enclosure _ => true
  | _ => false

/-- Whether something waits for an operand that `not` may begin. -/
def negatable : Pending → Bool
  | binary .. | sign _ | argument _ => false
  | _ => true

/-- Whether an expression has to come after it, so that nothing else is looked for. -/
def insists : Pending → Bool
  | enclosure (.entry ..) | enclosure (.arguments _ _ _ .spread)
  | enclosure (.arguments _ _ _ .named) => true
  | _ => false

/-- Settles the innermost operators that `binds` holds for. -/
def settle (binds : Pending → Bool) (e : Operand) : List Pending → Operand × List Pending
  | [] => (e, [])
  | p :: outer => if binds p then settle binds (p.apply e) outer else (e, p :: outer)

def settleFrom (rank : Nat) : Operand → List Pending → Operand × List Pending :=
  settle fun p => rank ≤ p.rank

def settleAll : Operand → List Pending → Operand × List Pending :=
  settle fun p => !p.isEnclosure

end Pending

open Pending

def awaitOperand (pending : List Pending) : Except Nat Step :=
  .ok (.more ⟨pending, .operand⟩)

def awaitOperator (pending : List Pending) (e : Operand) (tail : Tail) : Except Nat Step :=
  .ok (.more ⟨pending, .operator e tail⟩)

def awaitArguments (pending : List Pending) (callee : Callee) : Except Nat Step :=
  awaitOperator pending (callee.apply []) (.named callee)

/-! ## Where an operand is awaited -/

/-- Reads a token as an operand or the beginning of one. -/
def readPrimary (place : Place) (last : Nat) (pending : List Pending) (t : Located) :
    Except Nat Step :=
  if place.isOperandTooDeep pending then .error last
  else
    let whole (e : Expression) (tail : Tail) := awaitOperator pending ⟨e, t.line⟩ tail
    let inside (bracket : Enclosure) := awaitOperand (.enclosure bracket :: pending)
    match t.token with
    | .word text => whole (.ofWord text t.line) .any
    | .quoted text _ => whole (.written (.text text) t.line) .quoted
    | .integer n => whole (.written (.integer n) t.line) .any
    | .decimal => whole (.written .unknown t.line) .any
    | .opening .round => inside (.group t.line none)
    | .opening .square => inside (.list t.line [])
    | .opening .curly => inside (.key t.line [])
    | _ => .error t.line

/-- Reads a token as an operand or a sign before one. -/
def readSigned (place : Place) (last : Nat) (pending : List Pending) (t : Located) :
    Except Nat Step :=
  if pending.head?.all Pending.isEnclosure && place.isTooDeep pending then .error last
  else match t.token with
    | .minus => awaitOperand (.sign t.line :: pending)
    | .word "not" =>
      if pending.head?.all Pending.negatable then awaitOperand (.negation t.line :: pending)
      else readPrimary place last pending t
    | _ => readPrimary place last pending t

/-- Reads a token where an operand is awaited, or what may stand in a bracket in place of one. A
bracket may end when empty or after a comma. -/
def readOperand (place : Place) (last : Nat) (pending : List Pending) (t : Located) :
    Except Nat Step :=
  match t.token, pending with
  | .closing .round, .enclosure (.group start row) :: outer =>
    awaitOperator outer ⟨.list (row.getD []) start, start⟩ .any
  | .closing .square, .enclosure (.list start items) :: outer =>
    awaitOperator outer ⟨.list items start, start⟩ .any
  | .closing .curly, .enclosure (.key start parts) :: outer =>
    awaitOperator outer ⟨.map parts start, start⟩ .any
  | .closing .square, .enclosure (.subscript of (_ + 1) places) :: outer =>
    awaitOperator outer ⟨.slice of.e places, of.start⟩ .any
  | .closing .round, .enclosure (.arguments callee _ before .plain) :: outer =>
    awaitOperator outer (callee.apply before) callee.tail
  | .colon, .enclosure (.subscript of 0 places) :: outer =>
    awaitOperand (.enclosure (.subscript of 1 places) :: outer)
  | .colon, .enclosure (.subscript of 1 places) :: outer =>
    awaitOperand (.enclosure (.subscript of 2 places) :: outer)
  | .star, .enclosure (.arguments callee named before .plain) :: outer =>
    awaitOperand (.enclosure (.arguments callee named before .spread) :: outer)
  | .doubleStar, .enclosure (.arguments callee _ before .plain) :: outer =>
    awaitOperand (.enclosure (.arguments callee true before .spread) :: outer)
  | _, _ => readSigned place last pending t

/-! ## Where an operator is awaited -/

def beginsArgument : Token → Bool
  | .word text => text ∉ ["and", "or", "else", "is"]
  | .quoted .. | .integer _ | .decimal | .plus | .minus | .opening .square | .opening .curly => true
  | _ => false

def readArgumentEnd (last : Nat) (callee : Callee) (named : Bool) (before : List Expression)
    (role : Role) (outer : List Pending) (e : Expression) (t : Located) : Except Nat Step :=
  match e, role, t.token with
  | .name .., .plain, .equals =>
    awaitOperand (.enclosure (.arguments callee true before .named) :: outer)
  | _, _, _ =>
    -- After a named argument every plain one is a mistake, wherever it ends.
    if (role = .plain && named) || argumentLimit ≤ before.length then .error last
    else match t.token with
      | .comma =>
        awaitOperand (.enclosure (.arguments callee named (before ++ [e]) .plain) :: outer)
      | .closing .round => awaitOperator outer (callee.apply (before ++ [e])) callee.tail
      | _ => .error t.line

/-- Reads a token after a whole expression inside a bracket, or after all of it. -/
def readEnd (last : Nat) (pending : List Pending) (e : Operand) (t : Located) :
    Except Nat Step :=
  match settleAll e pending with
  | (⟨e, _⟩, .enclosure bracket :: outer) =>
    match bracket, t.token with
    | .group start none, .closing .round => awaitOperator outer ⟨e, start⟩ .any
    | .group start (some items), .closing .round =>
      awaitOperator outer ⟨.list (items ++ [e]) start, start⟩ .any
    | .group start row, .comma =>
      awaitOperand (.enclosure (.group start (some (row.getD [] ++ [e]))) :: outer)
    | .list start items, .closing .square =>
      awaitOperator outer ⟨.list (items ++ [e]) start, start⟩ .any
    | .list start items, .comma => awaitOperand (.enclosure (.list start (items ++ [e])) :: outer)
    | .key start parts, .colon => awaitOperand (.enclosure (.entry start (parts ++ [e])) :: outer)
    | .entry start parts, .comma => awaitOperand (.enclosure (.key start (parts ++ [e])) :: outer)
    | .entry start parts, .closing .curly =>
      awaitOperator outer ⟨.map (parts ++ [e]) start, start⟩ .any
    | .subscript of 0 _, .closing .square => awaitOperator outer ⟨.item of.e e, of.start⟩ .any
    | .subscript of _ places, .closing .square =>
      awaitOperator outer ⟨.slice of.e (places ++ [e]), of.start⟩ .any
    | .subscript of 0 places, .colon =>
      awaitOperand (.enclosure (.subscript of 1 (places ++ [e])) :: outer)
    | .subscript of 1 places, .colon =>
      awaitOperand (.enclosure (.subscript of 2 (places ++ [e])) :: outer)
    | .arguments callee named before role, _ =>
      readArgumentEnd last callee named before role outer e t
    | _, _ => .error t.line
  | (e, _) => .ok (.done e.e)

/-- Reads a token as an operator after the expression `e`. Between the filters of a statement there
are none. -/
def readOperator (place : Place) (last : Nat) (pending : List Pending) (e : Operand)
    (t : Located) : Except Nat Step :=
  if place.form = .filters && pending.isEmpty && t.token != .bar then .ok (.done e.e)
  else match t.token with
  | .bar =>
    let (e, outer) := settleFrom argumentRank e pending
    .ok (.more ⟨outer, .filterName e⟩)
  | .word "is" =>
    let (e, outer) := settleFrom argumentRank e pending
    .ok (.more ⟨outer, .testName e⟩)
  | .word "not" =>
    let (left, outer) := settleFrom Operator.member.rank e pending
    .ok (.more ⟨outer, .membership left⟩)
  | .word "and" =>
    let (left, outer) := settleFrom 2 e pending
    awaitOperand (.both left :: outer)
  | .word "or" =>
    let (left, outer) := settleFrom 1 e pending
    awaitOperand (.either left :: outer)
  | .word "if" =>
    match settleFrom 1 e pending with
    | (e, .condition value :: outer) =>
      awaitOperand (.condition ⟨.only value.e e.e, value.start⟩ :: outer)
    | (e, []) => if place.form = .full then awaitOperand [.condition e] else .ok (.done e.e)
    | (e, outer) => awaitOperand (.condition e :: outer)
  | .word "else" =>
    match settleFrom 1 e pending with
    | (e, .condition value :: outer) => awaitOperand (.alternative value e :: outer)
    | _ => readEnd last pending e t
  | token =>
    match token.operator? with
    | some operator =>
      let (left, outer) := settleFrom operator.rank e pending
      awaitOperand (.binary operator false left :: outer)
    | none => readEnd last pending e t

/-- Reads a token after the operand `e` and the signs before it. -/
def readTail (place : Place) (last : Nat) (pending : List Pending) (e : Operand) (tail : Tail)
    (t : Located) : Except Nat Step :=
  let (whole, outer) := settle Pending.isSign e pending
  match tail, t.token with
  | .quoted, .quoted text _ => awaitOperator pending (e.beside text) .quoted
  | .any, .dot | .quoted, .dot => .ok (.more ⟨outer, .fieldName whole⟩)
  | .any, .opening .square | .quoted, .opening .square =>
    awaitOperand (.enclosure (.subscript whole 0 []) :: outer)
  | .any, .opening .round | .quoted, .opening .round =>
    awaitOperand (.enclosure (.arguments (.call whole) false [] .plain) :: outer)
  | .named callee, .dot => .ok (.more ⟨outer, .moreName callee⟩)
  | .named callee, .opening .round =>
    awaitOperand (.enclosure (.arguments callee false [] .plain) :: outer)
  | .named callee, token =>
    if callee.isTest && beginsArgument token then
      readSigned place last (.argument callee :: outer) t
    else readOperator place last outer whole t
  | _, _ => readOperator place last outer whole t

/-! ## All tokens -/

namespace Reading

def start : Reading := ⟨[], .operand⟩

/-- Reads the name of a filter first, on a line. What is filtered is not known. -/
def startFilters (line : Nat) : Reading := ⟨[], .filterName ⟨.written .unknown line, line⟩⟩

/-- Reads one token. `last` is the line of the last thing read. -/
def step (place : Place) (last : Nat) (r : Reading) (t : Located) : Except Nat Step :=
  match r.awaited, t.token with
  | .operand, _ => readOperand place last r.pending t
  | .fieldName of, .word name => awaitOperator r.pending ⟨.field of.e name, of.start⟩ .any
  | .fieldName of, .integer n =>
    awaitOperator r.pending ⟨.item of.e (.written (.integer n) t.line), of.start⟩ .any
  | .filterName of, .word name => awaitArguments r.pending (.filter of name)
  | .testName of, .word "not" => .ok (.more ⟨r.pending, .negatedTestName of⟩)
  | .testName of, .word name => awaitArguments r.pending (.test of name false)
  | .negatedTestName of, .word name => awaitArguments r.pending (.test of name true)
  | .moreName callee, .word name => awaitArguments r.pending (callee.extend name)
  | .membership left, .word "in" => awaitOperand (.binary .member true left :: r.pending)
  | .operator e tail, _ => readTail place last r.pending e tail t
  | _, _ => .error t.line

end Reading

/-- Reads the end of the tokens. Where it is no token that ends them, that is the mistake. -/
def Reading.finish (place : Place) (r : Reading) (last : Nat) (stop : Stop) :
    Except Nat Expression :=
  match r.awaited, stop with
  | .operand, .closed line =>
    .error (if place.isOperandTooDeep r.pending then last else line)
  | .operand, .foreign line =>
    .error (if r.pending.head?.all Pending.insists && place.isTooDeep r.pending then last else line)
  | .operator _ _, .foreign line => .error line
  | .operator e _, stop =>
    match settleAll e r.pending with
    | (e, []) => .ok e.e
    | _ => .error (stop.line last)
  | _, stop => .error (stop.line last)

def readExpression (place : Place) (r : Reading) (last : Nat) (stop : Stop) :
    List Located → Except Nat (Expression × Remainder)
  | [] => (r.finish place last stop).map (·, ⟨last, [], stop⟩)
  | t :: rest =>
    match r.step place last t with
    | .error line => .error line
    | .ok (.done e) => .ok (e, ⟨last, t :: rest, stop⟩)
    | .ok (.more r) => readExpression place r t.line stop rest

def Remainder.expression (r : Remainder) (place : Place) : Except Nat (Expression × Remainder) :=
  readExpression place .start r.last r.stop r.tokens

theorem length_readExpression {place : Place} {r : Reading} {last : Nat} {stop : Stop}
    {tokens : List Located} {e : Expression} {after : Remainder}
    (h : readExpression place r last stop tokens = .ok (e, after)) :
    after.tokens.length ≤ tokens.length := by
  induction tokens generalizing r last with
  | nil =>
    unfold readExpression at h
    cases hf : r.finish place last stop with
    | error => simp [hf, Except.map] at h
    | ok =>
      simp only [hf, Except.map, Except.ok.injEq, Prod.mk.injEq] at h
      simp [← h.2]
  | cons t rest ih =>
    unfold readExpression at h
    split at h
    · simp at h
    · simp only [Except.ok.injEq, Prod.mk.injEq] at h
      simp [← h.2]
    · exact Nat.le_succ_of_le (ih h)

end ShaderWeave.Marks
