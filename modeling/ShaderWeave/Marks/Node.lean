import ShaderWeave.Marks.Piece
import ShaderWeave.Marks.Statement

/-!
# The tree of a template

Pieces nest: the block words of a condition enclose what it chooses from. Reading the tree reports
the line of the first token or mark that cannot stand where it does; if the text ends too early, the
line of the last thing read.
-/

namespace ShaderWeave.Marks

inductive Node
  | literal (text : String)
  | insert (e : Expression)
  | branch (test : Expression) (yes no : List Node)
  | set (target : Target) (value : Expression)
  /-- A statement in one tag that cannot be filled, with the expressions in it. -/
  | single (heads : List Expression) (line : Nat)
  /-- A block from a line on, and what stands in for a loop without turns. -/
  | block (block : Block) (line : Nat) (body otherwise : List Node)

/-- Whether a node is white space only. -/
def Node.isBlank : Node → Bool
  | literal text => text.toList.all Text.isBlank
  | _ => false

/-! ## Nesting -/

inductive Content
  /-- A branch of a condition, after the branches before it with their tests. The branch of all
  other cases has no test. -/
  | branch (earlier : List (Expression × List Node)) (test : Option Expression)
  | block (block : Block)
  /-- What stands in for a loop without turns, after the body of the loop. -/
  | otherwise (head : LoopHead) (body : List Node)

/-- A statement whose end is still to come. -/
structure Frame where
  line : Nat
  /-- What stands before the statement. -/
  before : List Node
  content : Content

namespace Frame

def ending (f : Frame) : String :=
  match f.content with
  | .branch .. => "endif"
  | .block block => block.ending
  | .otherwise head _ => (Block.loop head).ending

def inDefinition (f : Frame) : Bool :=
  match f.content with
  | .block (.definition _) | .block (.caller _) => true
  | _ => false

/-- A condition of branches in order, and the nodes for when no test holds. -/
def chain (branches : List (Expression × List Node)) (otherwise : List Node) : List Node :=
  branches.foldr (fun (test, nodes) rest => [.branch test nodes rest]) otherwise

/-- Ends a statement after the nodes of its last block. -/
def close (f : Frame) (nodes : List Node) : List Node :=
  f.before ++ match f.content with
    | .branch earlier none => chain earlier nodes
    | .branch earlier (some test) => chain (earlier ++ [(test, nodes)]) []
    | .block block => [.block block f.line nodes []]
    | .otherwise head body => [.block (.loop head) f.line body nodes]

end Frame

structure Progress where
  /-- The open statements, the innermost first. -/
  frames : List Frame
  /-- The nodes after the first tag of the innermost one. -/
  nodes : List Node
  parts : List String

namespace Progress

def add (p : Progress) (node : Node) : Progress := { p with nodes := p.nodes ++ [node] }

def enter (p : Progress) (line : Nat) (content : Content) : Progress :=
  { p with frames := ⟨line, p.nodes, content⟩ :: p.frames, nodes := [] }

def turnTo (p : Progress) (content : Content) : Progress :=
  { p with frames := p.frames.modifyHead fun f => { f with content := content }, nodes := [] }

def isFull (p : Progress) : Bool := depthLimit ≤ p.frames.length

def surroundings (p : Progress) : Surroundings :=
  ⟨p.frames.length + 1, p.frames.any Frame.inDefinition, p.parts⟩

/-- Goes on after the first tag of a statement on a line. -/
def start (p : Progress) (line : Nat) : Statement → Progress
  | .condition test => p.enter line (.branch [] (some test))
  | .block (.part name required) =>
    { p.enter line (.block (.part name required)) with parts := name :: p.parts }
  | .block block => p.enter line (.block block)
  | .set target value => p.add (.set target value)
  | .single heads => p.add (.single heads line)

/-- Reads what may come after the word that ends a statement. After a part its name may stand once
more. -/
def readEnding (f : Frame) (nodes : List Node) (r : Remainder) : Except Nat Remainder :=
  match f.content with
  | .block (.part name required) =>
    if required && !nodes.all Node.isBlank then .error r.last
    else
      match r.word with
      | .ok (text, after) => if text = name then .ok after else .error r.last
      | .error _ => .ok r
  | _ => .ok r

/-- Reads a block tag after its first word; `markLine` is the line of its opening mark. The result
has the line of its closing mark. -/
def readBlockTag (p : Progress) (markLine : Nat) (word : String) (r : Remainder) :
    Except Nat (Progress × Nat) :=
  match word, p.frames.map Frame.content with
  | "else", .branch earlier (some test) :: _ => do
    return (p.turnTo (.branch (earlier ++ [(test, p.nodes)]) none), ← r.finish)
  | "elif", .branch earlier (some test) :: _ => do
    let (next, r) ← r.expression ⟨p.frames.length, .plain⟩
    return (p.turnTo (.branch (earlier ++ [(test, p.nodes)]) (some next)), ← r.finish)
  | "else", .block (.loop head) :: _ => do
    return (p.turnTo (.otherwise head p.nodes), ← r.finish)
  | _, _ =>
    match p.frames.head?.filter (·.ending == word) with
    | some frame => do
      let r ← readEnding frame p.nodes r
      return ({ p with frames := p.frames.tail, nodes := frame.close p.nodes }, ← r.finish)
    | none =>
      if p.isFull then .error markLine
      else do
        let (statement, after) ← readStatement p.surroundings word r
        return (p.start r.last statement, ← after.finish)

end Progress

def readNodes (p : Progress) (last : Nat) : List Piece → Except Nat (List Node)
  | [] => if p.frames.isEmpty then .ok p.nodes else .error last
  | .unended line :: _ => .error line
  | .literal text line :: rest => readNodes (p.add (.literal text)) line rest
  | .tag .insert line tokens stop :: rest =>
    match readExpression ⟨p.frames.length, .full⟩ .start line stop tokens with
    | .error e => .error e
    | .ok (e, r) =>
      match r.finish with
      | .error line => .error line
      | .ok last => readNodes (p.add (.insert e)) last rest
  | .tag .block line tokens stop :: rest =>
    match tokens, stop with
    | ⟨.word word, wordLine⟩ :: tokens, stop =>
      match p.readBlockTag line word ⟨wordLine, tokens, stop⟩ with
      | .error line => .error line
      | .ok (p, last) => readNodes p last rest
    | ⟨_, wrong⟩ :: _, _ | [], .closed wrong => .error (if p.isFull then line else wrong)
    | [], stop => .error (stop.line line)

def parse (text : String) : Except TemplateError (List Node) :=
  match readNodes ⟨[], [], []⟩ 1 (pieces text) with
  | .ok nodes => .ok nodes
  | .error line => .error (.syntaxError line)

end ShaderWeave.Marks
