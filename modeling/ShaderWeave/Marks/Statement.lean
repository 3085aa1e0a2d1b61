import ShaderWeave.Marks.Expression.Reader
import ShaderWeave.Marks.Target

/-!
# Statements

A block tag begins with the word of a statement. What the rest of the tag says is kept where the
statement can be filled without other templates and without calls; of the others only the
expressions are kept that are worked out first.
-/

namespace ShaderWeave.Marks

/-- What a loop runs over, and which items it leaves out. -/
structure LoopHead where
  target : Target
  series : Expression
  condition : Option Expression

inductive Block
  | loop (head : LoopHead)
  /-- Names that are set for the block only. -/
  | scope (bindings : List (Target × Expression))
  /-- A name that is set to the text of the block, as it is or as the filters leave it. -/
  | capture (target : Target) (filters : Option Expression)
  /-- A block in which special characters are written in the way that a value says. -/
  | escaping (way : Expression)
  /-- A block with filters for its text. -/
  | filtering (filters : Expression)
  /-- A part that other templates may replace, and with `required` have to: it is blank then. -/
  | part (name : String) (required : Bool)
  | definition (name : String)
  | caller (call : Expression)

def Block.ending : Block → String
  | loop _ => "endfor"
  | scope _ => "endwith"
  | capture .. => "endset"
  | escaping _ => "endautoescape"
  | filtering _ => "endfilter"
  | part .. => "endblock"
  | definition _ => "endmacro"
  | caller _ => "endcall"

/-- What the first tag of a statement says. -/
inductive Statement
  | condition (test : Expression)
  | block (block : Block)
  | set (target : Target) (value : Expression)
  /-- A statement in one tag that cannot be filled, with the expressions in it. -/
  | single (heads : List Expression)

/-! ## Parts of statements -/

def readCall (nesting : Nat) (r : Remainder) : Except Nat (Expression × Remainder) :=
  match r.expression ⟨nesting, .full⟩ with
  | .error line => .error line
  | .ok (.call of arguments, r) => .ok (.call of arguments, r)
  | .ok (_, r) => .error r.last

/-- Reads the filters of a statement, of which there has to be one. -/
def readFilters (nesting : Nat) (r : Remainder) : Except Nat (Expression × Remainder) :=
  match r.tokens, r.stop with
  | [], .closed _ => .error r.last
  | tokens, stop => readExpression ⟨nesting, .filters⟩ (.startFilters r.last) r.last stop tokens

def readAssigned (nesting : Nat) (r : Remainder) : Except Nat (Expression × Remainder) := do
  let r ← r.expect .equals
  r.expression ⟨nesting, .full⟩

theorem length_readTargetGroup {r after : Remainder} {target : Target}
    (h : readTargetGroup r = .ok (target, after)) : after.tokens.length < r.tokens.length := by
  unfold readTargetGroup at h
  split at h
  · cases ht : readTarget r with
    | error => rw [ht] at h; cases h
    | ok found =>
      rw [ht] at h
      cases h
      exact length_readTarget ht
  · rename_i inner hs
    have h1 := Remainder.length_skip hs
    cases ht : inner.targets false with
    | error => rw [ht] at h; cases h
    | ok found =>
      have h2 := length_readTargets ht
      cases he : found.2.expect (.closing .round) with
      | error =>
        change (inner.targets false >>= _) = _ at h
        rw [ht] at h
        change (found.2.expect _ >>= _) = _ at h
        rw [he] at h
        cases h
      | ok left =>
        change (inner.targets false >>= _) = _ at h
        rw [ht] at h
        change (found.2.expect _ >>= _) = _ at h
        rw [he] at h
        cases h
        have h3 := Remainder.length_expect he
        omega

theorem length_readAssigned {nesting : Nat} {r after : Remainder} {e : Expression}
    (h : readAssigned nesting r = .ok (e, after)) : after.tokens.length < r.tokens.length := by
  unfold readAssigned at h
  cases he : r.expect .equals with
  | error => rw [he] at h; cases h
  | ok value =>
    rw [he] at h
    have h1 := Remainder.length_expect he
    have h2 := length_readExpression (h : value.expression ⟨nesting, .full⟩ = .ok (e, after))
    omega

/-- Reads names and their values, with commas between them, up to the end of the tag. -/
def readBindings (nesting : Nat) (r : Remainder) :
    Except Nat (List (Target × Expression) × Remainder) :=
  match ht : readTargetGroup r with
  | .error line => .error line
  | .ok (target, r') =>
    match ha : readAssigned nesting r' with
    | .error line => .error line
    | .ok (value, after) =>
      if after.tokens.isEmpty then .ok ([(target, value)], after)
      else
        match hc : after.expect .comma with
        | .error line => .error line
        | .ok more =>
          have := length_readTargetGroup ht
          have := length_readAssigned ha
          have := Remainder.length_expect hc
          (readBindings nesting more).map fun (bindings, r) => ((target, value) :: bindings, r)
termination_by r.tokens.length

/-- Reads values after those in `before`, with commas between them, and one after the last if need
be. Where a comma comes they make a list, which starts on the line `start`. -/
def readRow (nesting start : Nat) (before : List Expression) (r : Remainder) :
    Except Nat (Expression × Remainder) :=
  match hx : r.expression ⟨nesting, .full⟩ with
  | .error line => .error line
  | .ok (e, after) =>
    match hc : after.skip? .comma with
    | none => .ok (if before.isEmpty then e else .list (before ++ [e]) start, after)
    | some more =>
      have := length_readExpression hx
      have := Remainder.length_skip hc
      if more.tokens.isEmpty then .ok (.list (before ++ [e]) start, more)
      else readRow nesting start (before ++ [e]) more
termination_by r.tokens.length

/-- Reads parameters up to their closing bracket, with commas between them. `due` says whether one
has just ended. After one with a value for want of an argument (`valued`) all have to have one. -/
def readParameters (nesting : Nat) (valued due : Bool) (r : Remainder) : Except Nat Remainder :=
  match hn : r.next with
  | .error line => .error line
  | .ok (t, rest) =>
    have := Remainder.length_next hn
    match t.token, due with
    | .closing .round, _ => .ok rest
    | .comma, true => readParameters nesting valued false rest
    | _, true => .error t.line
    | _, false =>
      match ht : readTarget r with
      | .error line => .error line
      | .ok (_, name) =>
        have := length_readTarget ht
        if valued || (name.skip? .equals).isSome then
          match ha : readAssigned nesting name with
          | .error line => .error line
          | .ok (_, after) =>
            have := length_readAssigned ha
            readParameters nesting true true after
        else readParameters nesting false true name
termination_by r.tokens.length

/-- Reads a note on the context of another template, and says whether there is one. -/
def readContext (r : Remainder) : Except Nat (Bool × Remainder) :=
  match r.skip? (.word "with") <|> r.skip? (.word "without") with
  | some r => (r.expect (.word "context")).map (true, ·)
  | none => .ok (false, r)

def endsImports (r : Remainder) : Bool :=
  match r.tokens with
  | [] | ⟨.word "with", _⟩ :: _ | ⟨.word "without", _⟩ :: _ => true
  | _ => false

/-- Reads one name that is imported, with another one that stands for it. -/
def readImport (r : Remainder) : Except Nat Remainder :=
  match readTarget r with
  | .error line => .error line
  | .ok (_, r) =>
    match r.skip? (.word "as") with
    | none => .ok r
    | some r => (readTarget r).map (·.2)

theorem length_readImport {r after : Remainder} (h : readImport r = .ok after) :
    after.tokens.length < r.tokens.length := by
  unfold readImport at h
  split at h
  · simp at h
  · rename_i ht
    have h1 := length_readTarget ht
    split at h
    · simp only [Except.ok.injEq] at h
      exact h ▸ h1
    · rename_i hs
      have h2 := Remainder.length_skip hs
      cases hr : readTarget _ with
      | error => rw [hr] at h; cases h
      | ok found =>
        rw [hr] at h
        cases h
        exact Nat.lt_trans (length_readTarget hr) (Nat.lt_trans h2 h1)

def readImports (r : Remainder) : Except Nat Remainder :=
  if endsImports r then .ok r
  else
    match hi : readImport r with
    | .error line => .error line
    | .ok after =>
      if endsImports after then .ok after
      else
        match hc : after.expect .comma with
        | .error line => .error line
        | .ok more =>
          have := length_readImport hi
          have := Remainder.length_expect hc
          readImports more
termination_by r.tokens.length

/-! ## Statements -/

structure Surroundings where
  /-- The number of open statements with this one. -/
  nesting : Nat
  /-- Whether it is in a definition or a call, where no part may be. -/
  inDefinition : Bool
  parts : List String

/-- Reads a statement after its word, up to what should be the end of its first tag. -/
def readStatement (around : Surroundings) (word : String) (r : Remainder) :
    Except Nat (Statement × Remainder) :=
  let nesting := around.nesting
  let full : Place := ⟨nesting, .full⟩
  let plain : Place := ⟨nesting, .plain⟩
  match word with
  | "if" => do
    let (test, r) ← r.expression plain
    return (.condition test, r)
  | "for" => do
    let (target, r) ← r.targets false
    let (series, r) ← (← r.expect (.word "in")).expression plain
    match r.skip? (.word "if") with
    | some r => do
      let (condition, r) ← r.expression full
      return (.block (.loop ⟨target, series, some condition⟩), r.skip (.word "recursive"))
    | none => return (.block (.loop ⟨target, series, none⟩), r.skip (.word "recursive"))
  | "with" =>
    if r.tokens.isEmpty then .ok (.block (.scope []), r)
    else (readBindings nesting r).map fun (bindings, r) => (.block (.scope bindings), r)
  | "set" => do
    let (target, r) ← r.targets true
    match r.skip? .bar with
    | some r => do
      let (filters, r) ← readFilters nesting r
      return (.block (.capture target (some filters)), r)
    | none =>
      if r.tokens.isEmpty then return (.block (.capture target none), r)
      else do
        let r ← r.expect .equals
        let (value, r) ← readRow nesting r.nextLine [] r
        return (.set target value, r)
  | "autoescape" => do
    let (way, r) ← r.expression full
    return (.block (.escaping way), r)
  | "filter" => do
    let (filters, r) ← readFilters nesting r
    return (.block (.filtering filters), r)
  | "block" => do
    if around.inDefinition then throw r.last
    let (name, r) ← r.word
    let r := r.skip (.word "scoped")
    let required := r.skip? (.word "required")
    let r := required.getD r
    if around.parts.contains name then throw r.lastLine
    return (.block (.part name required.isSome), r)
  | "extends" => do
    let (e, r) ← r.expression full
    return (.single [e], r)
  | "include" => do
    let (e, r) ← r.expression full
    let (noted, r) ← readContext r
    match r.skip? (.word "ignore") with
    | none => return (.single [e], r)
    | some r => do
      let r ← r.expect (.word "missing")
      -- The context is noted once, before these words or after them.
      if noted then return (.single [e], r)
      else return (.single [e], (← readContext r).2)
  | "import" => do
    let (e, r) ← r.expression full
    let (_, r) ← (← r.expect (.word "as")).expression full
    return (.single [e], (← readContext r).2)
  | "from" => do
    let (e, r) ← r.expression full
    let r ← readImports (← r.expect (.word "import"))
    return (.single [e], (← readContext r).2)
  | "macro" => do
    let (name, r) ← r.word
    let r ← readParameters nesting false false (← r.expect (.opening .round))
    return (.block (.definition name), r)
  | "call" => do
    let r ← match r.skip? (.opening .round) with
      | some r => readParameters nesting false false r
      | none => pure r
    let (call, r) ← readCall nesting r
    return (.block (.caller call), r)
  | "do" => do
    let (call, r) ← readCall nesting r
    return (.single [call], r)
  | _ => .error r.last

end ShaderWeave.Marks
