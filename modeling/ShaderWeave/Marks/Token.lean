import ShaderWeave.Marks.Operator
import ShaderWeave.Marks.Quotation

/-!
# Tokens of a tag

A tag holds words, literals and signs up to its closing mark. A closing mark counts only where no
bracket is open, since a curly bracket could be taken for a part of it.
-/

namespace ShaderWeave.Marks

/-- The two kinds of tags: a place for a value, and a block word. -/
inductive TagKind
  | insert
  | block
  deriving DecidableEq

inductive Bracket
  | round
  | square
  | curly
  deriving DecidableEq

inductive Token
  | word (text : String)
  /-- A quoted text, which is `plain` without a backslash. -/
  | quoted (text : String) (plain : Bool)
  | integer (n : Nat)
  /-- A number with a fraction or an exponent. -/
  | decimal
  | opening (bracket : Bracket)
  | closing (bracket : Bracket)
  | dot
  | comma
  | colon
  | bar
  | equals
  | plus
  | minus
  | star
  | doubleStar
  /-- A sign that stands between two operands and nowhere else. -/
  | infixSign (operator : Operator)
  deriving DecidableEq

structure Located where
  token : Token
  line : Nat
  deriving DecidableEq

inductive Stop
  /-- With the closing mark. -/
  | closed (line : Nat)
  /-- With something that is no token. -/
  | foreign (line : Nat)
  /-- With the text. -/
  | unclosed
  deriving DecidableEq

def lineFeeds (text : List Char) : Nat := text.count '\n'

/-- The last line that is told from those before it. -/
def lineLimit : Nat := 65535

def lineAfter (line feeds : Nat) : Nat := min lineLimit (line + feeds)

/-- The closing mark that a text starts with: whether it strips the literal text after it, and the
text after the mark. -/
def closing? : TagKind → List Char → Option (Bool × List Char)
  | .insert, '-' :: '}' :: '}' :: '*' :: '/' :: rest => some (true, rest)
  | .insert, '+' :: '}' :: '}' :: '*' :: '/' :: rest => some (false, rest)
  | .insert, '}' :: '}' :: '*' :: '/' :: rest => some (false, rest)
  | .block, '-' :: '$' :: '}' :: rest => some (true, rest)
  | .block, '+' :: '$' :: '}' :: rest => some (false, rest)
  | .block, '$' :: '}' :: rest => some (false, rest)
  | _, _ => none

/-! ## One token -/

/-- A number, by its value if it is an integer. -/
def Token.ofNumber : Option Nat → Token
  | some n => integer n
  | none => decimal

/-- The white space between tokens. -/
def isGap (c : Char) : Bool :=
  c == ' ' || c == '\t' || c == '\n' || c == '\x0c' || c == '\r'

def isWordStart (c : Char) : Bool := c.isAlpha || c == '_'

def isWordChar (c : Char) : Bool := c.isAlphanum || c == '_'

def doubleSign? : Char → Char → Option Token
  | '/', '/' => some (.infixSign .divideWhole)
  | '=', '=' => some (.infixSign .equal)
  | '!', '=' => some (.infixSign .unequal)
  | '>', '=' => some (.infixSign .atLeast)
  | '<', '=' => some (.infixSign .atMost)
  | '*', '*' => some .doubleStar
  | _, _ => none

def singleSign? : Char → Option Token
  | '/' => some (.infixSign .divide)
  | '%' => some (.infixSign .remainder)
  | '~' => some (.infixSign .join)
  | '>' => some (.infixSign .greater)
  | '<' => some (.infixSign .less)
  | '*' => some .star
  | '+' => some .plus
  | '-' => some .minus
  | '.' => some .dot
  | ',' => some .comma
  | ':' => some .colon
  | '|' => some .bar
  | '=' => some .equals
  | '(' => some (.opening .round)
  | ')' => some (.closing .round)
  | '[' => some (.opening .square)
  | ']' => some (.closing .square)
  | '{' => some (.opening .curly)
  | '}' => some (.closing .curly)
  | _ => none

/-- The sign that a text starts with, and the text after it. Of two signs the longer one counts. -/
def sign? : List Char → Option (Token × List Char)
  | [] => none
  | [c] => (singleSign? c).map (·, [])
  | c :: d :: rest =>
    match doubleSign? c d with
    | some sign => some (sign, rest)
    | none => (singleSign? c).map (·, d :: rest)

/-- The token that a text starts with, the line feeds in it, and the text after it. A mistake is
told by the line feeds before its place. -/
def nextToken (text : List Char) : Except Nat (Token × Nat × List Char) :=
  match text with
  | [] => .error 0
  | c :: rest =>
    match sign? (c :: rest) with
    | some (sign, after) => .ok (sign, 0, after)
    | none =>
      if c = '"' || c = '\'' then
        match untilQuote? c rest with
        | some (inner, after) =>
          match unescape? inner with
          | some text => .ok (.quoted text (!inner.contains '\\'), lineFeeds inner, after)
          | none => .error 0
        -- The end of the quotation is missed only at the end of the whole text.
        | none => .error (lineFeeds rest)
      else if c.isDigit then
        match number? (c :: rest) with
        | some (value, after) => .ok (.ofNumber value, 0, after)
        | none => .error 0
      else if isWordStart c then
        .ok (.word (String.ofList (c :: rest.takeWhile isWordChar)), 0, rest.dropWhile isWordChar)
      else .error 0

theorem length_sign {text after : List Char} {t : Token} (h : sign? text = some (t, after)) :
    after.length < text.length := by
  unfold sign? at h
  split at h
  · simp at h
  · simp only [Option.map_eq_some_iff, Prod.mk.injEq] at h
    obtain ⟨_, _, _, rfl⟩ := h
    simp
  · split at h
    · simp only [Option.some.injEq, Prod.mk.injEq] at h
      simp only [List.length_cons, ← h.2]
      omega
    · simp only [Option.map_eq_some_iff, Prod.mk.injEq] at h
      obtain ⟨_, _, _, rfl⟩ := h
      simp

theorem length_nextToken {text after : List Char} {t : Token} {n : Nat}
    (h : nextToken text = .ok (t, n, after)) : after.length < text.length := by
  unfold nextToken at h
  split at h
  · simp at h
  · split at h
    · rename_i heq
      simp only [Except.ok.injEq, Prod.mk.injEq] at h
      exact length_sign (h.2.2 ▸ heq)
    · split at h
      · split at h
        · rename_i heq
          split at h
          · simp only [Except.ok.injEq, Prod.mk.injEq] at h
            have := length_untilQuote heq
            simp only [List.length_cons, ← h.2.2]
            omega
          · simp at h
        · simp at h
      · split at h
        · split at h
          · rename_i hd _ _ _ heq
            simp only [Except.ok.injEq, Prod.mk.injEq] at h
            exact h.2.2 ▸ length_number hd heq
          · simp at h
        · split at h
          · simp only [Except.ok.injEq, Prod.mk.injEq] at h
            simp only [List.length_cons, ← h.2.2]
            exact Nat.lt_succ_of_le (List.dropWhile_sublist isWordChar).length_le
          · simp at h

/-! ## The tokens of a tag -/

/-- The quoted texts side by side at the end of some tokens. -/
inductive Quotes
  | none
  /-- A single one without a backslash. -/
  | plain
  /-- Several, or one with a backslash. -/
  | composed
  deriving DecidableEq

namespace Token

def opens : Token → Int
  | opening _ => 1
  | closing _ => -1
  | _ => 0

def operator? : Token → Option Operator
  | infixSign operator => some operator
  | plus => some .add
  | minus => some .subtract
  | star => some .multiply
  | doubleStar => some .power
  | word "in" => some .member
  | _ => none

/-- The quoted texts side by side up to a token, after those before it. -/
def quotes (before : Quotes) : Token → Quotes
  | quoted _ plain => if plain && before = .none then .plain else .composed
  | _ => .none

end Token

structure Inside where
  tokens : List Located
  stop : Stop
  /-- Whether the closing mark strips the literal text after it. -/
  strips : Bool
  /-- The text after the closing mark and the line on which it starts. -/
  rest : List Char
  line : Nat

theorem length_closing {k : TagKind} {s rest : List Char} {b : Bool}
    (h : closing? k s = some (b, rest)) : rest.length < s.length := by
  unfold closing? at h
  split at h <;> simp_all <;> omega

/-- Reads the inside of a tag from a line on, with `brackets` open brackets and `quotes` before the
text. -/
def inside (kind : TagKind) (line : Nat) (brackets : Int) (quotes : Quotes) (text : List Char) :
    Inside :=
  match text with
  | [] => ⟨[], .unclosed, false, [], line⟩
  | c :: rest =>
    if isGap c then inside kind (lineAfter line (lineFeeds [c])) brackets quotes rest
    else
      match if brackets = 0 then closing? kind (c :: rest) else none with
      | some (strips, after) => ⟨[], .closed line, strips, after, line⟩
      | none =>
        match h : nextToken (c :: rest) with
        | .error feeds =>
          -- A second quoted text is looked for beside a plain one, so all but a token is taken for the end.
          let stop := if quotes = .plain then .unclosed else .foreign (lineAfter line feeds)
          ⟨[], stop, false, [], line⟩
        | .ok (token, feeds, after) =>
          have : after.length ≤ rest.length := Nat.le_of_lt_succ (length_nextToken h)
          let i :=
            inside kind (lineAfter line feeds) (brackets + token.opens) (token.quotes quotes) after
          { i with tokens := ⟨token, line⟩ :: i.tokens }
termination_by text.length

theorem length_inside (k : TagKind) (line : Nat) (brackets : Int) (quotes : Quotes)
    (s : List Char) : (inside k line brackets quotes s).rest.length ≤ s.length := by
  fun_induction inside k line brackets quotes s with
  | case1 => simp
  | case2 _ _ _ _ _ _ ih => exact Nat.le_succ_of_le ih
  | case3 _ _ _ _ _ _ _ _ h =>
    split at h
    · exact Nat.le_of_lt (length_closing h)
    · simp at h
  | case4 => simp
  | case5 _ _ _ _ _ _ _ _ _ _ h _ _ ih =>
    exact Nat.le_trans ih (Nat.le_of_lt (length_nextToken h))

end ShaderWeave.Marks
