import ShaderWeave.Marks.Token

/-!
# Reading a tag token by token

What is left of a tag is read from its start. Where a token cannot stand, its line is reported;
where the tokens end too early, the line of what ends them.
-/

namespace ShaderWeave.Marks

/-- The line to report when tokens end too early; `last` is the line of the last thing read. -/
def Stop.line (last : Nat) : Stop → Nat
  | closed line | foreign line => line
  | unclosed => last

/-- What is left of a tag after a part of it is read. -/
structure Remainder where
  /-- The line of the last thing read. -/
  last : Nat
  tokens : List Located
  stop : Stop

namespace Remainder

def next (r : Remainder) : Except Nat (Located × Remainder) :=
  match r.tokens with
  | [] => .error (r.stop.line r.last)
  | t :: rest => .ok (t, ⟨t.line, rest, r.stop⟩)

def expect (r : Remainder) (token : Token) : Except Nat Remainder :=
  match r.next with
  | .error line => .error line
  | .ok (t, r) => if t.token = token then .ok r else .error t.line

def skip? (r : Remainder) (token : Token) : Option Remainder := (r.expect token).toOption

def skip (r : Remainder) (token : Token) : Remainder := (r.skip? token).getD r

def word (r : Remainder) : Except Nat (String × Remainder) :=
  match r.next with
  | .error line => .error line
  | .ok (⟨.word text, _⟩, r) => .ok (text, r)
  | .ok (t, _) => .error t.line

/-- The line to report for a mistake in what has been read, once the next token is looked at. -/
def lastLine (r : Remainder) : Nat :=
  match r.tokens, r.stop with
  | [], .foreign line => line
  | _, _ => r.last

def nextLine (r : Remainder) : Nat :=
  match r.tokens with
  | t :: _ => t.line
  | [] => r.last

/-- The end of the tag: the line of its closing mark. -/
def finish (r : Remainder) : Except Nat Nat :=
  match r.tokens, r.stop with
  | t :: _, _ => .error t.line
  | [], .closed line => .ok line
  | [], stop => .error (stop.line r.last)

theorem length_next {r after : Remainder} {t : Located} (h : r.next = .ok (t, after)) :
    after.tokens.length < r.tokens.length := by
  unfold next at h
  split at h
  · simp at h
  · rename_i heq
    simp only [Except.ok.injEq, Prod.mk.injEq] at h
    simp [heq, ← h.2]

theorem length_expect {r after : Remainder} {token : Token} (h : r.expect token = .ok after) :
    after.tokens.length < r.tokens.length := by
  unfold expect at h
  split at h
  · simp at h
  · rename_i heq
    split at h
    · simp only [Except.ok.injEq] at h
      exact h ▸ length_next heq
    · simp at h

theorem length_skip {r after : Remainder} {token : Token} (h : r.skip? token = some after) :
    after.tokens.length < r.tokens.length := by
  unfold skip? at h
  cases he : r.expect token with
  | error => simp [he, Except.toOption] at h
  | ok =>
    simp only [he, Except.toOption, Option.some.injEq] at h
    exact h ▸ length_expect he

end Remainder

end ShaderWeave.Marks
