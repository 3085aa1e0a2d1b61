import ShaderWeave.Marks.Remainder

/-!
# Names that are set

A statement sets a name, or several names at once from the items of a value. Where a part of a value
may be set too, its name follows that of the value after a dot.
-/

namespace ShaderWeave.Marks

inductive Target
  | name (text : String)
  | field (of : Target) (name : String)
  | row (targets : List Target)

def reservedNames : List String :=
  ["true", "True", "false", "False", "none", "None", "loop", "self"]

def readTarget (r : Remainder) : Except Nat (String × Remainder) :=
  match r.word with
  | .error line => .error line
  | .ok (text, r) => if reservedNames.contains text then .error r.last else .ok (text, r)

/-! ## Rows -/

structure TargetRow where
  /-- The last one first. -/
  targets : List Target
  /-- Whether a comma has come, so that even a single one is a row. -/
  isRow : Bool

/-- What has just been read of a row. -/
inductive TargetRow.Met
  /-- Nothing or a comma, so that a target is awaited. -/
  | start
  /-- A name, which a field may follow. -/
  | name
  /-- A dot, so that the name of a field is awaited. -/
  | dot
  | group
  deriving DecidableEq

namespace TargetRow

def empty : TargetRow := ⟨[], false⟩

def add (row : TargetRow) (target : Target) : TargetRow :=
  { row with targets := target :: row.targets }

/-- Goes into a field of the last target. -/
def intoField (row : TargetRow) (name : String) : TargetRow :=
  { row with targets := row.targets.modifyHead fun target => .field target name }

def close (row : TargetRow) : Target :=
  match row with
  | ⟨[target], false⟩ => target
  | row => .row row.targets.reverse

end TargetRow

/-- Reads targets after those in `row`, with commas between them and brackets around some; `outer`
has the rows around the open brackets, the innermost first. With `dotted` there may be fields. What
is left begins with the first token that does not belong to them. -/
def readTargets (dotted : Bool) (outer : List TargetRow) (row : TargetRow) (met : TargetRow.Met)
    (last : Nat) (stop : Stop) : List Located → Except Nat (Target × Remainder)
  | [] =>
    if outer.isEmpty && met != .dot then .ok (row.close, ⟨last, [], stop⟩)
    else .error (stop.line last)
  | t :: rest =>
    match t.token, met, outer with
    | .comma, .name, _ | .comma, .group, _ =>
      readTargets dotted outer { row with isRow := true } .start t.line stop rest
    | .opening .round, .start, _ =>
      readTargets dotted (row :: outer) .empty .start t.line stop rest
    | .dot, .name, _ =>
      if dotted then readTargets dotted outer row .dot t.line stop rest
      else if outer.isEmpty then .ok (row.close, ⟨last, t :: rest, stop⟩)
      else .error t.line
    | .word name, .dot, _ =>
      readTargets dotted outer (row.intoField name) .name t.line stop rest
    | _, .dot, _ => .error t.line
    | .closing .round, .start, [] | .word "in", .start, [] | _, .name, [] | _, .group, [] =>
      .ok (row.close, ⟨last, t :: rest, stop⟩)
    | .closing .round, _, up :: outer =>
      readTargets dotted outer (up.add row.close) .group t.line stop rest
    | .word "in", .start, _ => .error t.line
    | .word text, .start, _ =>
      if reservedNames.contains text then .error t.line
      else readTargets dotted outer (row.add (.name text)) .name t.line stop rest
    | _, _, _ => .error t.line

def Remainder.targets (r : Remainder) (dotted : Bool) : Except Nat (Target × Remainder) :=
  readTargets dotted [] .empty .start r.last r.stop r.tokens

/-- Reads one name that is set, or several in brackets. -/
def readTargetGroup (r : Remainder) : Except Nat (Target × Remainder) :=
  match r.skip? (.opening .round) with
  | none => (readTarget r).map fun (name, r) => (.name name, r)
  | some r => do
    let (target, r) ← r.targets false
    return (target, ← r.expect (.closing .round))

theorem length_readTarget {r after : Remainder} {name : String}
    (h : readTarget r = .ok (name, after)) : after.tokens.length < r.tokens.length := by
  unfold readTarget Remainder.word at h
  split at h
  · simp at h
  · rename_i heq
    split at h
    · simp at h
    · simp only [Except.ok.injEq, Prod.mk.injEq] at h
      split at heq
      · simp at heq
      · rename_i hn
        simp only [Except.ok.injEq, Prod.mk.injEq] at heq
        exact h.2 ▸ heq.2 ▸ Remainder.length_next hn
      · simp at heq

theorem length_readTargets {dotted : Bool} {outer : List TargetRow} {row : TargetRow}
    {met : TargetRow.Met} {last : Nat} {stop : Stop} {tokens : List Located} {target : Target}
    {after : Remainder}
    (h : readTargets dotted outer row met last stop tokens = .ok (target, after)) :
    after.tokens.length ≤ tokens.length := by
  induction tokens generalizing outer row met last with
  | nil =>
    unfold readTargets at h
    split at h
    · cases h
      exact Nat.le_refl _
    · cases h
  | cons t rest ih =>
    unfold readTargets at h
    split at h
    · exact Nat.le_succ_of_le (ih h)
    · exact Nat.le_succ_of_le (ih h)
    · exact Nat.le_succ_of_le (ih h)
    · split at h
      · exact Nat.le_succ_of_le (ih h)
      · split at h
        · cases h
          exact Nat.le_refl _
        · cases h
    · exact Nat.le_succ_of_le (ih h)
    · cases h
    · cases h
      exact Nat.le_refl _
    · cases h
      exact Nat.le_refl _
    · cases h
      exact Nat.le_refl _
    · cases h
      exact Nat.le_refl _
    · exact Nat.le_succ_of_le (ih h)
    · cases h
    · split at h
      · cases h
      · exact Nat.le_succ_of_le (ih h)
    · cases h

end ShaderWeave.Marks
