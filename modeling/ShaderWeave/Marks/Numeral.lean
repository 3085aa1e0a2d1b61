/-!
# Numbers in a tag

A number is an integer, in base ten or with a letter for another base, or it has a fraction or an
exponent. Of the latter nothing but the form is kept.
-/

namespace ShaderWeave.Marks

/-- How far a number is read. -/
inductive NumberPart
  | whole
  | fraction
  /-- After the letter of the exponent. -/
  | exponentSign
  | exponent
  /-- After a leading zero and the letter of a radix. -/
  | inRadix (radix : Nat)
  deriving DecidableEq

namespace NumberPart

/-- Whether a dot before a text belongs to a number. It does unless the name of a field follows it,
which the letter of an exponent with its digits is not. -/
def beginsFraction : List Char → Bool
  | 'e' :: c :: _ | 'E' :: c :: _ => c.isDigit || c == '+' || c == '-'
  | c :: _ => !(c.isAlpha || c == '_')
  | [] => true

/-- Where a number stands after one more character, if it goes on; `rest` is the text after the
character. Underscores may stand between digits. -/
def next? (part : NumberPart) (c : Char) (rest : List Char) : Option NumberPart :=
  match part, c with
  | part, '_' => some part
  | whole, '.' => if beginsFraction rest then some fraction else none
  | whole, 'e' | whole, 'E' | fraction, 'e' | fraction, 'E' => some exponentSign
  | exponentSign, '+' | exponentSign, '-' => some exponent
  | exponentSign, c => if c.isDigit then some exponent else none
  | inRadix 16, c =>
    if c.isDigit || ('a' ≤ c && c ≤ 'f') || ('A' ≤ c && c ≤ 'F') then some part else none
  | part, c => if c.isDigit then some part else none

end NumberPart

/-- The characters of a number, the part in which it ends, and the text after it. -/
def numberRun (part : NumberPart) : List Char → List Char × NumberPart × List Char
  | [] => ([], part, [])
  | c :: rest =>
    match part.next? c rest with
    | none => ([], part, c :: rest)
    | some part =>
      let found := numberRun part rest
      (c :: found.1, found.2)

def digitValue (c : Char) : Nat :=
  if c.isDigit then c.toNat - '0'.toNat
  else if 'a' ≤ c && c ≤ 'f' then c.toNat - 'a'.toNat + 10
  else c.toNat - 'A'.toNat + 10

/-- The first number that does not fit 128 bits. -/
def numberLimit : Nat := 0x100000000000000000000000000000000

/-- The number that the digits of a radix write, if there are any and it fits 128 bits. -/
def natOfDigits? (radix : Nat) (digits : List Char) : Option Nat :=
  let n := digits.foldl (fun n c => radix * n + digitValue c) 0
  if digits.isEmpty || digits.any (radix ≤ digitValue ·) || numberLimit ≤ n then none else some n

def radix? : Char → Option Nat
  | 'b' | 'B' => some 2
  | 'o' | 'O' => some 8
  | 'x' | 'X' => some 16
  | _ => none

/-- The integer that the characters of a run write, or nothing for a number with a fraction or an
exponent. The outer `none` says that they write no number. -/
def numberValue? (run : List Char) (part : NumberPart) : Option (Option Nat) :=
  let digits := run.filter (· != '_')
  if run.getLast? = some '_' then none
  else match part with
    | .whole => (natOfDigits? 10 digits).map some
    | .inRadix radix => (natOfDigits? radix digits).map some
    | _ => if digits.getLast?.any (fun c => c.isDigit || c == '.') then some none else none

/-- The number that a text starts with, by its value if it is an integer, and the text after it. -/
def number? (text : List Char) : Option (Option Nat × List Char) :=
  let found :=
    match text with
    | '0' :: c :: rest =>
      match radix? c with
      | some radix => numberRun (.inRadix radix) rest
      | none => numberRun .whole text
    | _ => numberRun .whole text
  (numberValue? found.1 found.2.1).map (·, found.2.2)

theorem length_numberRun (part : NumberPart) (text : List Char) :
    (numberRun part text).2.2.length ≤ text.length := by
  induction text generalizing part with
  | nil => simp [numberRun]
  | cons c rest ih =>
    unfold numberRun
    split
    · simp
    · have := ih (by assumption)
      simp only [List.length_cons]
      omega

theorem length_numberRun_digit {c : Char} (h : c.isDigit = true) (text : List Char) :
    (numberRun .whole (c :: text)).2.2.length < (c :: text).length := by
  have hc : NumberPart.whole.next? c text = some .whole := by
    unfold NumberPart.next?
    split <;> simp_all [Char.isDigit]
  simp only [numberRun, hc]
  have := length_numberRun .whole text
  simp only [List.length_cons]
  omega

theorem length_number {c : Char} {text after : List Char} {v : Option Nat}
    (hc : c.isDigit = true) (h : number? (c :: text) = some (v, after)) :
    after.length < (c :: text).length := by
  unfold number? at h
  simp only [Option.map_eq_some_iff, Prod.mk.injEq] at h
  obtain ⟨_, _, _, rfl⟩ := h
  split
  · rename_i heq
    split
    · rename_i radix _
      have := length_numberRun (.inRadix radix) (by assumption)
      simp only [heq, List.length_cons]
      omega
    · exact length_numberRun_digit hc text
  · exact length_numberRun_digit hc text

end ShaderWeave.Marks
