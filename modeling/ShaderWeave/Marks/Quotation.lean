import ShaderWeave.Marks.Numeral

/-!
# Quoted texts in a tag

A quoted text ends at the next mark of its own kind. A backslash in it begins an escape: for a
character that is hard to write, or for its number. Numbers beyond sixteen bits are written as two
halves, which have to stand together.
-/

namespace ShaderWeave.Marks

/-- The text up to a quotation mark, and the text after the mark. A backslash takes away the
meaning of the character after it. -/
def untilQuote? (mark : Char) : List Char → Option (List Char × List Char)
  | [] => none
  | ['\\'] => none
  | '\\' :: c :: rest => (untilQuote? mark rest).map fun (text, after) => ('\\' :: c :: text, after)
  | c :: rest =>
    if c = mark then some ([], rest)
    else (untilQuote? mark rest).map fun (text, after) => (c :: text, after)

theorem length_untilQuote {mark : Char} {text inner after : List Char}
    (h : untilQuote? mark text = some (inner, after)) : after.length < text.length := by
  induction text using untilQuote?.induct mark generalizing inner with
  | case1 => simp [untilQuote?] at h
  | case2 => simp [untilQuote?] at h
  | case3 c rest ih =>
    simp only [untilQuote?, Option.map_eq_some_iff, Prod.mk.injEq, Prod.exists] at h
    obtain ⟨t, a, h, -, rfl⟩ := h
    have := ih h
    simp only [List.length_cons]
    omega
  | case4 rest h1 h2 =>
    rw [untilQuote?] at h <;> simp_all
  | case5 c rest h1 h2 hc ih =>
    rw [untilQuote?] at h
    · simp only [hc, if_false, Option.map_eq_some_iff, Prod.mk.injEq, Prod.exists] at h
      obtain ⟨t, a, h, -, rfl⟩ := h
      have := ih h
      simp only [List.length_cons]
      omega
    · assumption
    · assumption

/-! ## Escapes -/

/-- The character that a letter after a backslash stands for, if it is one that says so. -/
def escapedChar? : Char → Option Char
  | '"' => some '"'
  | '\'' => some '\''
  | '\\' => some '\\'
  | '/' => some '/'
  | 'b' => some '\x08'
  | 'f' => some '\x0c'
  | 'n' => some '\n'
  | 'r' => some '\r'
  | 't' => some '\t'
  | _ => none

def isOctalDigit (c : Char) : Bool := '0' ≤ c && c ≤ '7'

def isHexDigit (c : Char) : Bool := c.isDigit || ('a' ≤ c && c ≤ 'f') || ('A' ≤ c && c ≤ 'F')

/-- The number that hexadecimal digits write. A plus may stand before them. -/
def hexNumber? (digits : List Char) : Option Nat :=
  let digits := match digits with
    | '+' :: rest => rest
    | digits => digits
  if digits.all isHexDigit then natOfDigits? 16 digits else none

/-- The number in the next `width` characters, which are hexadecimal digits, and the text after
them. -/
def hexEscape? (width : Nat) (text : List Char) : Option (Nat × List Char) :=
  let digits := text.take width
  if digits.length = width then (hexNumber? digits).map (·, text.drop width) else none

/-- What an escape stands for, by the text after its backslash: the numbers of its characters or of
half a character, and the text after the escape. A letter without a meaning keeps the backslash. -/
def escape? : List Char → Option (List Nat × List Char)
  | [] => none
  | 'u' :: rest => (hexEscape? 4 rest).map fun (n, after) => ([n], after)
  | 'x' :: rest => (hexEscape? 2 rest).map fun (n, after) => ([n], after)
  | c :: rest =>
    if isOctalDigit c then
      let digits := (rest.take 2).takeWhile isOctalDigit
      let n := (c :: digits).foldl (fun n c => 8 * n + digitValue c) 0
      if n < 256 then some ([n], rest.drop digits.length) else none
    else
      match escapedChar? c with
      | some d => some ([d.toNat], rest)
      | none => some (['\\'.toNat, c.toNat], rest)

theorem length_hexEscape {width n : Nat} {text after : List Char}
    (h : hexEscape? width text = some (n, after)) : after.length ≤ text.length := by
  unfold hexEscape? at h
  dsimp only at h
  split at h
  · simp only [Option.map_eq_some_iff, Prod.mk.injEq] at h
    obtain ⟨_, _, _, rfl⟩ := h
    simp
  · simp at h

theorem length_escape {text after : List Char} {found : List Nat}
    (h : escape? text = some (found, after)) : after.length < text.length := by
  unfold escape? at h
  split at h
  · simp at h
  · simp only [Option.map_eq_some_iff, Prod.mk.injEq, Prod.exists] at h
    obtain ⟨_, _, h, -, rfl⟩ := h
    exact Nat.lt_succ_of_le (length_hexEscape h)
  · simp only [Option.map_eq_some_iff, Prod.mk.injEq, Prod.exists] at h
    obtain ⟨_, _, h, -, rfl⟩ := h
    exact Nat.lt_succ_of_le (length_hexEscape h)
  · split at h
    · dsimp only at h
      split at h
      · simp only [Option.some.injEq, Prod.mk.injEq] at h
        simp only [← h.2, List.length_drop, List.length_cons]
        omega
      · simp at h
    · split at h <;>
      · simp only [Option.some.injEq, Prod.mk.injEq] at h
        simp [← h.2]

/-- The numbers of the characters of a quoted text, and of halves of characters. -/
def codes? : List Char → Option (List Nat)
  | [] => some []
  | c :: rest =>
    if c = '\\' then
      match h : escape? rest with
      | none => none
      | some (found, after) =>
        have := length_escape h
        (codes? after).map (found ++ ·)
    else (codes? rest).map (c.toNat :: ·)
termination_by text => text.length

def isFirstHalf (n : Nat) : Bool := 0xD800 ≤ n && n < 0xDC00

def isSecondHalf (n : Nat) : Bool := 0xDC00 ≤ n && n < 0xE000

/-- The characters with some numbers, if every half has its other half. -/
def joinHalves? : List Nat → Option (List Char)
  | [] => some []
  | [n] => if isFirstHalf n || isSecondHalf n then none else some [Char.ofNat n]
  | n :: m :: rest =>
    if isFirstHalf n then
      if isSecondHalf m then
        (joinHalves? rest).map (Char.ofNat (0x10000 + (n - 0xD800) * 0x400 + (m - 0xDC00)) :: ·)
      else none
    else if isSecondHalf n then none
    else (joinHalves? (m :: rest)).map (Char.ofNat n :: ·)

/-- The text that stands between quotation marks, if its escapes are sound. -/
def unescape? (text : List Char) : Option String :=
  ((codes? text).bind joinHalves?).map String.ofList

end ShaderWeave.Marks
