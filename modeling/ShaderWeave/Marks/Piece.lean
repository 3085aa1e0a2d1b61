import ShaderWeave.Marks.Token
import ShaderWeave.Text.Blank

/-!
# Pieces of a template

A template is cut into literal text and tags. A tag shows a value, or it is a block word such as the
start of a condition. Comments are dropped. Between the tags `raw` and `endraw` all is literal text.
A minus just inside a mark strips the white space of the literal text on its side.

Cutting never fails: what is wrong with a tag is kept with it, since the first mistake counts and
an earlier tag may hold it.
-/

namespace ShaderWeave.Marks

open Text

inductive Opening
  | tag (kind : TagKind)
  | comment
  deriving DecidableEq

inductive Piece
  | literal (text : String) (line : Nat)
  | tag (kind : TagKind) (line : Nat) (tokens : List Located) (stop : Stop)
  /-- A comment or a raw text without an end, which is missed at the end of the whole text. -/
  | unended (line : Nat)
  deriving DecidableEq

/-! ## Marks -/

/-- The opening mark that a text starts with, and the text after it. -/
def opening? : List Char → Option (Opening × List Char)
  | '{' :: '$' :: rest => some (.tag .block, rest)
  | '/' :: '*' :: '{' :: '{' :: rest => some (.tag .insert, rest)
  | '{' :: '#' :: rest => some (.comment, rest)
  | _ => none

/-- The sign after an opening mark: whether it strips the literal text before it, and the text
after the sign. A plus is a sign without effect. -/
def openingSign : List Char → Bool × List Char
  | '-' :: rest => (true, rest)
  | '+' :: rest => (false, rest)
  | rest => (false, rest)

/-- The literal text up to the next opening mark, with the mark and the text after it. -/
def untilOpening : List Char → List Char × Option (Opening × List Char)
  | [] => ([], none)
  | c :: rest =>
    match opening? (c :: rest) with
    | some found => ([], some found)
    | none =>
      let (text, found) := untilOpening rest
      (c :: text, found)

/-- The text of a comment up to its closing mark, and the text after the mark. -/
def untilCommentEnd? : List Char → Option (List Char × List Char)
  | [] => none
  | '#' :: '}' :: rest => some ([], rest)
  | c :: rest => (untilCommentEnd? rest).map fun (text, after) => (c :: text, after)

/-! ## Raw text -/

/-- The mark of a block tag that holds one word and no opening mark: whether the mark that closes it
strips, and the text after it. -/
def wordTag? (word : String) (s : List Char) : Option (Bool × List Char) :=
  let s := s.dropWhile isGap
  if word.toList.isPrefixOf s then
    closing? .block ((s.drop word.length).dropWhile isGap)
  else none

/-- Raw text up to its end: the text, whether the end strips it, whether the end strips the text
after it, and that text. -/
def untilRawEnd? : List Char → Option (List Char × Bool × Bool × List Char)
  | [] => none
  | c :: rest =>
    let found :=
      match opening? (c :: rest) with
      | some (.tag .block, inner) =>
        let (strips, inner) := openingSign inner
        (wordTag? "endraw" inner).map (strips, ·)
      | _ => none
    match found with
    | some (strips, found) => some ([], strips, found)
    | none => (untilRawEnd? rest).map fun (text, found) => (c :: text, found)

/-! ## Cutting -/

theorem length_opening {s rest : List Char} {o : Opening} (h : opening? s = some (o, rest)) :
    rest.length < s.length := by
  unfold opening? at h
  split at h
  case h_4 => simp at h
  all_goals
    obtain ⟨-, rfl⟩ := Prod.mk.inj (Option.some.inj h)
    simp only [List.length_cons]
    omega

theorem length_openingSign (s : List Char) : (openingSign s).2.length ≤ s.length := by
  unfold openingSign
  split <;> simp

theorem length_untilOpening {s text rest : List Char} {o : Opening}
    (h : untilOpening s = (text, some (o, rest))) : rest.length < s.length := by
  induction s generalizing text with
  | nil => simp [untilOpening] at h
  | cons c s ih =>
    unfold untilOpening at h
    split at h
    · rename_i found hf
      simp only [Prod.mk.injEq, Option.some.injEq] at h
      exact length_opening (h.2 ▸ hf)
    · simp only [Prod.mk.injEq] at h
      have := @ih (untilOpening s).1 (by rw [← h.2])
      simp only [List.length_cons]
      omega

theorem length_untilCommentEnd {s text rest : List Char}
    (h : untilCommentEnd? s = some (text, rest)) : rest.length < s.length := by
  induction s generalizing text with
  | nil => simp [untilCommentEnd?] at h
  | cons c s ih =>
    unfold untilCommentEnd? at h
    split at h
    · simp_all
    · rename_i heq
      simp only [Option.some.injEq, Prod.mk.injEq] at h
      simp only [List.cons.injEq] at heq
      rw [heq.2, ← h.2]
      simp only [List.length_cons]
      omega
    · rename_i heq
      simp only [List.cons.injEq] at heq
      simp only [Option.map_eq_some_iff, Prod.mk.injEq, Prod.exists] at h
      obtain ⟨_, _, h, -, rfl⟩ := h
      have := ih (heq.2 ▸ h)
      simp only [List.length_cons]
      omega

theorem length_wordTag {word : String} {s rest : List Char} {strips : Bool}
    (h : wordTag? word s = some (strips, rest)) : rest.length < s.length := by
  unfold wordTag? at h
  dsimp only at h
  split at h
  · have h1 := length_closing h
    have h2 := (List.dropWhile_sublist isGap (l := (s.dropWhile isGap).drop word.length)).length_le
    have h3 := (List.dropWhile_sublist isGap (l := s)).length_le
    simp only [List.length_drop] at h2
    omega
  · simp at h

theorem length_untilRawEnd {s text rest : List Char} {a b : Bool}
    (h : untilRawEnd? s = some (text, a, b, rest)) : rest.length < s.length := by
  induction s generalizing text with
  | nil => simp [untilRawEnd?] at h
  | cons c s ih =>
    unfold untilRawEnd? at h
    simp only at h
    split at h
    · rename_i found hf
      simp only [Option.some.injEq, Prod.mk.injEq] at h
      split at hf
      · rename_i inner ho
        simp only [Option.map_eq_some_iff, Prod.mk.injEq, Prod.exists] at hf
        obtain ⟨_, _, hw, -, rfl⟩ := hf
        have h1 := length_wordTag hw
        have h2 := length_openingSign inner
        have h3 := length_opening ho
        simp only [Prod.mk.injEq] at h
        rw [← h.2.2.2]
        omega
      · simp at hf
    · simp only [Option.map_eq_some_iff, Prod.mk.injEq, Prod.exists] at h
      obtain ⟨_, _, _, _, h, -, rfl, rfl, rfl⟩ := h
      exact Nat.lt_succ_of_lt (ih h)

/-- A literal piece, unless its text is empty. -/
def literalPiece (text : List Char) (line : Nat) : List Piece :=
  if text.isEmpty then [] else [.literal (String.ofList text) line]

/-- A text less the white space that the marks around it strip. -/
def strip (atStart atEnd : Bool) (text : List Char) : List Char :=
  let text := if atStart then dropBlankStart text else text
  if atEnd then dropBlankEnd text else text

/-- Cuts a text that starts on a line; `stripped` says whether the white space at its start goes. -/
def cut (line : Nat) (stripped : Bool) (s : List Char) : List Piece :=
  let s' := strip stripped false s
  let line := if stripped then lineAfter line (lineFeeds (s.takeWhile isBlank)) else line
  match h : untilOpening s' with
  | (text, none) => literalPiece text line
  | (text, some (opening, rest)) =>
    let markLine := lineAfter line (lineFeeds text)
    let body := openingSign rest
    have hbody : body.2.length < s.length := by
      have hs : s'.length ≤ s.length := by
        simp only [s', strip, Bool.false_eq_true, if_false]
        split
        · exact (List.dropWhile_sublist _).length_le
        · exact Nat.le_refl _
      have := length_untilOpening h
      have : body.2.length ≤ rest.length := length_openingSign rest
      omega
    let literal := literalPiece (strip false body.1 text) line
    match opening with
    | .comment =>
      match hc : untilCommentEnd? body.2 with
      | none => literal ++ [.unended (lineAfter markLine (lineFeeds body.2))]
      | some (comment, after) =>
        have := length_untilCommentEnd hc
        -- The last character is looked at after the sign at the start, so one minus does not count twice.
        literal ++
          cut (lineAfter markLine (lineFeeds comment)) (comment.getLast? == some '-') after
    | .tag kind =>
      match hr : if kind = .block then wordTag? "raw" body.2 else none with
      | some (strips, inner) =>
        have : inner.length < body.2.length := by
          split at hr
          · exact length_wordTag hr
          · simp at hr
        let line := lineAfter markLine (lineFeeds body.2 - lineFeeds inner)
        match he : untilRawEnd? inner with
        | none => literal ++ [.unended (lineAfter line (lineFeeds inner))]
        | some (text, stripsBefore, stripsAfter, after) =>
          have := length_untilRawEnd he
          literal ++ .literal (String.ofList (strip strips stripsBefore text)) line ::
            cut (lineAfter line (lineFeeds inner - lineFeeds after)) stripsAfter after
      | none =>
        let i := inside kind markLine 0 .none body.2
        have : (inside kind markLine 0 .none (openingSign rest).2).rest.length < s.length :=
          Nat.lt_of_le_of_lt (length_inside kind markLine 0 .none body.2) hbody
        literal ++ .tag kind markLine i.tokens i.stop :: cut i.line i.strips i.rest
termination_by s.length

def pieces (text : String) : List Piece := cut 1 false text.toList

end ShaderWeave.Marks
