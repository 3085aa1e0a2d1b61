import Mathlib.Data.List.Infix
import Mathlib.Data.String.Basic
import ShaderWeave.Marks.Engine

/-!
# Filling plain templates

A plain template has literal texts and markers in turn. The engine for marks reads it, puts every section
in the place of its marker and leaves the literal texts as they are. The base template is plain.
-/

namespace ShaderWeave.Marks

open Template

variable {text rest : List Char} {c : Char} {line last : Nat}

/-! ## Texts without opening marks -/

/-- No opening mark stands anywhere in the text. -/
def HasNoMark (text : List Char) : Prop := ∀ rest ∈ text.tails, opening? rest = none

instance (text : List Char) : Decidable (HasNoMark text) :=
  inferInstanceAs (Decidable (∀ rest ∈ text.tails, opening? rest = none))

theorem hasNoMark_cons : HasNoMark (c :: rest) ↔ opening? (c :: rest) = none ∧ HasNoMark rest := by
  simp [HasNoMark]

/-- Written-out texts are looked at by their characters. -/
theorem HasNoMark.ofList (h : HasNoMark text) : HasNoMark (String.ofList text).toList := by
  rwa [String.toList_ofList]

/-- The characters that a mark may go on with. -/
def continuesMark (c : Char) : Bool := c == '$' || c == '*' || c == '{' || c == '#'

/-- Text after a character that no mark goes on with does not make a mark before it whole. -/
theorem opening?_append {x : Char} (h : opening? (c :: text) = none) (hx : continuesMark x = false)
    (rest : List Char) : opening? (c :: (text ++ x :: rest)) = none := by
  simp [continuesMark] at hx
  unfold opening? at h ⊢
  -- A mark that is now whole is cut by the start of `text`, wherever that ends.
  split
  · cases text <;> simp_all
  · rcases text with _ | ⟨d, _ | ⟨e, _ | ⟨f, more⟩⟩⟩ <;> simp_all
  · cases text <;> simp_all
  · rfl

theorem untilOpening_of_hasNoMark (h : HasNoMark text) : untilOpening text = (text, none) := by
  induction text with
  | nil => rfl
  | cons c rest ih =>
    obtain ⟨hc, hrest⟩ := hasNoMark_cons.mp h
    rw [untilOpening, hc, ih hrest]

theorem untilOpening_append_mark (h : HasNoMark text) (rest : List Char) :
    untilOpening (text ++ '/' :: '*' :: '{' :: '{' :: rest) =
      (text, some (.tag .insert, rest)) := by
  induction text with
  | nil => rfl
  | cons c text ih =>
    obtain ⟨hc, htext⟩ := hasNoMark_cons.mp h
    rw [List.cons_append, untilOpening, opening?_append hc rfl, ih htext]

/-! ## Words -/

theorem ne_of_isUpper {d : Char} (h : c.isUpper) (hd : d.isUpper = false) : c ≠ d := by
  rintro rfl
  simp [h] at hd

theorem singleSign?_of_isUpper (h : c.isUpper) : singleSign? c = none := by
  unfold singleSign?
  split <;> first | rfl | exact absurd h (by decide)

theorem doubleSign?_of_isUpper (h : c.isUpper) (d : Char) : doubleSign? c d = none := by
  unfold doubleSign?
  split <;> first | rfl | exact absurd h (by decide)

theorem sign?_of_isUpper (h : c.isUpper) (rest : List Char) : sign? (c :: rest) = none := by
  cases rest with
  | nil => simp [sign?, singleSign?_of_isUpper h]
  | cons d rest => simp [sign?, singleSign?_of_isUpper h, doubleSign?_of_isUpper h]

theorem isDigit_of_isUpper (h : c.isUpper) : c.isDigit = false := by
  have hupper : c.val ≥ 'A'.val ∧ c.val ≤ 'Z'.val := of_decide_eq_true h
  simp only [Char.isDigit, UInt32.le_iff_toNat_le, ge_iff_le, Bool.and_eq_false_iff,
    decide_eq_false_iff_not] at hupper ⊢
  simp at hupper ⊢
  omega

theorem nextToken_word (hc : c.isUpper) (hrest : ∀ x ∈ text, isWordChar x) (rest : List Char) :
    nextToken (c :: (text ++ '}' :: rest)) =
      .ok (.word (String.ofList (c :: text)), 0, '}' :: rest) := by
  have hquote : ¬ (c = '"' ∨ c = '\'') :=
    not_or.mpr ⟨ne_of_isUpper hc rfl, ne_of_isUpper hc rfl⟩
  have halpha : c.isAlpha = (c.isUpper || c.isLower) := rfl
  have hstart : isWordStart c = true := by simp [isWordStart, halpha, hc]
  have htake : (text ++ '}' :: rest).takeWhile isWordChar = text := by
    rw [List.takeWhile_append_of_pos hrest, List.takeWhile_cons_of_neg (by decide), List.append_nil]
  have hdrop : (text ++ '}' :: rest).dropWhile isWordChar = '}' :: rest := by
    rw [List.dropWhile_append_of_pos hrest, List.dropWhile_cons_of_neg (by decide)]
  simp [nextToken, sign?_of_isUpper hc, hquote, isDigit_of_isUpper hc, hstart, htake, hdrop]

theorem inside_word (hc : c.isUpper) (hrest : ∀ x ∈ text, isWordChar x) (line : Nat)
    (rest : List Char) :
    inside .insert line 0 .none (c :: (text ++ '}' :: '}' :: '*' :: '/' :: rest)) =
      ⟨[⟨.word (String.ofList (c :: text)), line⟩], .closed (lineAfter line 0), false, rest,
        lineAfter line 0⟩ := by
  have hgap : isGap c = false := by
    have h (d : Char) (hd : d.isUpper = false) : (c == d) = false := by
      simpa using ne_of_isUpper hc hd
    simp [isGap, h ' ' rfl, h '\t' rfl, h '\n' rfl, h '\x0c' rfl, h '\r' rfl]
  have hclosing : closing? .insert (c :: (text ++ '}' :: '}' :: '*' :: '/' :: rest)) = none := by
    unfold closing?
    split <;> simp_all
  have hend : inside .insert (lineAfter line 0) 0 .none ('}' :: '}' :: '*' :: '/' :: rest) =
      ⟨[], .closed (lineAfter line 0), false, rest, lineAfter line 0⟩ := by
    rw [inside]
    simp [closing?, isGap]
  rw [inside]
  simp only [hgap, Bool.false_eq_true, if_false, if_true, hclosing]
  split
  · next h => simp [nextToken_word hc hrest] at h
  · next h =>
    rw [nextToken_word hc hrest] at h
    simp only [Except.ok.injEq, Prod.mk.injEq] at h
    obtain ⟨rfl, rfl, rfl⟩ := h
    simp only [Token.opens, Token.quotes, Int.add_zero, hend]

/-! ## Markers -/

theorem name_eq_ofList (m : Marker) : ∃ c text, m.name = String.ofList (c :: text) ∧ c.isUpper ∧
    ∀ x ∈ text, isWordChar x := by
  simp only [← List.all_eq_true]
  cases m <;> exact ⟨_, _, rfl, by decide, by decide⟩

theorem toList_source (m : Marker) : m.source.toList =
    '/' :: '*' :: '{' :: '{' :: (m.name.toList ++ '}' :: '}' :: '*' :: '/' :: []) := by
  simp [Marker.source]

theorem inside_marker (m : Marker) (line : Nat) (rest : List Char) :
    inside .insert line 0 .none (m.name.toList ++ '}' :: '}' :: '*' :: '/' :: rest) =
      ⟨[⟨.word m.name, line⟩], .closed (lineAfter line 0), false, rest, lineAfter line 0⟩ := by
  obtain ⟨c, text, hname, hc, htext⟩ := name_eq_ofList m
  rw [hname, String.toList_ofList]
  exact inside_word hc htext line rest

theorem openingSign_marker (m : Marker) (rest : List Char) :
    openingSign (m.name.toList ++ rest) = (false, m.name.toList ++ rest) := by
  obtain ⟨c, text, hname, hc, htext⟩ := name_eq_ofList m
  rw [hname, String.toList_ofList]
  unfold openingSign
  split
  · next h => simp_all
  · next h => simp_all
  · rfl

theorem cut_of_hasNoMark (h : HasNoMark text) (line : Nat) :
    cut line false text = literalPiece text line := by
  rw [cut]
  split
  · next text' heq =>
    obtain rfl : text = text' := by
      simpa [strip, untilOpening_of_hasNoMark h] using heq
    rfl
  · next heq => simp [strip, untilOpening_of_hasNoMark h] at heq

theorem cut_append_marker (h : HasNoMark text) (m : Marker) (line : Nat) (rest : List Char) :
    ∃ start stop, cut line false (text ++ (m.source.toList ++ rest)) =
      literalPiece text line ++
        .tag .insert start [⟨.word m.name, start⟩] (.closed stop) :: cut stop false rest := by
  have huntil := untilOpening_append_mark h (m.name.toList ++ '}' :: '}' :: '*' :: '/' :: rest)
  have hs : text ++ (m.source.toList ++ rest) =
      text ++ '/' :: '*' :: '{' :: '{' :: (m.name.toList ++ '}' :: '}' :: '*' :: '/' :: rest) := by
    simp [toList_source]
  refine ⟨lineAfter line (lineFeeds text), lineAfter (lineAfter line (lineFeeds text)) 0, ?_⟩
  rw [hs, cut]
  split
  · next heq => simp [strip, huntil] at heq
  · next text' opening inner heq =>
    simp only [strip, Bool.false_eq_true, if_false, huntil, Prod.mk.injEq, Option.some.injEq] at heq
    obtain ⟨rfl, rfl, rfl⟩ := heq
    dsimp only
    split
    · next hraw => simp at hraw
    · simp only [Bool.false_eq_true, if_false, openingSign_marker, inside_marker, strip]

/-! ## The tree of a plain template -/

/-- The node for a literal text, unless it is empty. -/
def literalNodes (text : List Char) : List Node :=
  if text.isEmpty then [] else [.literal (String.ofList text)]

theorem readNodes_literalPiece (p : Progress) (last : Nat) (text : List Char) (line : Nat)
    (rest : List Piece) : ∃ last', readNodes p last (literalPiece text line ++ rest) =
      readNodes { p with nodes := p.nodes ++ literalNodes text } last' rest := by
  unfold literalPiece literalNodes
  split
  · exact ⟨last, by simp⟩
  · exact ⟨line, rfl⟩

theorem readExpression_marker (m : Marker) (line last start : Nat) :
    readExpression ⟨0, .full⟩ .start last (.closed line) [⟨.word m.name, start⟩] =
      .ok (.name m.name start, ⟨start, [], .closed line⟩) := by
  cases m <;> rfl

theorem readNodes_marker {p : Progress} (hp : p.frames = []) (m : Marker) (last start stop : Nat)
    (rest : List Piece) :
    readNodes p last (.tag .insert start [⟨.word m.name, start⟩] (.closed stop) :: rest) =
      readNodes (p.add (.insert (.name m.name start))) stop rest := by
  rw [readNodes, hp, List.length_nil, readExpression_marker]
  rfl

/-! ## Filling -/

variable {sections : Sections} {s : Scope} {nodes more : List Node} {filled filledMore : String}

theorem fillAll_cons {node : Node} (h : node.fill s = .ok (filled, s))
    (hmore : fillAll s more = .ok (filledMore, s)) :
    fillAll s (node :: more) = .ok (filled ++ filledMore, s) := by
  simp [fillAll, h, hmore, bind, Except.bind, pure, Except.pure]

theorem fillAll_literalNodes (text : List Char) (hmore : fillAll s more = .ok (filledMore, s)) :
    fillAll s (literalNodes text ++ more) = .ok (String.ofList text ++ filledMore, s) := by
  unfold literalNodes
  split
  · simp_all
  · exact fillAll_cons (by simp [Node.fill]) hmore

theorem fill_marker (sections : Sections) (m : Marker) (line : Nat) :
    Node.fill (.ofTexts sections.get?) (.insert (.name m.name line)) =
      .ok (sections m, .ofTexts sections.get?) := by
  have hlookup : (Scope.ofTexts sections.get?).lookup m.name = .text (sections m) := by
    simp [Scope.lookup, Scope.ofTexts, Sections.get?, Marker.ofName?_name]
  simp [Node.fill, Expression.text, Expression.eval, hlookup, Expression.demand, Expression.insist,
    Value.text?, bind, Except.bind, Except.map]

/-! ## Plain templates -/

/-- Literal texts without opening marks and markers in turn, a literal text first and last. -/
inductive Plain : List Segment → Prop
  | last {text : String} (h : HasNoMark text.toList) : Plain [.literal text]
  | step {text : String} {segments : List Segment} (m : Marker) (h : HasNoMark text.toList)
      (rest : Plain segments) : Plain (.literal text :: .marker m :: segments)

theorem readNodes_plain {segments : List Segment} (h : Plain segments) (p : Progress)
    (hp : p.frames = []) (last line : Nat) :
    ∃ nodes, readNodes p last (cut line false (Segment.join segments).toList) =
        .ok (p.nodes ++ nodes) ∧
      ∀ sections : Sections, fillAll (.ofTexts sections.get?) nodes =
        .ok (Segment.joinFilled sections segments, .ofTexts sections.get?) := by
  induction h generalizing p last line with
  | @last text h =>
    have hjoin : (Segment.join [.literal text]).toList = text.toList := by
      simp [Segment.join, Segment.source, String.join]
    obtain ⟨last', hread⟩ := readNodes_literalPiece p last text.toList line []
    refine ⟨literalNodes text.toList, ?_, ?_⟩
    · rw [hjoin, cut_of_hasNoMark h, ← List.append_nil (literalPiece _ _), hread]
      simp [readNodes, hp]
    · intro sections
      have hnone : fillAll (.ofTexts sections.get?) [] = .ok ("", .ofTexts sections.get?) := rfl
      have hfill := fillAll_literalNodes text.toList hnone
      simpa [Segment.joinFilled, Segment.fill, String.join] using hfill
  | @step text segments m h hrest ih =>
    have hjoin : (Segment.join (.literal text :: .marker m :: segments)).toList =
        text.toList ++ (m.source.toList ++ (Segment.join segments).toList) := by
      simp [Segment.join, Segment.source]
    obtain ⟨start, stop, hcut⟩ := cut_append_marker h m line (Segment.join segments).toList
    obtain ⟨last', hread⟩ := readNodes_literalPiece p last text.toList line
      (.tag .insert start [⟨.word m.name, start⟩] (.closed stop) ::
        cut stop false (Segment.join segments).toList)
    have hp' : { p with nodes := p.nodes ++ literalNodes text.toList }.frames = [] := hp
    rw [readNodes_marker hp'] at hread
    obtain ⟨nodes, hnodes, hfill⟩ :=
      ih (Progress.add { p with nodes := p.nodes ++ literalNodes text.toList }
        (.insert (.name m.name start))) hp' stop stop
    refine ⟨literalNodes text.toList ++ .insert (.name m.name start) :: nodes, ?_, ?_⟩
    · rw [hjoin, hcut, hread, hnodes]
      simp [Progress.add]
    · intro sections
      have hrest := fillAll_cons (fill_marker sections m start) (hfill sections)
      simpa [Segment.joinFilled, Segment.fill] using fillAll_literalNodes text.toList hrest

/-- A plain template parses to nodes that put every section in the place of its marker. -/
theorem parse_plain {segments : List Segment} (h : Plain segments) :
    ∃ nodes, parse (Segment.join segments) = .ok nodes ∧
      ∀ sections : Sections, fillAll (.ofTexts sections.get?) nodes =
        .ok (Segment.joinFilled sections segments, .ofTexts sections.get?) := by
  obtain ⟨nodes, hread, hfill⟩ := readNodes_plain h ⟨[], [], []⟩ rfl 1 1
  refine ⟨nodes, ?_, hfill⟩
  rw [parse, pieces, hread]
  rfl

theorem render_plain {segments : List Segment} (h : Plain segments) (sections : Sections) :
    engine.render (Segment.join segments) sections = .ok (Segment.joinFilled sections segments) := by
  obtain ⟨nodes, hparse, hfill⟩ := parse_plain h
  simp [engine, hparse, hfill, Except.map]

/-! ## The base template -/

theorem hasNoMark_append_lineFeed (h : HasNoMark text) (hrest : HasNoMark rest) :
    HasNoMark (text ++ '\n' :: rest) := by
  induction text with
  | nil => exact hasNoMark_cons.mpr ⟨rfl, hrest⟩
  | cons c text ih =>
    obtain ⟨hc, htext⟩ := hasNoMark_cons.mp h
    exact hasNoMark_cons.mpr ⟨opening?_append hc rfl rest, ih htext⟩

theorem hasNoMark_unlines (ls : List String) (h : ∀ l ∈ ls, HasNoMark l.toList) :
    HasNoMark (Text.unlines ls).toList := by
  induction ls with
  | nil => simp [Text.unlines, HasNoMark, opening?]
  | cons l ls ih =>
    have hl := h l List.mem_cons_self
    have hls := ih fun l' hl' => h l' (List.mem_cons_of_mem l hl')
    cases ls with
    | nil => simpa [Text.unlines] using hl
    | cons l' ls =>
      rw [Text.toList_unlines_cons (List.cons_ne_nil l' ls)]
      exact hasNoMark_append_lineFeed hl hls

theorem plain_baseSegments : Plain baseSegments := by
  unfold baseSegments
  repeat' first | apply Plain.last | apply Plain.step
  all_goals
    apply hasNoMark_unlines
    simp only [List.forall_mem_cons]
    and_intros
  all_goals
    first
    | exact HasNoMark.ofList (by decide +kernel)
    | simp

theorem fillsBase : engine.FillsBase := by
  intro sections
  rw [baseText]
  exact render_plain plain_baseSegments sections

end ShaderWeave.Marks
