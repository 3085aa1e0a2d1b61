import Mathlib.Data.List.Basic
import ShaderWeave.Text.Blank
import ShaderWeave.Text.Lines

/-!
# Rows and lines

The rows of a text are what stands between its line feeds. The lines are the rows without a carriage return
just before the feed, and the last row is a line only if there is anything in it. Empty lines left out, the
lines of texts joined by line feeds are the lines of one text after the other, unless a text stops at a
carriage return, which would go with the feed after it.
-/

namespace ShaderWeave.Text

variable {c : Char} {cs ds row line : List Char} {rs : List (List Char)}

/-! ## The lines rule -/

def rows (cs : List Char) : List (List Char) := cs.splitOn '\n'

/-- A row without a carriage return at its end. -/
def chomp (row : List Char) : List Char := if row.getLast? = some '\r' then row.dropLast else row

/-- The lines that rows make, with a line feed after each row but the last. -/
def linesOfRows : List (List Char) → List (List Char)
  | [] => []
  | [last] => if last = [] then [] else [last]
  | row :: next :: rs => chomp row :: linesOfRows (next :: rs)

@[simp]
theorem rows_nil : rows [] = [[]] := rfl

theorem rows_ne_nil (cs : List Char) : rows cs ≠ [] := List.splitOn_ne_nil _ _

@[simp]
theorem rows_lineFeed (cs : List Char) : rows ('\n' :: cs) = [] :: rows cs := by
  simp [rows, List.splitOn_cons_eq_if_modifyHead]

theorem rows_cons (h : c ≠ '\n') (cs : List Char) : rows (c :: cs) = (rows cs).modifyHead (c :: ·) := by
  simp [rows, List.splitOn_cons_eq_if_modifyHead, h]

theorem rows_append (cs ds : List Char) : rows (cs ++ '\n' :: ds) = rows cs ++ rows ds :=
  List.splitOn_append_cons_self cs ds

theorem chomp_cons (h : row ≠ []) : chomp (c :: row) = c :: chomp row := by
  obtain ⟨d, rest, rfl⟩ := List.exists_cons_of_ne_nil h
  unfold chomp
  rw [List.getLast?_cons_cons, List.dropLast_cons_cons]
  split <;> rfl

theorem linesOfRows_modifyHead (h : c = '\r' → ∀ rs', rs = [] :: rs' → rs' = []) (hrs : rs ≠ []) :
    linesOfRows (rs.modifyHead (c :: ·)) =
      match linesOfRows rs with
      | [] => [[c]]
      | line :: more => (c :: line) :: more := by
  match rs with
  | [last] => by_cases hlast : last = [] <;> simp [linesOfRows, hlast]
  | row :: next :: rs =>
    rw [List.modifyHead_cons, linesOfRows, linesOfRows]
    by_cases hrow : row = []
    · subst hrow
      have hc : c ≠ '\r' := fun hc => by simpa using h hc _ rfl
      simp [chomp, hc]
    · rw [chomp_cons hrow]

theorem exists_lineFeed_of_rows (h : rows cs = [] :: rs) (hrs : rs ≠ []) : ∃ ds, cs = '\n' :: ds := by
  cases cs with
  | nil => simp [rows_nil, Ne.symm hrs] at h
  | cons c ds =>
    by_cases hc : c = '\n'
    · exact ⟨ds, by rw [hc]⟩
    · obtain ⟨row, rs', hrows⟩ := List.exists_cons_of_ne_nil (rows_ne_nil ds)
      simp [rows_cons hc, hrows] at h

/-- The lines rule, said of the rows of a text. -/
theorem lines_eq (cs : List Char) : lines cs = linesOfRows (rows cs) := by
  have hother {c : Char} {rest : List Char} (hc : c = '\n' → False)
      (hr : ∀ rest', c = '\r' → rest = '\n' :: rest' → False) (ih : lines rest = linesOfRows (rows rest)) :
      linesOfRows (rows (c :: rest)) = match lines rest with
        | [] => [[c]]
        | line :: more => (c :: line) :: more := by
    rw [rows_cons hc, linesOfRows_modifyHead _ (rows_ne_nil rest), ih]
    intro hcr rs' hrows
    by_contra hrs'
    obtain ⟨rest', hrest⟩ := exists_lineFeed_of_rows hrows hrs'
    exact hr rest' hcr hrest
  fun_induction lines cs with
  | case1 => rfl
  | case2 rest ih =>
    obtain ⟨row, rs, hrs⟩ := List.exists_cons_of_ne_nil (rows_ne_nil rest)
    rw [ih, rows_lineFeed, hrs]
    rfl
  | case3 rest ih =>
    obtain ⟨row, rs, hrs⟩ := List.exists_cons_of_ne_nil (rows_ne_nil rest)
    rw [ih, rows_cons (by decide), rows_lineFeed, hrs]
    rfl
  | case4 c rest hc hr heq ih => rw [hother hc hr ih, heq]
  | case5 c rest hc hr line more heq ih => rw [hother hc hr ih, heq]

/-! ## Written lines -/

/-- The lines that have something in them. -/
def written (ls : List (List Char)) : List (List Char) := ls.filter (· ≠ [])

@[simp]
theorem written_append (ls ms : List (List Char)) : written (ls ++ ms) = written ls ++ written ms :=
  List.filter_append ..

@[simp]
theorem written_nil_cons (ls : List (List Char)) : written ([] :: ls) = written ls := rfl

/-- The text does not stop at a carriage return. -/
def Closed (cs : List Char) : Prop := cs.getLast? ≠ some '\r'

theorem linesOfRows_concat (rs : List (List Char)) (last : List Char) :
    linesOfRows (rs ++ [last]) = rs.map chomp ++ if last = [] then [] else [last] := by
  induction rs with
  | nil => rfl
  | cons row rs ih =>
    obtain ⟨next, rest, hrest⟩ := List.exists_cons_of_ne_nil (List.concat_ne_nil last rs)
    rw [List.map_cons, List.cons_append, List.cons_append, ← ih, hrest]
    rfl

theorem suffix_intercalate (rs : List (List Char)) (last : List Char) :
    last <:+ ['\n'].intercalate (rs ++ [last]) := by
  induction rs with
  | nil => simp
  | cons row rs ih =>
    rw [List.cons_append, List.intercalate_cons_of_ne_nil (by simp)]
    exact ih.trans (List.suffix_append _ _)

theorem chomp_of_closed (h : Closed row) : chomp row = row := if_neg h

theorem written_lines (h : Closed cs) : written (lines cs) = written ((rows cs).map chomp) := by
  obtain ⟨init, last, hrows⟩ := (rows cs).eq_nil_or_concat'.resolve_left (rows_ne_nil cs)
  have hlast : Closed last := by
    have hjoin : ['\n'].intercalate (rows cs) = cs := List.intercalate_splitOn '\n'
    have hsuffix : last <:+ cs := by
      rw [← hjoin, hrows]
      exact suffix_intercalate init last
    obtain ⟨before, rfl⟩ := hsuffix
    cases last with
    | nil => simp [Closed]
    | cons c last => simpa [Closed, List.getLast?_append] using h
  rw [lines_eq, hrows, linesOfRows_concat, List.map_append, List.map_singleton, chomp_of_closed hlast,
    written_append, written_append]
  by_cases hempty : last = [] <;> simp [written, hempty]

theorem Closed.append_lineFeed (cs : List Char) (h : Closed ds) : Closed (cs ++ '\n' :: ds) := by
  cases ds with
  | nil => simp [Closed]
  | cons d ds => simpa [Closed, List.getLast?_append] using h

theorem written_lines_append (hc : Closed cs) (hd : Closed ds) :
    written (lines (cs ++ '\n' :: ds)) = written (lines cs) ++ written (lines ds) := by
  rw [written_lines (hd.append_lineFeed cs), rows_append, List.map_append, written_append, written_lines hc,
    written_lines hd]

theorem closed_trim (s : String) : Closed (trim s).toList := by
  intro hlast
  have hhead := List.head?_dropWhile_not isBlank (dropBlankStart s.toList).reverse
  rw [trim, String.toList_ofList, dropBlankEnd, List.getLast?_reverse] at hlast
  rw [hlast] at hhead
  exact absurd hhead (by decide)

theorem exists_line_of_ne (hn : c ≠ '\n') (hr : c ≠ '\r') (cs : List Char) :
    ∃ line more, lines (c :: cs) = (c :: line) :: more := by
  rw [lines]
  · split
    · exact ⟨[], [], rfl⟩
    · next line more _ => exact ⟨line, more, rfl⟩
  · exact hn
  · exact fun _ hc => absurd hc hr

/-! ## Moving lines in -/

def indented (line : List Char) : List Char := if line.isEmpty then [] else "    ".toList ++ line

theorem lineFeed_notMem_lines (h : line ∈ lines cs) : '\n' ∉ line := by
  fun_induction lines cs generalizing line with
  | case1 => simp at h
  | case2 rest ih | case3 rest ih =>
    rcases List.mem_cons.mp h with rfl | h
    · simp
    · exact ih h
  | case4 c rest hc hr heq ih =>
    rw [List.mem_singleton.mp h, List.mem_singleton]
    exact fun hfeed => hc hfeed.symm
  | case5 c rest hc hr first more heq ih =>
    rw [heq] at ih
    rcases List.mem_cons.mp h with rfl | h
    · rw [List.mem_cons, not_or]
      exact ⟨fun hfeed => hc hfeed.symm, ih List.mem_cons_self⟩
    · exact ih (List.mem_cons_of_mem _ h)

theorem rows_indented (first : List Char) (rest : List (List Char)) (hfirst : '\n' ∉ first)
    (hrest : ∀ line ∈ rest, '\n' ∉ line) :
    rows (first ++ rest.flatMap indentedLine) = first :: rest.map indented := by
  induction rest generalizing first with
  | nil => simpa [rows] using List.splitOn_eq_singleton hfirst
  | cons line rest ih =>
    have hline : '\n' ∉ indented line := by
      unfold indented
      split
      · simp
      · simpa using hrest line (by simp)
    rw [List.flatMap_cons, indentedLine, ← indented, List.cons_append, rows_append,
      ih _ hline fun l hl => hrest l (by simp [hl]), List.map_cons]
    simp [rows, List.splitOn_eq_singleton hfirst]

theorem rows_indentBody {s : String} {first : List Char} {rest : List (List Char)}
    (h : lines s.toList = first :: rest) : rows (indentBody s).toList = first :: rest.map indented := by
  have hfeed : ∀ line ∈ first :: rest, '\n' ∉ line := fun line hline => lineFeed_notMem_lines (h ▸ hline)
  rw [indentBody, h]
  simp only [String.toList_ofList]
  exact rows_indented first rest (hfeed first (by simp)) fun line hline => hfeed line (by simp [hline])

theorem drop_indented (line : List Char) : (indented line).drop 4 = line := by
  unfold indented
  split
  · next h => simpa using h.symm
  · rfl

theorem indented_eq_nil_iff : indented line = [] ↔ line = [] := by
  unfold indented
  split
  · next h => simpa using h
  · next h => simpa using h

theorem prefix_indented (h : indented line ≠ []) : "    ".toList <+: indented line := by
  unfold indented at h ⊢
  split
  · next hempty => simp [hempty] at h
  · exact List.prefix_append _ _

end ShaderWeave.Text
