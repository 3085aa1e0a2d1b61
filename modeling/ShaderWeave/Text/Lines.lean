/-!
# Lines

A line ends at a line feed, a carriage return just before the feed belongs to the line end, and
text that stops at a line end has no empty line after it.
-/

namespace ShaderWeave.Text

def lines : List Char → List (List Char)
  | [] => []
  | '\n' :: rest => [] :: lines rest
  | '\r' :: '\n' :: rest => [] :: lines rest
  | c :: rest =>
    match lines rest with
    | [] => [[c]]
    | line :: more => (c :: line) :: more

/-- A line feed and the line, moved in by four blanks unless it is empty. -/
def indentedLine (line : List Char) : List Char :=
  '\n' :: if line.isEmpty then [] else "    ".toList ++ line

/-- Moves every line but the first in by four blanks; the first stands where the text is put. -/
def indentBody (s : String) : String :=
  match lines s.toList with
  | [] => ""
  | first :: rest => String.ofList (first ++ rest.flatMap indentedLine)

/-- One text from lines, with line feeds between them. -/
def unlines (ls : List String) : String := "\n".intercalate ls

theorem toList_unlines_cons {l : String} {ls : List String} (h : ls ≠ []) :
    (unlines (l :: ls)).toList = l.toList ++ '\n' :: (unlines ls).toList := by
  obtain ⟨l', ls, rfl⟩ := List.exists_cons_of_ne_nil h
  simp [unlines, String.toList_intercalate]

end ShaderWeave.Text
