/-!
# Requests

A request is a set of feature ids. Its key joins the sorted distinct ids with `+`, so the order and
the repetition of ids in a request do not matter. An id that is empty or has a `+` in it would
make two requests share a key; no such id can be registered.
-/

namespace ShaderWeave

/-- An id that can stand in a key. -/
def IsFeatureId (id : String) : Prop := id ≠ "" ∧ '+' ∉ id.toList

instance : DecidablePred IsFeatureId := fun _ => inferInstanceAs (Decidable (_ ∧ _))

/-- Puts an id into a list of ids that ascend, unless it is there. -/
def insertId (id : String) : List String → List String
  | [] => [id]
  | x :: xs =>
    if id < x then id :: x :: xs
    else if id = x then x :: xs
    else x :: insertId id xs

/-- The distinct ids of a request in the order of their code points, which is also the order of
their UTF-8 bytes. -/
def canonicalIds (ids : List String) : List String := ids.foldr insertId []

@[simp]
theorem mem_insertId {a id : String} {ids : List String} :
    a ∈ insertId id ids ↔ a = id ∨ a ∈ ids := by
  induction ids with
  | nil => simp [insertId]
  | cons x xs ih =>
    simp only [insertId]
    split
    · simp
    · split
      · next h => simp [h]
      · simp only [List.mem_cons, ih]
        exact or_left_comm

@[simp]
theorem mem_canonicalIds {a : String} {ids : List String} : a ∈ canonicalIds ids ↔ a ∈ ids := by
  induction ids with
  | nil => simp [canonicalIds]
  | cons x xs ih => simpa [canonicalIds] using or_congr_right ih

structure RequestKey where
  text : String
  deriving DecidableEq

namespace RequestKey

def ofIds (ids : List String) : RequestKey := ⟨"+".intercalate (canonicalIds ids)⟩

/-- The parts of a text between the pluses, empty parts too. -/
def parts : List Char → List (List Char)
  | [] => [[]]
  | c :: rest =>
    if c = '+' then [] :: parts rest
    else match parts rest with
      | [] => [[c]]
      | part :: more => (c :: part) :: more

/-- The ids that the key was made of, in order. -/
def ids (k : RequestKey) : List String :=
  ((parts k.text.toList).filter fun p => !p.isEmpty).map String.ofList

/-- Whether nothing was requested. -/
def isEmpty (k : RequestKey) : Bool := k.text == ""

/-- The key as messages and labels show it. -/
def display (k : RequestKey) : String := if k.isEmpty then "<base>" else k.text

end RequestKey

end ShaderWeave
