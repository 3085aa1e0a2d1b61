import ShaderWeave.Marks.Operator

/-!
# Values in a template

What stands in a tag has a value. Sections are texts, and other values are written out or worked
out of them. Where an operation has a result that is not worked out here, that result is `unknown`:
it may be passed on, but nobody may ask for its text or its truth.
-/

namespace ShaderWeave.Marks

inductive Value
  /-- What nothing has been said about, as a name that is no section. -/
  | undefined
  /-- What a choice without an alternative chooses otherwise. Its text is empty. -/
  | blank
  | nothing
  | truth (b : Bool)
  | integer (n : Int)
  | text (t : String)
  | list (items : List Value)
  | map (entries : List (Value × Value))
  | unknown

namespace Value

/-! ## What a value is taken for -/

def text? : Value → Option String
  | blank => some ""
  | nothing => some "none"
  | truth b => some (if b then "true" else "false")
  | integer n => some (toString n)
  | text t => some t
  | _ => none

def isTrue? : Value → Option Bool
  | blank | nothing => some false
  | truth b => some b
  | integer n => some (n != 0)
  | text t => some (t != "")
  | list items => some !items.isEmpty
  | map entries => some !entries.isEmpty
  | undefined | unknown => none

/-- Whether a number can be worked with: it fits 128 bits with a sign. -/
def isWorkable (n : Int) : Bool :=
  -0x80000000000000000000000000000000 ≤ n && n < 0x80000000000000000000000000000000

/-- The number that a value is in arithmetic. -/
def number? : Value → Option Int
  | truth b => some (if b then 1 else 0)
  | integer n => if isWorkable n then some n else none
  | _ => none

def items? : Value → Option (List Value)
  | blank | nothing => some []
  | text t => some (t.toList.map fun c => text (String.ofList [c]))
  | list items => some items
  | _ => none

/-! ## Results -/

def ofInt (n : Int) : Value := if isWorkable n then integer n else unknown

def ofTruth? : Option Bool → Value
  | some b => truth b
  | none => unknown

def not (v : Value) : Value := ofTruth? (v.isTrue?.map (!·))

def opposite : Value → Value
  | integer n => if isWorkable n then ofInt (-n) else unknown
  | _ => unknown

/-- Whether two values without parts are equal. -/
def equal? (a b : Value) : Option Bool :=
  match a.number?, b.number? with
  | some m, some n => some (m == n)
  | m, n =>
    match a, b with
    | text s, text t => some (s == t)
    | nothing, nothing => some true
    | text _, nothing | nothing, text _ => some false
    | text _, _ | nothing, _ => n.map fun _ => false
    | _, text _ | _, nothing => m.map fun _ => false
    | _, _ => none

/-- Whether a value comes before another one. Texts are ordered by their characters. -/
def less? (a b : Value) : Option Bool :=
  match a, b with
  | integer m, integer n => some (m < n)
  | text s, text t => some (s < t)
  | _, _ => none

def hasPart (part : List Char) : List Char → Bool
  | [] => part.isEmpty
  | c :: rest => part.isPrefixOf (c :: rest) || hasPart part rest

def anyEqual? (a : Value) (items : List Value) : Option Bool :=
  (items.mapM a.equal?).map (·.any id)

def memberOf? (a b : Value) : Option Bool :=
  match a, b with
  | text s, text t => some (hasPart s.toList t.toList)
  | a, list items => anyEqual? a items
  | a, map entries => anyEqual? a (entries.map Prod.fst)
  | _, _ => none

def calculate (operator : Operator) (m n : Int) : Value :=
  match operator with
  | .add => ofInt (m + n)
  | .subtract => ofInt (m - n)
  | .multiply => ofInt (m * n)
  | .divideWhole => if n = 0 then unknown else ofInt (m / n)
  | .remainder => if n = 0 then unknown else ofInt (m % n)
  | .power => if 0 ≤ n ∧ n ≤ 127 then ofInt (m.pow n.toNat) else unknown
  | _ => unknown

/-- The result of an operator on two values, of which none is undefined. -/
def combine (operator : Operator) (a b : Value) : Value :=
  match operator with
  | .join => match a.text?, b.text? with
    | some s, some t => text (s ++ t)
    | _, _ => unknown
  | .equal => ofTruth? (a.equal? b)
  | .unequal => ofTruth? ((a.equal? b).map (!·))
  | .less => ofTruth? (a.less? b)
  | .atMost => ofTruth? ((b.less? a).map (!·))
  | .greater => ofTruth? (b.less? a)
  | .atLeast => ofTruth? ((a.less? b).map (!·))
  | .member => ofTruth? (a.memberOf? b)
  | operator =>
    match operator, a, b with
    | .add, text s, text t => text (s ++ t)
    | .add, list s, list t => list (s ++ t)
    | operator, a, b =>
      match a.number?, b.number? with
      | some m, some n => calculate operator m n
      | _, _ => unknown

/-! ## Parts -/

/-- The item at a place, counted from the end if the place is negative. -/
def itemAt? (items : List Value) (place : Int) : Option Value :=
  if 0 ≤ place then items[place.toNat]?
  else if place.natAbs ≤ items.length then items[items.length - place.natAbs]?
  else none

/-- The entry of a map under a key. Of several the last one counts. -/
def entryAt (entries : List (Value × Value)) (key : Value) : Value :=
  match entries.reverse.find? fun entry => entry.1.equal? key == some true with
  | some (_, value) => value
  | none => if entries.all fun entry => (entry.1.equal? key).isSome then undefined else unknown

/-- The part of a value at a place or under a key. What has no such part has an undefined one. -/
def item (of place : Value) : Value :=
  match of, place with
  | unknown, _ | _, unknown => unknown
  | map entries, key => entryAt entries key
  | of, place =>
    match of, place.number? with
    | list items, some n => (itemAt? items n).getD undefined
    | text t, some n => (itemAt? (t.toList.map fun c => text (String.ofList [c])) n).getD undefined
    | _, _ => undefined

def field (of : Value) (name : String) : Value :=
  match of with
  | unknown => unknown
  | map entries => entryAt entries (text name)
  | _ => undefined

/-! ## Kinds -/

/-- Whether a value is of the kind that a test names. An unknown one is defined at least. -/
def isA? (kind : String) (v : Value) : Option Bool :=
  match kind, v with
  | "defined", undefined | "defined", blank => some false
  | "defined", _ => some true
  | "undefined", undefined | "undefined", blank => some true
  | "undefined", _ => some false
  | _, unknown => none
  | "none", nothing => some true
  | "string", text _ => some true
  | "number", integer _ | "integer", integer _ => some true
  | "boolean", truth _ => some true
  | "mapping", map _ => some true
  | "sequence", list _ => some true
  | kind, _ =>
    if ["none", "string", "number", "integer", "boolean", "mapping", "sequence"].contains kind then
      some false
    else none

end Value

end ShaderWeave.Marks
