/-!
# JSON values

A JSON value as its text gives it: object members in order and with repetitions, numbers by their
literals. A string literal may escape one half of a surrogate pair alone. Such a literal is well
formed, but there is no text that it spells, so a string is an optional text.

## Main definitions

* `Json`: a JSON value
* `Json.text`, `Json.nat`, `Json.object`: values of texts, numbers and named members
* `Json.text?`, `Json.nat?`, `Json.list?`, `Json.name?`: the readers of these forms
* `Json.fields?`: the fields of a structured value, given by name or by position
-/

namespace DomainFlow

/-- **A JSON value.** -/
inductive Json
  | null
  | bool (value : Bool)
  | num (literal : String)
  /-- A string; `none` when its literal spells no text. -/
  | str (text : Option String)
  | arr (items : List Json)
  | obj (members : List (Option String × Json))

namespace Json

instance : Inhabited Json := ⟨null⟩

/-! ## Values -/

/-- The value of a text. -/
def text (s : String) : Json := .str (some s)

/-- The value of a natural number. -/
def nat (n : Nat) : Json := .num (String.ofList (Nat.toDigits 10 n))

/-- The value of an optional part: `null` when there is none. -/
def ofOption {α : Type} (f : α → Json) : Option α → Json
  | none => .null
  | some a => f a

/-- The array of the values of a list. -/
def ofList {α : Type} (f : α → Json) (l : List α) : Json := .arr (l.map f)

/-- The object of named members. -/
def object (members : List (String × Json)) : Json := .obj (members.map fun m => (some m.1, m.2))

/-! ## Readers -/

/-- The text of a string. -/
def text? : Json → Option String
  | .str s => s
  | _ => none

/-- The truth value of a boolean. -/
def bool? : Json → Option Bool
  | .bool b => some b
  | _ => none

/-- The natural number of a literal that consists of digits. -/
def nat? : Json → Option Nat
  | .num literal =>
    if literal.toList ≠ [] ∧ literal.toList.all Char.isDigit then
      some (Nat.ofDigitChars 10 literal.toList 0)
    else none
  | _ => none

/-- The items of an array, each read by `f`. -/
def list? {α : Type} (f : Json → Option α) : Json → Option (List α)
  | .arr items => items.mapM f
  | _ => none

/-- `null`, or what `f` reads. -/
def nullable? {α : Type} (f : Json → Option α) : Json → Option (Option α)
  | .null => some none
  | j => (f j).map some

/-- A plain name: a string, or an object whose only member has that name and the value `null`. -/
def name? : Json → Option String
  | .str s => s
  | .obj [(s, .null)] => s
  | _ => none

/-- The members of an object, each value read by `f`. -/
def entries? {α : Type} (f : Json → Option α) : Json → Option (List (String × α))
  | .obj members => members.mapM fun m => do some (← m.1, ← f m.2)
  | _ => none

/-- The value of the first member of a name. -/
def member? (name : String) : List (Option String × Json) → Option Json
  | [] => none
  | (key, value) :: rest => if key = some name then some value else member? name rest

/-- Whether a list of members gives every key a text and none of the names twice. -/
def namesOnce (names : List String) (members : List (Option String × Json)) : Bool :=
  members.all (·.1.isSome) && names.all fun name => (members.filter (·.1 == some name)).length ≤ 1

/-- **The fields of a structured value**, in the order of their names. An object gives them by
name, in any order and among others; an array gives them by position, at least the first
`least` of them. -/
def fields? (names : List String) (least : Nat) : Json → Option (List (Option Json))
  | .obj members =>
    if namesOnce names members then some (names.map fun name => member? name members) else none
  | .arr items =>
    if least ≤ items.length ∧ items.length ≤ names.length then
      some (items.map some ++ List.replicate (names.length - items.length) none)
    else none
  | _ => none

/-- A field that has to be given. -/
def required {α : Type} (f : Json → Option α) (field : Option Json) : Option α := field.bind f

/-- A field with a default. -/
def orDefault {α : Type} (default : α) (f : Json → Option α) : Option Json → Option α
  | none => some default
  | some j => f j

end Json

end DomainFlow
