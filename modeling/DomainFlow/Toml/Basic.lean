/-!
# TOML values

Numbers, dates and times are kept by their literals: settings hold none, so only their form
matters.

## Main definitions

* `Toml`: a TOML value
* `Toml.text?`, `Toml.bool?`, `Toml.list?`, `Toml.fields?`: the readers of values
-/

namespace DomainFlow

/-- **A TOML value.** -/
inductive Toml
  | text (s : String)
  | bool (b : Bool)
  /-- A number, or a date or time. -/
  | scalar (literal : String)
  | arr (items : List Toml)
  | table (entries : List (String × Toml))

namespace Toml

instance : Inhabited Toml := ⟨.table []⟩

/-- The text of a string. -/
def text? : Toml → Option String
  | .text s => some s
  | _ => none

/-- The truth value of a boolean. -/
def bool? : Toml → Option Bool
  | .bool b => some b
  | _ => none

/-- The items of an array, each read by `f`. -/
def list? {α : Type} (f : Toml → Option α) : Toml → Option (List α)
  | .arr items => items.mapM f
  | _ => none

/-- **The fields of a structured value**, in the order of their names. A table gives them by name
among others, an array by position before others. -/
def fields? (names : List String) : Toml → Option (List Toml)
  | .table entries => names.mapM fun name => entries.lookup name
  | .arr items => if names.length ≤ items.length then some (items.take names.length) else none
  | _ => none

end Toml

end DomainFlow
