import DomainFlow.Json.Basic

/-!
# Writing JSON

A layout says where a written value is broken into lines. The compact layout writes no blank at
all; the indented one puts every item and member on a line of its own, two blanks deeper than its
container, and writes empty containers inline. Strings escape the quote, the backslash and the
control characters, and nothing else.

## Main definitions

* `Json.Layout.compact`, `Json.Layout.indented`
* `Json.render`: the characters of a value in a layout
* `Json.toCompact`, `Json.toIndented`: the written value as a text
-/

namespace DomainFlow

namespace Json

/-- **Where a written value is broken.** -/
structure Layout where
  /-- What stands before an item or a closing bracket at a depth. -/
  gap : Nat → List Char
  /-- What stands between the colon of a member and its value. -/
  afterColon : List Char

/-- Everything on one line, without blanks. -/
def Layout.compact : Layout := ⟨fun _ => [], []⟩

/-- One item or member a line, indented by two blanks a level. -/
def Layout.indented : Layout := ⟨fun depth => '\n' :: List.replicate (2 * depth) ' ', [' ']⟩

/-- The form of a character inside a string literal. -/
def escape (c : Char) : List Char :=
  match c with
  | '"' => ['\\', '"']
  | '\\' => ['\\', '\\']
  | '\n' => ['\\', 'n']
  | '\r' => ['\\', 'r']
  | '\t' => ['\\', 't']
  | '\x08' => ['\\', 'b']
  | '\x0c' => ['\\', 'f']
  | c =>
    if c.toNat < 0x20 then
      ['\\', 'u', '0', '0', Nat.digitChar (c.toNat / 16), Nat.digitChar (c.toNat % 16)]
    else [c]

/-- The literal of a string. A string without a text is written as half a surrogate pair. -/
def quote : Option String → List Char
  | some s => '"' :: (s.toList.flatMap escape ++ ['"'])
  | none => ['"', '\\', 'u', 'd', '8', '0', '0', '"']

mutual

/-- **The characters of a value** at a depth. -/
def render (layout : Layout) (depth : Nat) : Json → List Char
  | .null => ['n', 'u', 'l', 'l']
  | .bool true => ['t', 'r', 'u', 'e']
  | .bool false => ['f', 'a', 'l', 's', 'e']
  | .num literal => literal.toList
  | .str s => quote s
  | .arr [] => ['[', ']']
  | .arr (item :: items) =>
    '[' :: (layout.gap (depth + 1) ++ render layout (depth + 1) item ++
      renderItems layout depth items)
  | .obj [] => ['{', '}']
  | .obj ((key, value) :: members) =>
    '{' :: (layout.gap (depth + 1) ++ quote key ++ ':' :: (layout.afterColon ++
      render layout (depth + 1) value) ++ renderMembers layout depth members)

/-- The rest of an array behind an item. -/
def renderItems (layout : Layout) (depth : Nat) : List Json → List Char
  | [] => layout.gap depth ++ [']']
  | item :: items =>
    ',' :: (layout.gap (depth + 1) ++ render layout (depth + 1) item ++
      renderItems layout depth items)

/-- The rest of an object behind a member. -/
def renderMembers (layout : Layout) (depth : Nat) : List (Option String × Json) → List Char
  | [] => layout.gap depth ++ ['}']
  | (key, value) :: members =>
    ',' :: (layout.gap (depth + 1) ++ quote key ++ ':' :: (layout.afterColon ++
      render layout (depth + 1) value) ++ renderMembers layout depth members)

end

/-- The compact text of a value. -/
def toCompact (j : Json) : String := String.ofList (j.render .compact 0)

/-- The indented text of a value. -/
def toIndented (j : Json) : String := String.ofList (j.render .indented 0)

end Json

end DomainFlow
