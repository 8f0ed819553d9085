import DomainFlow.Toml.Basic

/-!
# Writing TOML

A document of sections, each with keys and values. A string is written in the plainest form that
can hold it: between single or triple quotes as it stands, or between double quotes with escapes.
An array of two items or more has a line for each.

## Main definitions

* `Toml.quote`: the literal of a string
* `Toml.renderValue`, `Toml.renderSections`: the texts of values and documents
-/

namespace DomainFlow

namespace Toml

/-! ## Strings -/

/-- Whether a character needs an escape wherever it stands: a control character other than a tab or
a line feed. -/
def needsEscape (c : Char) : Bool :=
  (c.toNat < 0x20 && c != '\t' && c != '\n') || c.toNat == 0x7F

/-- Whether a text holds three of a character in a row. -/
def hasTriple (c : Char) : List Char → Bool
  | a :: b :: d :: rest => (a == c && b == c && d == c) || hasTriple c (b :: d :: rest)
  | _ => false

/-- The escape of a character between double quotes, except for quotes and line feeds. -/
def escape (c : Char) : List Char :=
  match c with
  | '\x08' => ['\\', 'b']
  | '\t' => ['\\', 't']
  | '\x0c' => ['\\', 'f']
  | '\r' => ['\\', 'r']
  | '\\' => ['\\', '\\']
  | c =>
    if needsEscape c then
      ['\\', 'u', '0', '0', (Nat.digitChar (c.toNat / 16)).toUpper,
        (Nat.digitChar (c.toNat % 16)).toUpper]
    else [c]

/-- The characters of a string on one line between double quotes. -/
def escapeLine (c : Char) : List Char :=
  if c = '"' then ['\\', '"'] else if c = '\n' then ['\\', 'n'] else escape c

/-- The characters of a string over several lines between double quotes. Of quotes in a row every
third is escaped; `quotes` counts those before. -/
def escapeLines (quotes : Nat) : List Char → List Char
  | [] => []
  | '"' :: rest =>
    if quotes = 2 then '\\' :: '"' :: escapeLines 0 rest else '"' :: escapeLines (quotes + 1) rest
  | '\n' :: rest => '\n' :: escapeLines 0 rest
  | c :: rest => escape c ++ escapeLines 0 rest

/-- A text between delimiters of three quotes. A text over several lines begins on a new one. -/
def triple (quote : Char) (isMultiline : Bool) (written : List Char) : List Char :=
  List.replicate 3 quote ++ (if isMultiline then ['\n'] else []) ++ written ++
    List.replicate 3 quote

/-- **The literal of a string**, in the plainest form that can hold it. -/
def quote (cs : List Char) : List Char :=
  let isMultiline := cs.contains '\n'
  let isPlain := !cs.any needsEscape
  if isPlain && !isMultiline && !cs.contains '\\' && !cs.contains '"' then
    '"' :: (cs.flatMap escapeLine ++ ['"'])
  else if isPlain && !isMultiline && !cs.contains '\'' then '\'' :: (cs ++ ['\''])
  else if isPlain && !cs.contains '\\' && !hasTriple '"' cs then
    triple '"' isMultiline (escapeLines 0 cs)
  else if isPlain && !hasTriple '\'' cs then triple '\'' isMultiline cs
  else if isMultiline then triple '"' isMultiline (escapeLines 0 cs)
  else '"' :: (cs.flatMap escapeLine ++ ['"'])

/-! ## Documents -/

mutual

/-- **The text of a value** behind its key. Tables do not occur there. -/
def renderValue : Toml → List Char
  | .text s => quote s.toList
  | .bool true => ['t', 'r', 'u', 'e']
  | .bool false => ['f', 'a', 'l', 's', 'e']
  | .scalar literal => literal.toList
  | .arr [] => ['[', ']']
  | .arr [item] => '[' :: (renderValue item ++ [']'])
  | .arr (item :: items) =>
    ['[', '\n', ' ', ' ', ' ', ' '] ++ renderValue item ++ [',', '\n'] ++ renderItems items
  | .table _ => ['{', '}']

/-- The lines of the items of an array, and its end. -/
def renderItems : List Toml → List Char
  | [] => [']']
  | item :: items => [' ', ' ', ' ', ' '] ++ renderValue item ++ [',', '\n'] ++ renderItems items

end

/-- The line of a key and its value. -/
def renderEntry (entry : String × Toml) : List Char :=
  entry.1.toList ++ [' ', '=', ' '] ++ renderValue entry.2 ++ ['\n']

/-- The lines of a section. -/
def renderSection (part : String × List (String × Toml)) : List Char :=
  '[' :: (part.1.toList ++ [']', '\n'] ++ part.2.flatMap renderEntry)

/-- **The text of a document** of sections, with an empty line between two of them. -/
def renderSections (parts : List (String × List (String × Toml))) : String :=
  String.ofList (List.intercalate ['\n'] (parts.map renderSection))

end Toml

end DomainFlow
