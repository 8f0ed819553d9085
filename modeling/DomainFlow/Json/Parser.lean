import DomainFlow.Json.Basic
import DomainFlow.Text

/-!
# Reading JSON

The text of a document is one value between blanks. Every step of the reader takes a character
off the text, so the length of the text bounds the steps.

## Main definitions

* `Json.literal?`: the pieces of a string literal behind its opening quote
* `Json.assemble`: the text that the pieces of a literal spell, if they spell one
* `Json.number?`: the literal of a number
* `Json.parse?`: the value of a document
-/

namespace DomainFlow

namespace Json

/-- The blanks between the tokens of a document. -/
def isBlank (c : Char) : Bool := c == ' ' || c == '\n' || c == '\t' || c == '\r'

/-- The text behind its leading blanks. -/
def skipBlanks (cs : List Char) : List Char := cs.dropWhile isBlank

/-! ## String literals -/

/-- A piece of a string literal: a character, or a code unit written in hexadecimal. -/
inductive Piece
  | char (c : Char)
  | codeUnit (value : Nat)

/-- The character that an escape letter stands for. -/
def escaped? : Char → Option Char
  | '"' => some '"'
  | '\\' => some '\\'
  | '/' => some '/'
  | 'b' => some '\x08'
  | 'f' => some '\x0c'
  | 'n' => some '\n'
  | 'r' => some '\r'
  | 't' => some '\t'
  | _ => none

/-- The pieces of a string literal behind its opening quote, and the text behind the closing
one. `read` holds the pieces before, last first. -/
def literal? (read : List Piece) : List Char → Option (List Piece × List Char)
  | [] => none
  | '"' :: rest => some (read.reverse, rest)
  | '\\' :: 'u' :: a :: b :: c :: d :: rest =>
    match Numeral.value? 16 [a, b, c, d] with
    | some unit => literal? (.codeUnit unit :: read) rest
    | none => none
  | '\\' :: letter :: rest =>
    match escaped? letter with
    | some c => literal? (.char c :: read) rest
    | none => none
  | c :: rest => if c.toNat < 0x20 then none else literal? (.char c :: read) rest

/-- Whether a code unit is the first half of a pair. -/
def isLeading (unit : Nat) : Bool := 0xD800 ≤ unit && unit < 0xDC00

/-- Whether a code unit is the second half of a pair. -/
def isTrailing (unit : Nat) : Bool := 0xDC00 ≤ unit && unit < 0xE000

/-- **The text of a literal**: two halves of a pair next to each other make one character, and a
half alone spells no text. `read` holds the characters before, last first. -/
def assemble (read : List Char) : List Piece → Option (List Char)
  | [] => some read.reverse
  | .char c :: rest => assemble (c :: read) rest
  | .codeUnit first :: .codeUnit second :: rest =>
    if isLeading first then
      if isTrailing second then
        assemble (Char.ofNat (0x10000 + (first - 0xD800) * 0x400 + (second - 0xDC00)) :: read) rest
      else none
    else if isTrailing first then none
    else assemble (Char.ofNat first :: read) (.codeUnit second :: rest)
  | .codeUnit unit :: rest =>
    if isLeading unit || isTrailing unit then none else assemble (Char.ofNat unit :: read) rest

/-- A string behind its opening quote. -/
def string? (cs : List Char) : Option (Option String × List Char) :=
  (literal? [] cs).map fun (pieces, rest) => ((assemble [] pieces).map String.ofList, rest)

/-! ## Numbers -/

/-- One digit or more at the front of a text. -/
def digits? (cs : List Char) : Option (List Char × List Char) :=
  if (cs.takeWhile Char.isDigit).isEmpty then none
  else some (cs.takeWhile Char.isDigit, cs.dropWhile Char.isDigit)

/-- The integer part of a number: zero alone, or digits that do not begin with zero. -/
def integerPart? : List Char → Option (List Char × List Char)
  | '0' :: rest => some (['0'], rest)
  | cs => digits? cs

/-- The fraction of a number, empty where there is none. -/
def fraction? : List Char → Option (List Char × List Char)
  | '.' :: rest => (digits? rest).map fun (digits, rest) => ('.' :: digits, rest)
  | cs => some ([], cs)

/-- The sign of an exponent, empty where there is none. -/
def exponentSign : List Char → List Char × List Char
  | '+' :: rest => (['+'], rest)
  | '-' :: rest => (['-'], rest)
  | cs => ([], cs)

/-- The exponent of a number, empty where there is none. -/
def exponent? : List Char → Option (List Char × List Char)
  | [] => some ([], [])
  | c :: rest =>
    if c = 'e' ∨ c = 'E' then
      (digits? (exponentSign rest).2).map fun (digits, last) =>
        (c :: ((exponentSign rest).1 ++ digits), last)
    else some ([], c :: rest)

/-- A number without its sign. -/
def unsigned? (cs : List Char) : Option (List Char × List Char) := do
  let (whole, cs) ← integerPart? cs
  let (fraction, cs) ← fraction? cs
  let (exponent, cs) ← exponent? cs
  some (whole ++ fraction ++ exponent, cs)

/-- The literal of a number at the front of a text. -/
def number? : List Char → Option (List Char × List Char)
  | '-' :: rest => (unsigned? rest).map fun (literal, rest) => ('-' :: literal, rest)
  | cs => unsigned? cs

/-! ## Values -/

/-- The key of a member and the text behind its colon. -/
def key? (cs : List Char) : Option (Option String × List Char) :=
  match skipBlanks cs with
  | '"' :: rest => do
    let (key, rest) ← string? rest
    match skipBlanks rest with
    | ':' :: rest => some (key, rest)
    | _ => none
  | _ => none

mutual

/-- **A value** at the front of a text. -/
def value? : Nat → List Char → Option (Json × List Char)
  | 0, _ => none
  | steps + 1, cs =>
    match skipBlanks cs with
    | 'n' :: 'u' :: 'l' :: 'l' :: rest => some (.null, rest)
    | 't' :: 'r' :: 'u' :: 'e' :: rest => some (.bool true, rest)
    | 'f' :: 'a' :: 'l' :: 's' :: 'e' :: rest => some (.bool false, rest)
    | '"' :: rest => (string? rest).map fun (s, rest) => (.str s, rest)
    | '[' :: rest =>
      match skipBlanks rest with
      | ']' :: rest => some (.arr [], rest)
      | rest => do
        let (item, rest) ← value? steps rest
        let (items, rest) ← items? steps rest
        some (.arr (item :: items), rest)
    | '{' :: rest =>
      match skipBlanks rest with
      | '}' :: rest => some (.obj [], rest)
      | rest => do
        let (key, rest) ← key? rest
        let (value, rest) ← value? steps rest
        let (members, rest) ← members? steps rest
        some (.obj ((key, value) :: members), rest)
    | rest => (number? rest).map fun (literal, rest) => (.num (String.ofList literal), rest)

/-- The rest of an array behind an item. -/
def items? : Nat → List Char → Option (List Json × List Char)
  | 0, _ => none
  | steps + 1, cs =>
    match skipBlanks cs with
    | ']' :: rest => some ([], rest)
    | ',' :: rest => do
      let (item, rest) ← value? steps rest
      let (items, rest) ← items? steps rest
      some (item :: items, rest)
    | _ => none

/-- The rest of an object behind a member. -/
def members? : Nat → List Char → Option (List (Option String × Json) × List Char)
  | 0, _ => none
  | steps + 1, cs =>
    match skipBlanks cs with
    | '}' :: rest => some ([], rest)
    | ',' :: rest => do
      let (key, rest) ← key? rest
      let (value, rest) ← value? steps rest
      let (members, rest) ← members? steps rest
      some ((key, value) :: members, rest)
    | _ => none

end

/-- **The value of a document**: one value, with nothing but blanks around it. -/
def parse? (document : String) : Option Json :=
  -- every step takes at least one character, so the length bounds the steps
  match value? (document.toList.length + 1) document.toList with
  | some (j, rest) => if (skipBlanks rest).isEmpty then some j else none
  | none => none

end Json

end DomainFlow
