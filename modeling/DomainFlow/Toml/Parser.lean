import DomainFlow.Toml.Scalar
import DomainFlow.Toml.Table

/-!
# Reading TOML

A document is a sequence of statements: headers and keys with values, each on lines of its own. The
reader takes the statements off the text and applies them to a tree of tables. Every step takes a
character off the text, so the length of the text bounds the steps.

## Main definitions

* `Toml.key?`: a dotted key
* `Toml.value?`: a value
* `Toml.parse?`: the table of a document
-/

namespace DomainFlow

namespace Toml

/-! ## Lines -/

/-- The characters of comments and, but for their delimiter, of literal strings: no control
characters except tabs. -/
def isPlain (c : Char) : Bool := c == '\t' || (0x20 ≤ c.toNat && c.toNat ≠ 0x7F)

/-- The text behind a line break. -/
def newline? : List Char → Option (List Char)
  | '\n' :: rest => some rest
  | '\r' :: '\n' :: rest => some rest
  | _ => none

/-- The text behind a line break, or nothing at the end of the text. -/
def lineBreak? : List Char → Option (List Char)
  | [] => some []
  | cs => newline? cs

/-- The text behind the end of a line, which may hold blanks and a comment. -/
def lineEnd? (cs : List Char) : Option (List Char) :=
  match skipBlanks cs with
  | '#' :: rest => lineBreak? (rest.dropWhile isPlain)
  | rest => lineBreak? rest

/-- The text behind blanks, line breaks and comments. -/
def skipGap? : Nat → List Char → Option (List Char)
  | 0, _ => none
  | steps + 1, cs =>
    match skipBlanks cs with
    | '#' :: rest => do skipGap? steps (← newline? (rest.dropWhile isPlain))
    | rest =>
      match newline? rest with
      | some rest => skipGap? steps rest
      | none => some rest

/-! ## Strings -/

/-- The character of a number, if there is one. -/
def charOf? (digits : List Char) : Option Char := do
  let n ← Numeral.value? 16 digits
  if n.isValidChar then some (Char.ofNat n) else none

/-- The character that an escape stands for, behind the backslash. -/
def escaped? : List Char → Option (Char × List Char)
  | 'b' :: rest => some ('\x08', rest)
  | 't' :: rest => some ('\t', rest)
  | 'n' :: rest => some ('\n', rest)
  | 'f' :: rest => some ('\x0c', rest)
  | 'r' :: rest => some ('\r', rest)
  | '"' :: rest => some ('"', rest)
  | '\\' :: rest => some ('\\', rest)
  | 'u' :: rest =>
    if 4 ≤ rest.length then (charOf? (rest.take 4)).map fun c => (c, rest.drop 4) else none
  | 'U' :: rest =>
    if 8 ≤ rest.length then (charOf? (rest.take 8)).map fun c => (c, rest.drop 8) else none
  | _ => none

/-- A string with escapes on one line, behind its opening quote. `read` holds the characters
before, last first. -/
def basic? : Nat → List Char → List Char → Option (List Char × List Char)
  | 0, _, _ => none
  | _ + 1, _, [] => none
  | _ + 1, read, '"' :: rest => some (read.reverse, rest)
  | steps + 1, read, '\\' :: rest => do
    let (c, rest) ← escaped? rest
    basic? steps (c :: read) rest
  | steps + 1, read, c :: rest => if isPlain c then basic? steps (c :: read) rest else none

/-- A string without escapes on one line, behind its opening quote. -/
def literal? (cs : List Char) : Option (List Char × List Char) :=
  let isInside := fun c => isPlain c && c != '\''
  match cs.dropWhile isInside with
  | '\'' :: rest => some (cs.takeWhile isInside, rest)
  | _ => none

/-- The blanks and line breaks that a backslash at the end of a line takes away. -/
def skipLines : Nat → List Char → List Char
  | 0, cs => cs
  | steps + 1, cs =>
    match newline? (skipBlanks cs) with
    | some rest => skipLines steps rest
    | none => skipBlanks cs

/-- A string over several lines, behind its opening quotes. Three quotes end it, and up to two more
before them belong to it. A carriage return in a line break is dropped. -/
def multiline? (delimiter : Char) (escapes : Bool) :
    Nat → List Char → List Char → Option (List Char × List Char)
  | 0, _, _ => none
  | _ + 1, _, [] => none
  | steps + 1, read, c :: rest =>
    if c = delimiter then
      let quotes := rest.takeWhile (· == delimiter)
      if quotes.length < 2 then multiline? delimiter escapes steps (c :: read) rest
      else
        -- of up to five quotes in a row the last three are the delimiter
        let extra := min (quotes.length - 2) 2
        some ((List.replicate extra delimiter ++ read).reverse, rest.drop (2 + extra))
    else if c = '\\' ∧ escapes then
      match newline? (skipBlanks rest) with
      | some rest => multiline? delimiter escapes steps read (skipLines steps rest)
      | none => do
        let (c, rest) ← escaped? rest
        multiline? delimiter escapes steps (c :: read) rest
    else
      match newline? (c :: rest) with
      | some rest => multiline? delimiter escapes steps ('\n' :: read) rest
      | none => if isPlain c then multiline? delimiter escapes steps (c :: read) rest else none

/-- The text behind the line break that may open a string over several lines. -/
def skipFirstBreak (cs : List Char) : List Char := (newline? cs).getD cs

/-- A string at the front of a text. -/
def string? (steps : Nat) : List Char → Option (List Char × List Char)
  | '"' :: '"' :: '"' :: rest => multiline? '"' true steps [] (skipFirstBreak rest)
  | '\'' :: '\'' :: '\'' :: rest => multiline? '\'' false steps [] (skipFirstBreak rest)
  | '"' :: rest => basic? steps [] rest
  | '\'' :: rest => literal? rest
  | _ => none

/-! ## Keys -/

/-- The characters of a key without quotes. -/
def inBareKey (c : Char) : Bool := c.isAlphanum || c == '-' || c == '_'

/-- One part of a dotted key. -/
def keyPart? (steps : Nat) : List Char → Option (String × List Char)
  | '"' :: rest => (basic? steps [] rest).map fun (key, rest) => (String.ofList key, rest)
  | '\'' :: rest => (literal? rest).map fun (key, rest) => (String.ofList key, rest)
  | cs =>
    if (cs.takeWhile inBareKey).isEmpty then none
    else some (String.ofList (cs.takeWhile inBareKey), cs.dropWhile inBareKey)

/-- The parts of a dotted key, with blanks around each. -/
def keyParts? : Nat → List Char → Option (List String × List Char)
  | 0, _ => none
  | steps + 1, cs => do
    let (part, rest) ← keyPart? steps (skipBlanks cs)
    match skipBlanks rest with
    | '.' :: rest => do
      let (parts, rest) ← keyParts? steps rest
      some (part :: parts, rest)
    | rest => some ([part], rest)

/-- The number that the parts of a key and the depth of a value stay below. -/
def depthBound : Nat := 80

/-- **A dotted key**: the parts before the last one, and the last one. -/
def key? (steps : Nat) (cs : List Char) : Option ((List String × String) × List Char) := do
  let (parts, rest) ← keyParts? steps cs
  guard (parts.length < depthBound)
  some ((parts.dropLast, ← parts.getLast?), rest)

/-! ## Values -/

mutual

/-- **A value** at the front of a text, in which arrays and tables are nested no deeper than
`depth`. -/
def value? : Nat → Nat → List Char → Option (Toml × List Char)
  | 0, _, _ => none
  | steps + 1, depth, cs =>
    match cs with
    | '[' :: rest =>
      match depth with
      | 0 => none
      | depth + 1 => (items? steps depth rest).map fun (items, rest) => (.arr items, rest)
    | '{' :: rest =>
      match depth with
      | 0 => none
      | depth + 1 =>
        match skipBlanks rest with
        | '}' :: rest => some (.table [], rest)
        | rest => (members? steps depth [] rest).map fun (entries, rest) =>
          (.table (TableTree.entriesToToml entries), rest)
    | '"' :: _ | '\'' :: _ =>
      (string? steps cs).map fun (s, rest) => (.text (String.ofList s), rest)
    | _ => scalar? cs

/-- The items of an array up to its end. A comma may stand behind the last one. -/
def items? : Nat → Nat → List Char → Option (List Toml × List Char)
  | 0, _, _ => none
  | steps + 1, depth, cs => do
    match ← skipGap? (cs.length + 1) cs with
    | ']' :: rest => some ([], rest)
    | rest => do
      let (item, rest) ← value? steps depth rest
      match ← skipGap? (rest.length + 1) rest with
      | ',' :: rest => do
        let (items, rest) ← items? steps depth rest
        some (item :: items, rest)
      | ']' :: rest => some ([item], rest)
      | _ => none

/-- The members of a table within a line, from one of them up to the end. -/
def members? : Nat → Nat → TableTree.Entries → List Char → Option (TableTree.Entries × List Char)
  | 0, _, _, _ => none
  | steps + 1, depth, entries, cs => do
    let ((path, key), rest) ← key? (cs.length + 1) cs
    match rest with
    | '=' :: rest => do
      let (value, rest) ← value? steps depth (skipBlanks rest)
      let entries ← TableTree.put path key value .header entries
      match skipBlanks rest with
      | ',' :: rest => members? steps depth entries rest
      | '}' :: rest => some (entries, rest)
      | _ => none
    | _ => none

end

/-! ## Documents -/

/-- **A document under way**: the tables so far, and the path to the one that keys go into. -/
structure Progress where
  entries : TableTree.Entries
  current : List String

/-- Reads one statement: the progress it makes, and the text behind it. -/
def statement? (steps : Nat) (progress : Progress) :
    List Char → Option (Progress × List Char)
  | '[' :: '[' :: rest => do
    let ((path, key), rest) ← key? steps rest
    match rest with
    | ']' :: ']' :: rest =>
      let entries ← TableTree.openElement path key .header progress.entries
      some (⟨entries, path ++ [key]⟩, ← lineEnd? rest)
    | _ => none
  | '[' :: rest => do
    let ((path, key), rest) ← key? steps rest
    match rest with
    | ']' :: rest =>
      let entries ← TableTree.openTable path key .header progress.entries
      some (⟨entries, path ++ [key]⟩, ← lineEnd? rest)
    | _ => none
  | cs => do
    let ((path, key), rest) ← key? steps cs
    match rest with
    | '=' :: rest => do
      let (value, rest) ← value? steps (depthBound - 1) (skipBlanks rest)
      let entries ← TableTree.within false (TableTree.put path key value) progress.current .header
        progress.entries
      some (⟨entries, progress.current⟩, ← lineEnd? rest)
    | _ => none

/-- Reads the statements of a text. -/
def statements? : Nat → Progress → List Char → Option TableTree.Entries
  | 0, _, _ => none
  | steps + 1, progress, cs => do
    match ← skipGapToEnd? cs with
    | [] => some progress.entries
    | rest => do
      let (progress, rest) ← statement? (rest.length + 1) progress rest
      statements? steps progress rest
where
  /-- The text behind blanks, line breaks and comments, the last of which may end the text. -/
  skipGapToEnd? (cs : List Char) : Option (List Char) :=
    match lineEnds (cs.length + 1) cs with
    | some rest => some (skipBlanks rest)
    | none => none
  /-- The text behind all lines without a statement. -/
  lineEnds : Nat → List Char → Option (List Char)
    | 0, _ => none
    | _ + 1, [] => some []
    | steps + 1, cs =>
      match lineEnd? cs with
      | some rest => lineEnds steps rest
      | none => if (skipBlanks cs).head? = some '#' then none else some cs

/-- **The table of a document.** A byte order mark may open it. -/
def parse? (document : String) : Option Toml :=
  let cs := match document.toList with
    | '\uFEFF' :: rest => rest
    | cs => cs
  (statements? (cs.length + 1) ⟨[], []⟩ cs).map fun entries =>
    .table (TableTree.entriesToToml entries)

end Toml

end DomainFlow
