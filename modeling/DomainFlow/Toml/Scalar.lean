import DomainFlow.Text
import DomainFlow.Toml.Basic

/-!
# Scalars of TOML

The literals of booleans, numbers, dates and times. A literal is a run of characters that no other
part of a document can continue, so it is taken whole and then judged.

## Main definitions

* `isIntegerLiteral`, `isFloatLiteral`, `isMomentLiteral`: the forms of literals
* `Toml.scalar?`: the value of a literal at the front of a text
-/

namespace DomainFlow

namespace Toml

/-- The blanks within a line. -/
def isBlank (c : Char) : Bool := c == ' ' || c == '\t'

/-- The text behind its leading blanks. -/
def skipBlanks (cs : List Char) : List Char := cs.dropWhile isBlank

/-! ## Numbers -/

/-- The digits of a literal without the underscores that separate them. An underscore stands
between two digits. -/
def ungroup? (isDigit : Char → Bool) : List Char → Option (List Char)
  | [] => none
  | [c] => if isDigit c then some [c] else none
  | c :: '_' :: rest => if isDigit c then (ungroup? isDigit rest).map (c :: ·) else none
  | c :: rest => if isDigit c then (ungroup? isDigit rest).map (c :: ·) else none

/-- Whether a character belongs to a run of grouped digits. -/
def inDigitRun (c : Char) : Bool := c.isDigit || c == '_'

/-- The sign of a number, and the rest: whether it is negative. -/
def splitSign : List Char → Bool × List Char
  | '-' :: rest => (true, rest)
  | '+' :: rest => (false, rest)
  | cs => (false, cs)

/-- The digits of a decimal integer: zero alone, or digits that do not begin with zero. -/
def wholeDigits? (cs : List Char) : Option (List Char) :=
  match ungroup? Char.isDigit cs with
  | some ('0' :: _ :: _) => none
  | digits => digits

/-- The number beyond the largest integer. -/
def integerBound : Nat := Nat.pow 2 63

/-- Whether a literal with a base has digits of that base, and no more than an integer can hold. -/
def isBasedLiteral (base : Nat) (cs : List Char) : Bool :=
  match (ungroup? (Numeral.isDigitOf base) cs).bind (Numeral.value? base) with
  | some n => n < integerBound
  | none => false

/-- **Whether a literal is an integer** of sixty-four bits. -/
def isIntegerLiteral : List Char → Bool
  | '0' :: 'x' :: rest => isBasedLiteral 16 rest
  | '0' :: 'o' :: rest => isBasedLiteral 8 rest
  | '0' :: 'b' :: rest => isBasedLiteral 2 rest
  | cs =>
    let (negative, rest) := splitSign cs
    match (wholeDigits? rest).bind (Numeral.value? 10) with
    | some n => n < integerBound || (negative && n == integerBound)
    | none => false

/-- The digits of a fraction, none where there is no point, and the rest. -/
def fractionDigits? : List Char → Option (List Char × List Char)
  | '.' :: rest =>
    (ungroup? Char.isDigit (rest.takeWhile inDigitRun)).map fun digits =>
      (digits, rest.dropWhile inDigitRun)
  | cs => some ([], cs)

/-- The value of an exponent, zero where there is none. Nothing follows it. -/
def exponentValue? : List Char → Option Int
  | [] => some 0
  | c :: rest =>
    if c = 'e' ∨ c = 'E' then
      let (negative, digits) := splitSign rest
      ((ungroup? Char.isDigit digits).bind (Numeral.value? 10)).map fun n =>
        if negative then -(n : Int) else n
    else none

/-- The least number that no double holds: halfway from the largest double to the next power of
two. -/
def floatBound : Nat := Nat.pow 2 1024 - Nat.pow 2 970

/-- Whether digits with a decimal exponent write a number that no double holds. The number of
digits settles all but the close cases. -/
def exceedsFloat (digits : List Char) (exponent : Int) : Bool :=
  let significant := digits.dropWhile (· == '0')
  let magnitude := (significant.length : Int) + exponent
  match Numeral.value? 10 significant with
  | none => false
  | some n =>
    if magnitude < 300 then false
    else if 400 < magnitude then true
    else n * Nat.pow 10 exponent.toNat ≥ floatBound * Nat.pow 10 (-exponent).toNat

/-- **Whether a literal is a floating-point number.** A positive one has to be finite. -/
def isFloatLiteral (cs : List Char) : Bool :=
  let (negative, rest) := splitSign cs
  if rest = ['i', 'n', 'f'] ∨ rest = ['n', 'a', 'n'] then true
  else
    let tail := rest.dropWhile inDigitRun
    let parts : Option (List Char × Int) := do
      guard (tail ≠ [])
      let whole ← wholeDigits? (rest.takeWhile inDigitRun)
      let (fraction, tail) ← fractionDigits? tail
      let exponent ← exponentValue? tail
      some (whole ++ fraction, exponent - fraction.length)
    match parts with
    | some (digits, exponent) => negative || !exceedsFloat digits exponent
    | none => false

/-! ## Dates and times -/

/-- The number of two digits, if it is in a range. -/
def twoDigits? (low high : Nat) (a b : Char) : Option Nat :=
  if a.isDigit ∧ b.isDigit then
    let n := 10 * (a.toNat - '0'.toNat) + (b.toNat - '0'.toNat)
    if low ≤ n ∧ n ≤ high then some n else none
  else none

/-- The number of days in a month. -/
def daysIn (year month : Nat) : Nat :=
  match month with
  | 2 => if year % 4 = 0 ∧ (year % 100 ≠ 0 ∨ year % 400 = 0) then 29 else 28
  | 4 | 6 | 9 | 11 => 30
  | _ => 31

/-- Takes a date off the front of a literal. -/
def dropDate? : List Char → Option (List Char)
  | y₁ :: y₂ :: y₃ :: y₄ :: '-' :: m₁ :: m₂ :: '-' :: d₁ :: d₂ :: rest => do
    let century ← twoDigits? 0 99 y₁ y₂
    let year ← twoDigits? 0 99 y₃ y₄
    let month ← twoDigits? 1 12 m₁ m₂
    let day ← twoDigits? 1 31 d₁ d₂
    guard (day ≤ daysIn (100 * century + year) month)
    some rest
  | _ => none

/-- Takes the fraction of a second off the front of a literal. -/
def dropFraction? : List Char → Option (List Char)
  | '.' :: rest =>
    if (rest.takeWhile Char.isDigit).isEmpty then none else some (rest.dropWhile Char.isDigit)
  | cs => some cs

/-- Takes a time off the front of a literal. -/
def dropTime? : List Char → Option (List Char)
  | h₁ :: h₂ :: ':' :: m₁ :: m₂ :: ':' :: s₁ :: s₂ :: rest => do
    discard (twoDigits? 0 23 h₁ h₂)
    discard (twoDigits? 0 59 m₁ m₂)
    discard (twoDigits? 0 60 s₁ s₂)
    dropFraction? rest
  | _ => none

/-- Whether a text is nothing, or the offset of a time. -/
def isOffset : List Char → Bool
  | [] | ['Z'] | ['z'] => true
  | [sign, h₁, h₂, ':', m₁, m₂] =>
    (sign == '+' || sign == '-') && (twoDigits? 0 23 h₁ h₂).isSome && (twoDigits? 0 59 m₁ m₂).isSome
  | _ => false

/-- Whether a text is a time with an optional offset. -/
def isTimeWithOffset (cs : List Char) : Bool :=
  match dropTime? cs with
  | some rest => isOffset rest
  | none => false

/-- **Whether a literal is a date, a time, or both.** Only a time with a date has an offset. -/
def isMomentLiteral (cs : List Char) : Bool :=
  match dropDate? cs with
  | some [] => true
  | some (c :: rest) => (c == 'T' || c == 't' || c == ' ') && isTimeWithOffset rest
  | none => dropTime? cs == some []

/-! ## Literals -/

/-- The characters of literals. -/
def inLiteral (c : Char) : Bool :=
  c.isAlphanum || c == '+' || c == '-' || c == '_' || c == '.' || c == ':'

/-- The literal at the front of a text, and the rest. A blank between a date and a digit belongs to
the literal. -/
def splitLiteral (cs : List Char) : List Char × List Char :=
  let first := cs.takeWhile inLiteral
  match dropDate? first, cs.dropWhile inLiteral with
  | some [], ' ' :: c :: rest =>
    if c.isDigit then
      (first ++ ' ' :: (c :: rest).takeWhile inLiteral, (c :: rest).dropWhile inLiteral)
    else (first, ' ' :: c :: rest)
  | _, rest => (first, rest)

/-- The value of a whole literal. -/
def ofLiteral? (literal : List Char) : Option Toml :=
  if literal = ['t', 'r', 'u', 'e'] then some (.bool true)
  else if literal = ['f', 'a', 'l', 's', 'e'] then some (.bool false)
  else if isIntegerLiteral literal || isFloatLiteral literal || isMomentLiteral literal then
    some (.scalar (String.ofList literal))
  else none

/-- **The value of the literal at the front of a text.** -/
def scalar? (cs : List Char) : Option (Toml × List Char) :=
  (ofLiteral? (splitLiteral cs).1).map fun value => (value, (splitLiteral cs).2)

end Toml

end DomainFlow
