import DomainFlow.Json.Parser
import DomainFlow.Json.Printer
import DomainFlow.Proofs.Delimited

/-!
# Written JSON is read back

A string is read back character by character: an escape that is a letter becomes the character
itself, one that is a number becomes a code unit, and no code unit that is written is half of a pair.
Blanks are skipped wherever a layout puts them. So a written value is read back in front of any text
that does not go on with a number, and texts of several values can be taken apart.

## Main definitions

* `Json.Layout.IsBlank`: a layout that adds nothing but blanks
* `Json.Written`: a value whose numbers are read back
* `Json.Ends`: a text that does not go on with a number

## Main results

* `Json.string?_quoteTail`: a string is read back, whatever its characters are
* `Json.isNumeral_toDigits`: the decimal of a number is read back
* `Json.readsBack_of_written`: a written value is read back in front of any text that ends it
* `Json.parse?_render`: the text of a value is read back
* `Json.render_append_inj`: a value and what follows it can be told from the text of both
-/

namespace DomainFlow

namespace Json

/-! ## Strings -/

/-- The piece that a character of a string is read as. -/
def pieceOf (c : Char) : Piece :=
  if c.toNat < 0x20 ∧ c ∉ ['\n', '\r', '\t', '\x08', '\x0c'] then .codeUnit c.toNat else .char c

/-- The number of a control character is read back. -/
theorem value?_hexadecimal {n : Nat} (h : n < 0x20) :
    Numeral.value? 16 ['0', '0', Nat.digitChar (n / 16), Nat.digitChar (n % 16)] = some n := by
  have hzero : Numeral.value? 16 ['0', '0'] = some 0 := by decide
  have hhigh := Numeral.value?_concat hzero (Numeral.digitValue?_digitChar (d := n / 16) (by omega))
    (by omega)
  have hlow := Numeral.value?_concat hhigh (Numeral.digitValue?_digitChar (d := n % 16) (by omega))
    (by omega)
  rw [Nat.mul_zero, Nat.zero_add, Nat.div_add_mod] at hlow
  exact hlow

/-- **An escaped character is one piece of a literal.** -/
theorem literal?_escape (read : List Piece) (c : Char) (rest : List Char) :
    literal? read (escape c ++ rest) = literal? (pieceOf c :: read) rest := by
  fun_cases escape c
  case case8 hcontrol =>
    rw [pieceOf, if_pos (by simp_all)]
    simp only [List.cons_append, List.nil_append, literal?, value?_hexadecimal hcontrol]
  case case9 hcontrol =>
    rw [pieceOf, if_neg (by simp_all), List.singleton_append, literal?]
    · rw [if_neg hcontrol]
    all_goals simp_all
  all_goals rfl

theorem literal?_quoted (cs : List Char) (read : List Piece) (rest : List Char) :
    literal? read (cs.flatMap escape ++ '"' :: rest) =
      some (read.reverse ++ cs.map pieceOf, rest) := by
  induction cs generalizing read with
  | nil => simp [literal?]
  | cons c cs ih =>
    rw [List.flatMap_cons, List.append_assoc, literal?_escape, ih]
    simp

/-- A code unit below the halves of pairs is a character of its own, whatever follows it. -/
theorem assemble_codeUnit {n : Nat} (h : n < 0xD800) (read : List Char) (pieces : List Piece) :
    assemble read (.codeUnit n :: pieces) = assemble (Char.ofNat n :: read) pieces := by
  have hleading : isLeading n = false := by simp [isLeading]; omega
  have htrailing : isTrailing n = false := by simp [isTrailing]; omega
  cases pieces with
  | nil => simp [assemble, hleading, htrailing]
  | cons piece pieces => cases piece <;> simp [assemble, hleading, htrailing]

theorem assemble_pieceOf (read : List Char) (c : Char) (pieces : List Piece) :
    assemble read (pieceOf c :: pieces) = assemble (c :: read) pieces := by
  rw [pieceOf]
  split
  · next h =>
    rw [assemble_codeUnit (by omega), Char.ofNat_toNat]
  · rw [assemble]

/-- The pieces of a written string spell it. -/
theorem assemble_pieces (cs : List Char) (read : List Char) :
    assemble read (cs.map pieceOf) = some (read.reverse ++ cs) := by
  induction cs generalizing read with
  | nil => simp [assemble]
  | cons c cs ih =>
    rw [List.map_cons, assemble_pieceOf, ih]
    simp

/-- What a string literal holds behind its opening quote. -/
def quoteTail : Option String → List Char
  | some s => s.toList.flatMap escape ++ ['"']
  | none => ['\\', 'u', 'd', '8', '0', '0', '"']

theorem quote_eq (s : Option String) : quote s = '"' :: quoteTail s := by
  cases s <;> rfl

/-- **A string is read back**, whatever its characters are. -/
theorem string?_quoteTail (s : Option String) (rest : List Char) :
    string? (quoteTail s ++ rest) = some (s, rest) := by
  cases s with
  | none =>
    have hread : literal? [] (quoteTail none ++ rest) = some ([.codeUnit 0xD800], rest) := rfl
    rw [string?, hread]
    rfl
  | some s =>
    rw [string?, quoteTail, List.append_assoc, List.singleton_append, literal?_quoted]
    simp [assemble_pieces]

/-! ## Blanks -/

theorem skipBlanks_append {blanks : List Char} (h : ∀ c ∈ blanks, isBlank c = true)
    (rest : List Char) : skipBlanks (blanks ++ rest) = skipBlanks rest :=
  List.dropWhile_append_of_pos h

theorem skipBlanks_of_not_isBlank {c : Char} (h : isBlank c = false) (rest : List Char) :
    skipBlanks (c :: rest) = c :: rest := by
  rw [skipBlanks, List.dropWhile_cons, h, if_neg (by decide)]

/-- **A layout that adds nothing but blanks.** -/
structure Layout.IsBlank (layout : Layout) : Prop where
  gap : ∀ depth, ∀ c ∈ layout.gap depth, isBlank c = true
  afterColon : ∀ c ∈ layout.afterColon, isBlank c = true

theorem Layout.isBlank_compact : Layout.compact.IsBlank := ⟨nofun, nofun⟩

theorem Layout.isBlank_indented : Layout.indented.IsBlank where
  gap depth c hc := by
    rcases List.mem_cons.1 hc with rfl | hc
    · decide
    · rw [List.eq_of_mem_replicate hc]
      decide
  afterColon c hc := by
    rw [List.mem_singleton.1 hc]
    decide

/-- Blanks in front of a value do not matter. -/
theorem value?_append {blanks : List Char} (h : ∀ c ∈ blanks, isBlank c = true) (steps : Nat)
    (rest : List Char) : value? steps (blanks ++ rest) = value? steps rest := by
  cases steps with
  | zero => rw [value?, value?]
  | succ steps => rw [value?, value?, skipBlanks_append h]

theorem items?_append {blanks : List Char} (h : ∀ c ∈ blanks, isBlank c = true) (steps : Nat)
    (rest : List Char) : items? steps (blanks ++ rest) = items? steps rest := by
  cases steps with
  | zero => rw [items?, items?]
  | succ steps => rw [items?, items?, skipBlanks_append h]

theorem members?_append {blanks : List Char} (h : ∀ c ∈ blanks, isBlank c = true) (steps : Nat)
    (rest : List Char) : members? steps (blanks ++ rest) = members? steps rest := by
  cases steps with
  | zero => rw [members?, members?]
  | succ steps => rw [members?, members?, skipBlanks_append h]

/-- **The key of a member is read back.** -/
theorem key?_quote {blanks : List Char} (h : ∀ c ∈ blanks, isBlank c = true)
    (key : Option String) (rest : List Char) :
    key? (blanks ++ (quote key ++ ':' :: rest)) = some (key, rest) := by
  rw [key?, skipBlanks_append h, quote_eq, List.cons_append, skipBlanks_of_not_isBlank (by decide)]
  simp only [string?_quoteTail, Option.bind_eq_bind, Option.bind_some]
  rw [skipBlanks_of_not_isBlank (by decide)]
  rfl

/-! ## Numbers -/

/-- **A text that does not go on with a number.** -/
def Ends (rest : List Char) : Prop :=
  ∀ c ∈ rest.head?, c.isDigit = false ∧ c ≠ '.' ∧ c ≠ 'e' ∧ c ≠ 'E'

/-- A literal of a number that is read back in front of any text that ends it. -/
structure IsNumeral (literal : List Char) : Prop where
  head : ∃ c ∈ literal.head?, c.isDigit = true ∨ c = '-'
  number? : ∀ rest, Ends rest → Json.number? (literal ++ rest) = some (literal, rest)

theorem digits?_append {digits : List Char} (hne : digits ≠ [])
    (hdigits : ∀ c ∈ digits, c.isDigit = true) {rest : List Char} (hrest : Ends rest) :
    digits? (digits ++ rest) = some (digits, rest) := by
  have htake : rest.takeWhile Char.isDigit = [] := by
    cases rest with
    | nil => rfl
    | cons c rest => rw [List.takeWhile_cons, (hrest c rfl).1, if_neg (by decide)]
  have hdrop : rest.dropWhile Char.isDigit = rest := by
    cases rest with
    | nil => rfl
    | cons c rest => rw [List.dropWhile_cons, (hrest c rfl).1, if_neg (by decide)]
  rw [digits?, List.takeWhile_append_of_pos hdigits, List.dropWhile_append_of_pos hdigits, htake,
    hdrop, List.append_nil, if_neg (by simpa using hne)]

theorem fraction?_of_ends {rest : List Char} (h : Ends rest) :
    fraction? rest = some ([], rest) := by
  rw [fraction?]
  rintro tail rfl
  exact (h '.' rfl).2.1 rfl

theorem exponent?_of_ends {rest : List Char} (h : Ends rest) :
    exponent? rest = some ([], rest) := by
  cases rest with
  | nil => rfl
  | cons c rest => rw [exponent?, if_neg (not_or.2 (h c rfl).2.2)]

/-- The decimal of a positive number begins with a digit other than zero. -/
theorem head_toDigits {n : Nat} (h : 0 < n) :
    ∃ d tail, Nat.toDigits 10 n = Nat.digitChar d :: tail ∧ 0 < d ∧ d < 10 := by
  induction n using Nat.strongRecOn with
  | _ n ih =>
    rcases Nat.lt_or_ge n 10 with hlt | hge
    · exact ⟨n, [], Nat.toDigits_of_lt_base hlt, h, hlt⟩
    · obtain ⟨d, tail, htail, hd⟩ := ih (n / 10) (by omega) (by omega)
      refine ⟨d, tail ++ [Nat.digitChar (n % 10)], ?_, hd⟩
      rw [Nat.toDigits_of_base_le (by decide) hge, htail, List.cons_append]

/-- The whole part of a decimal is all of it. -/
theorem integerPart?_toDigits (n : Nat) {rest : List Char} (hrest : Ends rest) :
    integerPart? (Nat.toDigits 10 n ++ rest) = some (Nat.toDigits 10 n, rest) := by
  rcases Nat.eq_zero_or_pos n with rfl | hpos
  · rfl
  · obtain ⟨d, tail, htail, hd, hd10⟩ := head_toDigits hpos
    have hzero : Nat.digitChar d ≠ '0' := by
      interval_cases d <;> decide
    rw [integerPart?]
    · exact digits?_append Nat.toDigits_ne_nil
        (fun c hc => Nat.isDigit_of_mem_toDigits (by decide) (by decide) hc) hrest
    · intro rest' heq
      rw [htail, List.cons_append] at heq
      exact hzero (List.cons.inj heq).1

/-- **The decimal of a number is read back.** -/
theorem isNumeral_toDigits (n : Nat) : IsNumeral (Nat.toDigits 10 n) := by
  have hdigit : ∀ c ∈ Nat.toDigits 10 n, c.isDigit = true :=
    fun c hc => Nat.isDigit_of_mem_toDigits (by decide) (by decide) hc
  obtain ⟨c, tail, htail⟩ := List.exists_cons_of_ne_nil (Nat.toDigits_ne_nil (n := n) (b := 10))
  refine ⟨⟨c, by rw [htail]; rfl, .inl (hdigit c (by rw [htail]; exact List.mem_cons_self))⟩,
    fun rest hrest => ?_⟩
  have hunsigned : unsigned? (Nat.toDigits 10 n ++ rest) = some (Nat.toDigits 10 n, rest) := by
    simp only [unsigned?, integerPart?_toDigits n hrest, fraction?_of_ends hrest,
      exponent?_of_ends hrest, Option.bind_eq_bind, Option.bind_some, List.append_nil]
  rw [Json.number?]
  · exact hunsigned
  · intro rest' heq
    rw [htail, List.cons_append] at heq
    have hminus := hdigit c (by rw [htail]; exact List.mem_cons_self)
    rw [(List.cons.inj heq).1] at hminus
    exact absurd hminus (by decide)

/-! ## Values -/

/-- **A value whose numbers are read back.** -/
inductive Written : Json → Prop
  | null : Written .null
  | bool (b : Bool) : Written (.bool b)
  | num {literal : String} : IsNumeral literal.toList → Written (.num literal)
  | str (s : Option String) : Written (.str s)
  | arr {items : List Json} : (∀ item ∈ items, Written item) → Written (.arr items)
  | obj {members : List (Option String × Json)} :
    (∀ member ∈ members, Written member.2) → Written (.obj members)

theorem written_text (s : String) : Written (text s) := .str _

theorem written_nat (n : Nat) : Written (nat n) :=
  .num (by rw [String.toList_ofList]; exact isNumeral_toDigits n)

theorem written_ofList {α : Type} {f : α → Json} {l : List α} (h : ∀ a ∈ l, Written (f a)) :
    Written (ofList f l) :=
  .arr (List.forall_mem_map.2 h)

theorem written_ofOption {α : Type} {f : α → Json} (h : ∀ a, Written (f a)) (o : Option α) :
    Written (ofOption f o) := by
  cases o with
  | none => exact .null
  | some a => exact h a

theorem written_object {members : List (String × Json)} (h : ∀ m ∈ members, Written m.2) :
    Written (object members) :=
  .obj (List.forall_mem_map.2 h)

section Reading

variable {layout : Layout} (hlayout : layout.IsBlank)

/-- A value that is read back wherever it is written, given as many steps as its text has
characters. -/
def ReadsBack (layout : Layout) (j : Json) : Prop :=
  ∀ (depth steps : Nat) (rest : List Char), Ends rest → (render layout depth j).length < steps →
    value? steps (render layout depth j ++ rest) = some (j, rest)

/-- Some step is always left for the first character of a value. -/
theorem readsBack_of_succ {j : Json}
    (h : ∀ (depth steps : Nat) (rest : List Char), Ends rest →
      (render layout depth j).length ≤ steps →
      value? (steps + 1) (render layout depth j ++ rest) = some (j, rest)) :
    ReadsBack layout j := by
  intro depth steps rest hrest hsteps
  obtain ⟨steps, rfl⟩ := Nat.exists_eq_succ_of_ne_zero (Nat.ne_zero_of_lt hsteps)
  exact h depth steps rest hrest (Nat.le_of_lt_succ hsteps)

theorem ends_append {blanks rest : List Char} (h : ∀ c ∈ blanks, isBlank c = true)
    (hrest : Ends rest) : Ends (blanks ++ rest) := by
  cases blanks with
  | nil => exact hrest
  | cons c blanks =>
    intro d hd
    obtain rfl : c = d := Option.some.inj hd
    have hblank := h c List.mem_cons_self
    simp only [isBlank, Bool.or_eq_true, beq_iff_eq] at hblank
    rcases hblank with ((rfl | rfl) | rfl) | rfl <;> decide

theorem ends_cons {c : Char} (h : c.isDigit = false ∧ c ≠ '.' ∧ c ≠ 'e' ∧ c ≠ 'E')
    (rest : List Char) : Ends (c :: rest) := by
  intro d hd
  obtain rfl : c = d := Option.some.inj hd
  exact h

theorem ends_nil : Ends [] := by
  rintro c ⟨⟩

theorem ends_render_arr (layout : Layout) (depth : Nat) (items : List Json) (rest : List Char) :
    Ends (render layout depth (.arr items) ++ rest) := by
  cases items <;> exact ends_cons (by decide) _

theorem ends_render_obj (layout : Layout) (depth : Nat) (members : List (Option String × Json))
    (rest : List Char) : Ends (render layout depth (.obj members) ++ rest) := by
  cases members <;> exact ends_cons (by decide) _

theorem not_isBlank_of_numeral {c : Char} (h : c.isDigit = true ∨ c = '-') : isBlank c = false := by
  rw [Bool.eq_false_iff]
  intro hblank
  simp only [isBlank, Bool.or_eq_true, beq_iff_eq] at hblank
  rcases hblank with ((rfl | rfl) | rfl) | rfl <;> revert h <;> decide

/-- A value that begins like a number is a number. -/
theorem value?_of_numeral {c : Char} (h : c.isDigit = true ∨ c = '-') (steps : Nat)
    (rest : List Char) :
    value? (steps + 1) (c :: rest) =
      (number? (c :: rest)).map fun (literal, rest) => (.num (String.ofList literal), rest) := by
  rw [value?, skipBlanks_of_not_isBlank (not_isBlank_of_numeral h)]
  split
  case h_7 => rfl
  all_goals
    next heq =>
      rw [(List.cons.inj heq).1] at h
      exact absurd h (by decide)

/-- A written value begins with no blank, and it does not close an array. -/
theorem head_render {j : Json} (h : Written j) (layout : Layout) (depth : Nat) :
    ∃ c tail, render layout depth j = c :: tail ∧ isBlank c = false ∧ c ≠ ']' := by
  cases h with
  | null => exact ⟨_, _, rfl, by decide, by decide⟩
  | bool b => cases b <;> exact ⟨_, _, rfl, by decide, by decide⟩
  | @num literal hnumeral =>
    obtain ⟨c, hhead, hc⟩ := hnumeral.head
    obtain ⟨tail, htail⟩ := List.head?_eq_some_iff.1 hhead
    exact ⟨c, tail, htail, not_isBlank_of_numeral hc, by rintro rfl; revert hc; decide⟩
  | str s => exact ⟨_, _, quote_eq s, by decide, by decide⟩
  | @arr items _ => cases items <;> exact ⟨_, _, rfl, by decide, by decide⟩
  | @obj members _ => cases members <;> exact ⟨_, _, rfl, by decide, by decide⟩

include hlayout

theorem ends_renderItems (items : List Json) (depth : Nat) (rest : List Char) :
    Ends (renderItems layout depth items ++ rest) := by
  cases items with
  | nil =>
    rw [renderItems, List.append_assoc]
    exact ends_append (hlayout.gap depth) (ends_cons (by decide) rest)
  | cons item items => exact ends_cons (by decide) _

theorem ends_renderMembers (members : List (Option String × Json)) (depth : Nat)
    (rest : List Char) : Ends (renderMembers layout depth members ++ rest) := by
  cases members with
  | nil =>
    rw [renderMembers, List.append_assoc]
    exact ends_append (hlayout.gap depth) (ends_cons (by decide) rest)
  | cons member members => exact ends_cons (by decide) _

theorem items?_renderItems {items : List Json} (h : ∀ item ∈ items, ReadsBack layout item)
    (depth steps : Nat) (rest : List Char)
    (hsteps : (renderItems layout depth items).length < steps) :
    items? steps (renderItems layout depth items ++ rest) = some (items, rest) := by
  induction items generalizing steps with
  | nil =>
    rw [renderItems, List.append_assoc, items?_append (hlayout.gap depth)]
    obtain ⟨steps, rfl⟩ := Nat.exists_eq_succ_of_ne_zero (Nat.ne_zero_of_lt hsteps)
    rw [List.singleton_append, items?, skipBlanks_of_not_isBlank (by decide)]
    rfl
  | cons item items ih =>
    simp only [renderItems, List.length_cons, List.length_append] at hsteps
    obtain ⟨steps, rfl⟩ := Nat.exists_eq_succ_of_ne_zero (Nat.ne_zero_of_lt hsteps)
    have hitem := h item List.mem_cons_self (depth + 1) steps
      (renderItems layout depth items ++ rest) (ends_renderItems hlayout items depth rest) (by omega)
    have hitems := ih (fun i hi => h i (List.mem_cons_of_mem _ hi)) steps (by omega)
    rw [renderItems, List.cons_append, items?, skipBlanks_of_not_isBlank (by decide)]
    simp only [List.append_assoc, value?_append (hlayout.gap (depth + 1)), hitem, hitems,
      Option.bind_eq_bind, Option.bind_some]

theorem members?_renderMembers {members : List (Option String × Json)}
    (h : ∀ member ∈ members, ReadsBack layout member.2) (depth steps : Nat) (rest : List Char)
    (hsteps : (renderMembers layout depth members).length < steps) :
    members? steps (renderMembers layout depth members ++ rest) = some (members, rest) := by
  induction members generalizing steps with
  | nil =>
    rw [renderMembers, List.append_assoc, members?_append (hlayout.gap depth)]
    obtain ⟨steps, rfl⟩ := Nat.exists_eq_succ_of_ne_zero (Nat.ne_zero_of_lt hsteps)
    rw [List.singleton_append, members?, skipBlanks_of_not_isBlank (by decide)]
    rfl
  | cons member members ih =>
    obtain ⟨key, value⟩ := member
    simp only [renderMembers, List.length_cons, List.length_append] at hsteps
    obtain ⟨steps, rfl⟩ := Nat.exists_eq_succ_of_ne_zero (Nat.ne_zero_of_lt hsteps)
    have hvalue := h (key, value) List.mem_cons_self (depth + 1) steps
      (renderMembers layout depth members ++ rest)
      (ends_renderMembers hlayout members depth rest) (by dsimp only; omega)
    have hmembers := ih (fun m hm => h m (List.mem_cons_of_mem _ hm)) steps (by omega)
    rw [renderMembers, List.cons_append, members?, skipBlanks_of_not_isBlank (by decide)]
    simp only [List.append_assoc, List.cons_append, key?_quote (hlayout.gap (depth + 1)),
      value?_append hlayout.afterColon, hvalue, hmembers, Option.bind_eq_bind, Option.bind_some]

/-- **A written value is read back** in front of any text that ends it. -/
theorem readsBack_of_written {j : Json} (h : Written j) : ReadsBack layout j := by
  induction h with
  | null => exact readsBack_of_succ fun _ _ _ _ _ => rfl
  | bool b => cases b <;> exact readsBack_of_succ fun _ _ _ _ _ => rfl
  | @num literal hnumeral =>
    refine readsBack_of_succ fun depth steps rest hrest _ => ?_
    obtain ⟨c, hhead, hc⟩ := hnumeral.head
    obtain ⟨tail, htail⟩ := List.head?_eq_some_iff.1 hhead
    have hread := hnumeral.number? rest hrest
    rw [render]
    rw [htail, List.cons_append] at hread ⊢
    rw [value?_of_numeral hc, hread, ← htail]
    simp
  | str s =>
    refine readsBack_of_succ fun depth steps rest _ _ => ?_
    rw [render, quote_eq, List.cons_append, value?, skipBlanks_of_not_isBlank (by decide)]
    simp only [string?_quoteTail, Option.map_some]
  | @arr items hitems ih =>
    refine readsBack_of_succ fun depth steps rest _ hsteps => ?_
    cases items with
    | nil => rfl
    | cons item items =>
      simp only [render, List.length_cons, List.length_append] at hsteps
      have hitem := ih item List.mem_cons_self (depth + 1) steps
        (renderItems layout depth items ++ rest)
        (ends_renderItems hlayout items depth rest) (by omega)
      have hrestItems := items?_renderItems hlayout (fun i hi => ih i (List.mem_cons_of_mem _ hi))
        depth steps rest (by omega)
      -- the item begins with no bracket, so the array is not taken for an empty one
      obtain ⟨c, tail, hc, hblank, hbracket⟩ :=
        head_render (hitems item List.mem_cons_self) layout (depth + 1)
      rw [render, List.cons_append, value?, skipBlanks_of_not_isBlank (by decide)]
      simp only [List.append_assoc, skipBlanks_append (hlayout.gap (depth + 1))]
      rw [hc, List.cons_append, skipBlanks_of_not_isBlank hblank, ← List.cons_append, ← hc]
      split
      · next heq =>
        rw [hc] at heq
        exact absurd (List.cons.inj heq).1 hbracket
      · simp only [hitem, hrestItems, Option.bind_eq_bind, Option.bind_some]
  | @obj members _ ih =>
    refine readsBack_of_succ fun depth steps rest _ hsteps => ?_
    cases members with
    | nil => rfl
    | cons member members =>
      obtain ⟨key, value⟩ := member
      simp only [render, List.length_cons, List.length_append] at hsteps
      have hvalue := ih (key, value) List.mem_cons_self (depth + 1) steps
        (renderMembers layout depth members ++ rest)
        (ends_renderMembers hlayout members depth rest) (by dsimp only; omega)
      have hrestMembers := members?_renderMembers hlayout
        (fun m hm => ih m (List.mem_cons_of_mem _ hm)) depth steps rest (by omega)
      have hkey := key?_quote (List.forall_mem_nil _) key
        (layout.afterColon ++ (render layout (depth + 1) value ++
          (renderMembers layout depth members ++ rest)))
      rw [render, List.cons_append, value?, skipBlanks_of_not_isBlank (by decide)]
      simp only [List.append_assoc, List.cons_append, skipBlanks_append (hlayout.gap (depth + 1))]
      rw [List.nil_append, quote_eq, List.cons_append] at hkey
      rw [quote_eq, List.cons_append, skipBlanks_of_not_isBlank (by decide)]
      split
      · next heq => exact absurd (List.cons.inj heq).1 (by decide)
      · simp only [hkey, value?_append hlayout.afterColon, hvalue, hrestMembers,
          Option.bind_eq_bind, Option.bind_some]

end Reading

/-- **The text of a value is read back**, however blanks are laid out in it. -/
theorem parse?_render {layout : Layout} (hlayout : layout.IsBlank) {j : Json} (h : Written j) :
    parse? (String.ofList (j.render layout 0)) = some j := by
  have hread := readsBack_of_written hlayout h 0 ((j.render layout 0).length + 1) []
    ends_nil (Nat.lt_succ_self _)
  rw [List.append_nil] at hread
  rw [parse?, String.toList_ofList, hread]
  rfl

theorem parse?_toCompact {j : Json} (h : Written j) : parse? j.toCompact = some j :=
  parse?_render Layout.isBlank_compact h

theorem parse?_toIndented {j : Json} (h : Written j) : parse? j.toIndented = some j :=
  parse?_render Layout.isBlank_indented h

/-- **A value and what follows it can be told from the text of both.** -/
theorem render_append_inj {layout : Layout} (hlayout : layout.IsBlank) {a b : Json}
    (ha : Written a) (hb : Written b) {r s : List Char} (hr : Ends r) (hs : Ends s)
    (h : a.render layout 0 ++ r = b.render layout 0 ++ s) : a = b ∧ r = s := by
  -- one reader, with enough steps for either text, reads both values back
  have hreadA := readsBack_of_written hlayout ha 0
    ((a.render layout 0).length + (b.render layout 0).length + 1) r hr (by omega)
  have hreadB := readsBack_of_written hlayout hb 0
    ((a.render layout 0).length + (b.render layout 0).length + 1) s hs (by omega)
  rw [h, hreadB] at hreadA
  cases hreadA
  exact ⟨rfl, rfl⟩

end Json

end DomainFlow
