import Mathlib.Logic.Function.Basic
import Mathlib.Tactic.IntervalCases
import DomainFlow.Text

/-!
# Notations that end by themselves

Values written one after another without separators can be told apart if each of them shows where it
ends. A notation of this kind has a reader that takes a written value off any text; where a list of
such values is closed by a mark that begins no value, the list ends by itself as well.

## Main definitions

* `SelfDelimiting`: a notation that shows where a value ends, whatever follows

## Main results

* `Numeral.value?_toDigits`: a numeral in a base up to sixteen is read back
* `SelfDelimiting.of_reader`: what a reader takes off any text ends by itself
* `SelfDelimiting.closed`: a list of values behind which a mark stands
* `SelfDelimiting.flatMap_injective`: a list of values that nothing follows
-/

namespace DomainFlow

/-! ## Numerals -/

namespace Numeral

theorem digitValue?_digitChar {d : Nat} (h : d < 16) :
    digitValue? (Nat.digitChar d) = some d := by
  interval_cases d <;> rfl

theorem value?_singleton {base d : Nat} {c : Char} (hc : digitValue? c = some d) (hd : d < base) :
    value? base [c] = some d := by
  simp [value?, isDigitOf, hc, hd]

/-- One more digit at the end of a numeral. -/
theorem value?_concat {base n d : Nat} {digits : List Char} {c : Char}
    (h : value? base digits = some n) (hc : digitValue? c = some d) (hd : d < base) :
    value? base (digits ++ [c]) = some (base * n + d) := by
  obtain ⟨⟨-, hall⟩, hn⟩ := Option.ite_none_right_eq_some.1 h
  rw [value?, if_pos, List.foldl_append, Option.some.inj hn]
  · simp [hc]
  · simp [hall, isDigitOf, hc, hd]

/-- **A numeral is read back.** -/
theorem value?_toDigits {base : Nat} (hbase : 1 < base) (h16 : base ≤ 16) (n : Nat) :
    value? base (Nat.toDigits base n) = some n := by
  induction n using Nat.strongRecOn with
  | _ n ih =>
    rcases Nat.lt_or_ge n base with hlt | hge
    · rw [Nat.toDigits_of_lt_base hlt]
      exact value?_singleton (digitValue?_digitChar (by omega)) hlt
    · have hmod : n % base < base := Nat.mod_lt n (by omega)
      have hfront := ih (n / base) (Nat.div_lt_self (by omega) hbase)
      rw [Nat.toDigits_of_base_le hbase hge,
        value?_concat hfront (digitValue?_digitChar (by omega)) hmod, Nat.div_add_mod]

/-- Digits of a numeral are digits. -/
theorem isDigitOf_of_value? {base n : Nat} {digits : List Char} (h : value? base digits = some n)
    {c : Char} (hc : c ∈ digits) : isDigitOf base c = true :=
  List.all_eq_true.1 (Option.ite_none_right_eq_some.1 h).1.2 c hc

end Numeral

/-! ## Self-delimiting notations -/

/-- Of two texts that neither begins with the other, continuations differ. -/
theorem append_ne_append {p q : List Char} (h : ¬p <+: q) (h' : ¬q <+: p) (r s : List Char) :
    p ++ r ≠ q ++ s := by
  intro heq
  have hp : p <+: q ++ s := heq ▸ List.prefix_append p r
  exact (List.prefix_or_prefix_of_prefix hp (List.prefix_append q s)).elim h h'

/-- **A notation that shows where a value ends**: from a text that begins with a written value, the
value and the rest of the text can be told. -/
def SelfDelimiting {α : Type} (write : α → List Char) : Prop :=
  ∀ (a b : α) (r s : List Char), write a ++ r = write b ++ s → a = b ∧ r = s

namespace SelfDelimiting

variable {α : Type} {write : α → List Char}

theorem of_reader (read : List Char → Option (α × List Char))
    (h : ∀ a rest, read (write a ++ rest) = some (a, rest)) : SelfDelimiting write := by
  intro a b r s heq
  have hread : some (a, r) = some (b, s) := by rw [← h a r, heq, h b s]
  cases hread
  exact ⟨rfl, rfl⟩

/-- A value between fixed texts. -/
theorem between (h : SelfDelimiting write) (front back : List Char) :
    SelfDelimiting fun a => front ++ write a ++ back := by
  intro a b r s heq
  simp only [List.append_assoc, List.append_cancel_left_eq] at heq
  obtain ⟨rfl, hrest⟩ := h _ _ _ _ heq
  exact ⟨rfl, List.append_cancel_left hrest⟩

/-- **A list of values closed by a mark** that begins no value. -/
theorem closed (h : SelfDelimiting write) {mark : Char}
    (hmark : ∀ a, ∃ c ∈ (write a).head?, c ≠ mark) {l l' : List α} {r s : List Char}
    (heq : l.flatMap write ++ mark :: r = l'.flatMap write ++ mark :: s) : l = l' ∧ r = s := by
  have hne : ∀ (a : α) (r s : List Char), mark :: r ≠ write a ++ s := by
    intro a r s heq
    obtain ⟨c, hc, hcm⟩ := hmark a
    obtain ⟨tail, htail⟩ := List.head?_eq_some_iff.1 hc
    rw [htail, List.cons_append] at heq
    exact hcm (List.cons.inj heq).1.symm
  induction l generalizing l' with
  | nil =>
    cases l' with
    | nil => exact ⟨rfl, (List.cons.inj heq).2⟩
    | cons b l' =>
      rw [List.flatMap_cons, List.append_assoc] at heq
      exact absurd heq (hne b _ _)
  | cons a l ih =>
    cases l' with
    | nil =>
      rw [List.flatMap_cons, List.append_assoc] at heq
      exact absurd heq.symm (hne a _ _)
    | cons b l' =>
      rw [List.flatMap_cons, List.flatMap_cons, List.append_assoc, List.append_assoc] at heq
      obtain ⟨rfl, htail⟩ := h _ _ _ _ heq
      obtain ⟨rfl, hrest⟩ := ih htail
      exact ⟨rfl, hrest⟩

/-- **A list of values that nothing follows.** -/
theorem flatMap_injective (h : SelfDelimiting write) (hne : ∀ a, write a ≠ []) :
    Function.Injective fun l : List α => l.flatMap write := by
  intro l
  induction l with
  | nil =>
    intro l' heq
    cases l' with
    | nil => rfl
    | cons b l' => exact absurd (List.append_eq_nil_iff.1 heq.symm).1 (hne b)
  | cons a l ih =>
    intro l' heq
    cases l' with
    | nil => exact absurd (List.append_eq_nil_iff.1 heq).1 (hne a)
    | cons b l' =>
      obtain ⟨rfl, htail⟩ := h _ _ _ _ heq
      rw [ih htail]

end SelfDelimiting

end DomainFlow
