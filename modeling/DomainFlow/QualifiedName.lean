/-!
# Qualified names

A qualified name is a text whose parts are separated by dots. Its last part is the simple name,
and what stands before the last dot is the qualifier.

## Main definitions

* `QualifiedName.simple`: the part after the last dot, the whole text when there is none
* `QualifiedName.qualifier`: the part before the last dot, empty when there is none
-/

namespace DomainFlow

namespace QualifiedName

/-- The parts before and after the last occurrence of a character. -/
def splitLast? (c : Char) : List Char → Option (List Char × List Char)
  | [] => none
  | x :: rest =>
    match splitLast? c rest with
    | some (front, back) => some (x :: front, back)
    | none => if x = c then some ([], rest) else none

theorem splitLast?_eq_none_iff {c : Char} {text : List Char} :
    splitLast? c text = none ↔ c ∉ text := by
  induction text with
  | nil => simp [splitLast?]
  | cons x rest ih =>
    rw [splitLast?]
    split
    · next h => simp [show c ∈ rest by simpa [h] using ih]
    · next h =>
      have hrest : c ∉ rest := ih.1 h
      by_cases hx : x = c <;> simp [hx, hrest, Ne.symm]

/-- **The last occurrence splits the text**: the character does not occur behind it. -/
theorem eq_of_splitLast? {c : Char} {text front back : List Char}
    (h : splitLast? c text = some (front, back)) : text = front ++ c :: back ∧ c ∉ back := by
  induction text generalizing front back with
  | nil => cases h
  | cons x rest ih =>
    rw [splitLast?] at h
    split at h
    · next hrest =>
      cases h
      obtain ⟨rfl, hb⟩ := ih hrest
      exact ⟨rfl, hb⟩
    · next hrest =>
      split at h
      · next hx =>
        cases h
        exact ⟨by simp [hx], splitLast?_eq_none_iff.1 hrest⟩
      · cases h

/-- The part of a name after its last dot. -/
def simple (name : String) : String :=
  match splitLast? '.' name.toList with
  | some (_, back) => String.ofList back
  | none => name

/-- The part of a name before its last dot. -/
def qualifier (name : String) : String :=
  match splitLast? '.' name.toList with
  | some (front, _) => String.ofList front
  | none => ""

end QualifiedName

end DomainFlow
