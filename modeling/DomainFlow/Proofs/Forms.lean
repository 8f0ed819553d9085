import Mathlib.Data.List.Nodup
import DomainFlow.Codec.Graph
import DomainFlow.Proofs.JsonText

/-!
# JSON forms are read back

The readers of arrays and of objects give what was written, item by item and member by member. A
record may be written with some of its fields left out, namely those that have the default that the
reader fills in. Which fields stand in the text is then not known, but what the reader finds for a
field is either a form of its value or nothing at all, and in the second case the value is the
default.

## Main definitions

* `Json.IsListForm`: the arrays that stand for a list
* `Json.Field`: a field of a record, with the forms of its value
* `Json.Gives`: the members that give the fields of a record
* `Json.IsRecord`: the objects that stand for a record

## Main results

* `Json.list?_of_forall₂`, `Json.entries?_object`: arrays and maps are read back
* `Json.IsRecord.exists_fields?`: what the reader finds for the fields of a record
* `Node.ofJson?_toJson`, `Relationship.ofJson?_toJson`: nodes and relationships are read back
-/

namespace DomainFlow

namespace Json

@[simp] theorem text?_text (s : String) : (text s).text? = some s := rfl

@[simp] theorem name?_text (s : String) : (text s).name? = some s := rfl

@[simp] theorem required_some {α : Type} (read : Json → Option α) (j : Json) :
    required read (some j) = read j := rfl

/-! ## Arrays and maps -/

/-- What is read back item by item is read back as a list. -/
theorem mapM_map_of_read {α β : Type} {read : β → Option α} {write : α → β}
    (h : ∀ a, read (write a) = some a) (l : List α) : (l.map write).mapM read = some l := by
  induction l with
  | nil => rfl
  | cons a l ih =>
    rw [List.map_cons, List.mapM_cons, h, ih]
    rfl

section

variable {α : Type} {read : Json → Option α}

theorem list?_of_forall₂ {l : List α} {items : List Json}
    (h : List.Forall₂ (fun a j => read j = some a) l items) :
    list? read (.arr items) = some l := by
  rw [list?]
  induction h with
  | nil => rfl
  | cons hread _ ih =>
    rw [List.mapM_cons, hread, ih]
    rfl

theorem list?_ofList {write : α → Json} (h : ∀ a, read (write a) = some a) (l : List α) :
    list? read (ofList write l) = some l :=
  list?_of_forall₂ (List.forall₂_map_right_iff.2 (List.forall₂_same.2 fun a _ => h a))

theorem entries?_object {write : α → Json} (h : ∀ a, read (write a) = some a)
    (entries : List (String × α)) :
    entries? read (object (entries.map fun (key, a) => (key, write a))) = some entries := by
  rw [object, List.map_map]
  exact mapM_map_of_read (fun (key, a) => by simp [h]) entries

/-- What is read back was written once only. -/
theorem injective_of_read {write : α → Json} (h : ∀ a, read (write a) = some a) :
    Function.Injective write := by
  intro a b hab
  have hread := h a
  rw [hab, h b] at hread
  exact (Option.some.inj hread).symm

theorem nullable?_ofOption {write : α → Json} (h : ∀ a, read (write a) = some a)
    (hnull : ∀ a, write a ≠ .null) (o : Option α) :
    nullable? read (ofOption write o) = some o := by
  cases o with
  | none => rfl
  | some a =>
    rw [ofOption, nullable?, h]
    · rfl
    · exact hnull a

end

/-- **The forms of a list**, each item in one of its own forms. -/
def IsListForm {α : Type} (IsForm : α → Json → Prop) (l : List α) (j : Json) : Prop :=
  ∃ items, j = .arr items ∧ List.Forall₂ IsForm l items

theorem isListForm_ofList {α : Type} {IsForm : α → Json → Prop} {write : α → Json}
    (h : ∀ a, IsForm a (write a)) (l : List α) : IsListForm IsForm l (.ofList write l) :=
  ⟨_, rfl, List.forall₂_map_right_iff.2 (List.forall₂_same.2 fun a _ => h a)⟩

namespace IsListForm

variable {α : Type} {IsForm : α → Json → Prop} {l : List α} {j : Json}

theorem list? {read : Json → Option α} (h : IsListForm IsForm l j)
    (hread : ∀ a j, IsForm a j → read j = some a) : Json.list? read j = some l := by
  obtain ⟨items, rfl, hitems⟩ := h
  exact list?_of_forall₂ (hitems.imp hread)

theorem written (h : IsListForm IsForm l j) (hwritten : ∀ a j, IsForm a j → Written j) :
    Written j := by
  obtain ⟨items, rfl, hitems⟩ := h
  refine .arr ?_
  induction hitems with
  | nil => nofun
  | cons hform _ ih => exact List.forall_mem_cons.2 ⟨hwritten _ _ hform, ih⟩

end IsListForm

/-! ## Records -/

/-- **A field of a record.** -/
structure Field where
  name : String
  /-- The forms of its value. -/
  IsForm : Json → Prop
  /-- Whether the field may be left out. -/
  MayOmit : Prop

/-- A field that is always written. -/
def Field.required (name : String) (IsForm : Json → Prop) : Field := ⟨name, IsForm, False⟩

/-- A field that may be left out where its value is the default. -/
def Field.optional (name : String) (IsForm : Json → Prop) (isDefault : Prop) : Field :=
  ⟨name, IsForm, isDefault⟩

/-- **The members that give the fields of a record**, in the order of the fields. -/
inductive Gives : List Field → List (String × Json) → Prop
  | nil : Gives [] []
  | given {field : Field} {fields : List Field} {j : Json} {members : List (String × Json)} :
    field.IsForm j → Gives fields members → Gives (field :: fields) ((field.name, j) :: members)
  | omitted {field : Field} {fields : List Field} {members : List (String × Json)} :
    field.MayOmit → Gives fields members → Gives (field :: fields) members

/-- **The objects that stand for a record.** -/
def IsRecord (fields : List Field) (j : Json) : Prop :=
  ∃ members, j = object members ∧ Gives fields members

/-- What a reader may find for a field. -/
def Field.Finds (field : Field) : Option Json → Prop
  | some j => field.IsForm j
  | none => field.MayOmit

/-- The members of an object as the reader of JSON gives them. -/
def members (named : List (String × Json)) : List (Option String × Json) :=
  named.map fun m => (some m.1, m.2)

theorem object_eq_obj (named : List (String × Json)) : object named = .obj (members named) := rfl

theorem member?_eq_none {name : String} {named : List (String × Json)}
    (h : name ∉ named.map (·.1)) : member? name (members named) = none := by
  induction named with
  | nil => rfl
  | cons m named ih =>
    rw [List.map_cons, List.mem_cons, not_or] at h
    rw [members, List.map_cons, member?, if_neg fun heq => h.1 (Option.some.inj heq).symm]
    exact ih h.2

/-- Names that differ occur once at most. -/
theorem namesOnce_of_nodup (names : List String) {named : List (String × Json)}
    (h : (named.map (·.1)).Nodup) : namesOnce names (members named) = true := by
  have hcount : ∀ name, ((members named).filter (·.1 == some name)).length ≤ 1 := by
    intro name
    have hle := List.nodup_iff_count_le_one.1 h name
    rw [List.count, List.countP_map, List.countP_eq_length_filter] at hle
    rw [members, List.filter_map, List.length_map]
    simpa [Function.comp_def] using hle
  rw [namesOnce, Bool.and_eq_true, List.all_eq_true, List.all_eq_true]
  refine ⟨fun m hm => ?_, fun name _ => decide_eq_true (hcount name)⟩
  obtain ⟨_, _, rfl⟩ := List.mem_map.1 hm
  rfl

namespace Gives

variable {fields : List Field} {named : List (String × Json)}

theorem sublist (h : Gives fields named) :
    List.Sublist (named.map (·.1)) (fields.map (·.name)) := by
  induction h with
  | nil => exact .slnil
  | given _ _ ih => exact ih.cons_cons _
  | omitted _ _ ih => exact ih.cons _

/-- What is found for a field is a form of its value, or nothing where it may be left out. -/
theorem finds (h : Gives fields named) (hnames : (fields.map (·.name)).Nodup) :
    ∀ field ∈ fields, field.Finds (member? field.name (members named)) := by
  induction h with
  | nil => nofun
  | @given field fields j named hform _ ih =>
    obtain ⟨hfresh, hnames⟩ := List.nodup_cons.1 hnames
    intro other hother
    rw [members, List.map_cons, member?]
    rcases List.mem_cons.1 hother with rfl | hother
    · rw [if_pos rfl]
      exact hform
    · have hne : field.name ≠ other.name := fun heq =>
        hfresh (List.mem_map.2 ⟨other, hother, heq.symm⟩)
      rw [if_neg fun heq => hne (Option.some.inj heq)]
      exact ih hnames other hother
  | @omitted field fields named homit hgives ih =>
    obtain ⟨hfresh, hnames⟩ := List.nodup_cons.1 hnames
    intro other hother
    rcases List.mem_cons.1 hother with rfl | hother
    · rw [member?_eq_none fun hmem => hfresh (hgives.sublist.subset hmem)]
      exact homit
    · exact ih hnames other hother

theorem written (h : Gives fields named)
    (hforms : ∀ field ∈ fields, ∀ j, field.IsForm j → Written j) : ∀ m ∈ named, Written m.2 := by
  induction h with
  | nil => nofun
  | given hform _ ih =>
    rw [List.forall_mem_cons] at hforms ⊢
    exact ⟨hforms.1 _ hform, ih hforms.2⟩
  | omitted _ _ ih => exact ih (List.forall_mem_cons.1 hforms).2

end Gives

namespace IsRecord

variable {fields : List Field} {j : Json}

/-- **What the reader finds for the fields of a record**: for each field a form of its value, or
nothing where the field may be left out. -/
theorem exists_fields? (h : IsRecord fields j) (names : List String)
    (hnames : fields.map (·.name) = names) (hnodup : names.Nodup) (least : Nat) :
    ∃ found, j.fields? names least = some found ∧ List.Forall₂ Field.Finds fields found := by
  obtain ⟨named, rfl, hgives⟩ := h
  subst hnames
  refine ⟨fields.map fun field => member? field.name (members named), ?_, ?_⟩
  · rw [object_eq_obj, fields?, if_pos (namesOnce_of_nodup _ (hgives.sublist.nodup hnodup)),
      List.map_map]
    rfl
  · exact List.forall₂_map_right_iff.2 (List.forall₂_same.2 (hgives.finds hnodup))

theorem written (h : IsRecord fields j)
    (hforms : ∀ field ∈ fields, ∀ j, field.IsForm j → Written j) : Written j := by
  obtain ⟨named, rfl, hgives⟩ := h
  exact written_object (hgives.written hforms)

end IsRecord

section

variable {α : Type} {read : Json → Option α} {name : String} {IsForm : Json → Prop}
  {found : Option Json} {a : α}

/-- A field with one form only is found in that form. -/
theorem Field.Finds.eq_some {j : Json} (h : (Field.required name (· = j)).Finds found) :
    found = some j := by
  cases found with
  | none => exact False.elim h
  | some found => exact congrArg some h

theorem Field.Finds.required (h : (Field.required name IsForm).Finds found)
    (hread : ∀ j, IsForm j → read j = some a) : Json.required read found = some a := by
  cases found with
  | none => exact False.elim h
  | some j => exact hread j h

theorem Field.Finds.orDefault {default : α}
    (h : (Field.optional name IsForm (a = default)).Finds found)
    (hread : ∀ j, IsForm j → read j = some a) : Json.orDefault default read found = some a := by
  cases found with
  | none => exact congrArg some (Eq.symm h)
  | some j => exact hread j h

theorem Field.Finds.orDefault_eq {default : α} {j : Json}
    (h : (Field.optional name (· = j) (a = default)).Finds found) (hread : read j = some a) :
    Json.orDefault default read found = some a :=
  h.orDefault fun _ heq => heq ▸ hread

end

end Json

/-! ## Nodes and relationships -/

theorem Node.ofJson?_toJson (node : Node) : Node.ofJson? node.toJson = some node := by
  have hfields : node.toJson.fields? ["id", "name", "kind"] 3 =
      some [some (.text node.id), some (.text node.name), some (.text node.kind.name)] := rfl
  rw [Node.ofJson?, hfields]
  simp [NodeKind.ofName?_name]

theorem Relationship.ofJson?_toJson (r : Relationship) :
    Relationship.ofJson? r.toJson = some r := by
  have hfields :
      r.toJson.fields? ["from_id", "from_method", "to_id", "to_method", "kind"] 5 =
        some [some (.text r.source.typeId), some (.text r.source.method),
          some (.text r.target.typeId), some (.text r.target.method),
          some (.text r.kind.name)] := rfl
  rw [Relationship.ofJson?, hfields]
  simp [RelationshipKind.ofName?_name]

end DomainFlow
