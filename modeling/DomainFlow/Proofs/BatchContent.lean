import Mathlib.Data.List.Forall2
import DomainFlow.Fact.Fingerprint
import DomainFlow.Proofs.Delimited

/-!
# What the content of a batch tells

The text that stands for a batch writes its pieces one after another. Contracts and calls stand in
quoted notation, which ends by itself. Names have no end of their own: an id runs into the name of a
kind, a method into the next mark, and a member into its type and the arguments of the type. So a text
may stand for several batches, and what it leaves open is where one name ends and the next one begins.

## Main definitions

* `Batch.Agrees`: two batches that say the same, as far as a fingerprint goes
* `Batch.layout`: the lengths of the names in the content of a batch
* `Text.unescape?`: the character that a quoted text begins with

## Main results

* `Text.quote_delimited`, `Contract.written_delimited`, `Call.written_delimited`: quoted notation ends
  by itself
* `Batch.agrees_iff_content_and_layout`: the content tells everything but the layout
* `Batch.exists_twin_of_member`, `Batch.exists_twin_of_two_types`: batches whose content stands for
  another batch too
-/

namespace DomainFlow

/-! ## Quoted text -/

namespace Text

/-- The character that a text in quoted notation begins with, and the rest of the text. -/
def unescape? : List Char → Option (Char × List Char)
  | '\\' :: '"' :: rest => some ('"', rest)
  | '\\' :: '\\' :: rest => some ('\\', rest)
  | '\\' :: '0' :: rest => some ('\x00', rest)
  | '\\' :: 't' :: rest => some ('\t', rest)
  | '\\' :: 'n' :: rest => some ('\n', rest)
  | '\\' :: 'r' :: rest => some ('\r', rest)
  | '\\' :: 'u' :: '{' :: rest =>
    (Numeral.value? 16 (rest.takeWhile (· ≠ '}'))).map fun n =>
      (Char.ofNat n, (rest.dropWhile (· ≠ '}')).tail)
  | c :: rest => some (c, rest)
  | [] => none

/-- Digits do not close the number of a character. -/
theorem ne_brace_of_mem_toDigits {n : Nat} {c : Char} (h : c ∈ Nat.toDigits 16 n) : c ≠ '}' := by
  rintro rfl
  have hdigit := Numeral.isDigitOf_of_value? (Numeral.value?_toDigits (by decide) (by decide) n) h
  exact absurd hdigit (by decide)

/-- **An escaped character is read back.** -/
theorem unescape?_escape (c : Char) (rest : List Char) :
    unescape? (escape c ++ rest) = some (c, rest) := by
  fun_cases escape c
  case case7 hquote hslash _ _ _ _ _ =>
    rw [List.singleton_append, unescape?] <;> simp_all
  case case8 =>
    have hdigits : ∀ d ∈ Nat.toDigits 16 c.toNat, decide (d ≠ '}') = true :=
      fun d hd => decide_eq_true (ne_brace_of_mem_toDigits hd)
    have hvalue : Numeral.value? 16 (Nat.toDigits 16 c.toNat) = some c.toNat :=
      Numeral.value?_toDigits (by decide) (by decide) c.toNat
    simp only [List.cons_append, List.append_assoc, List.nil_append, unescape?]
    rw [List.takeWhile_append_of_pos hdigits, List.dropWhile_append_of_pos hdigits]
    simp [hvalue]
  all_goals rfl

theorem escape_delimited : SelfDelimiting escape := .of_reader unescape? unescape?_escape

/-- No escaped character closes a text. -/
theorem head?_escape (c : Char) : ∃ d ∈ (escape c).head?, d ≠ '"' := by
  fun_cases escape c
  case case7 hquote _ _ _ _ _ _ => exact ⟨c, rfl, hquote⟩
  all_goals exact ⟨'\\', rfl, by decide⟩

theorem toList_quote (text : String) :
    (quote text).toList = '"' :: (text.toList.flatMap escape ++ ['"']) := by
  rw [quote, String.toList_ofList]

/-- **A quoted text ends by itself**, whatever its characters are. -/
theorem quote_delimited : SelfDelimiting fun text => (quote text).toList := by
  intro a b r s heq
  simp only [toList_quote, List.cons_append, List.append_assoc, List.nil_append] at heq
  obtain ⟨hchars, hrest⟩ := escape_delimited.closed head?_escape (List.cons.inj heq).2
  exact ⟨String.toList_inj.1 hchars, hrest⟩

end Text

/-! ## Contracts and calls -/

theorem Contract.toList_written (contract : Contract) :
    contract.written.toList = match contract with
      | .handlesCommand command =>
        "HandlesCommand \x7b command: ".toList ++ ((Text.quote command).toList ++ " \x7d".toList)
      | .handlesDomainEvent event =>
        "HandlesDomainEvent \x7b event: ".toList ++ ((Text.quote event).toList ++ " \x7d".toList)
      | .handlesIntegrationEvent event =>
        "HandlesIntegrationEvent \x7b event: ".toList ++
          ((Text.quote event).toList ++ " \x7d".toList)
      | .convertsEvent domainEvent integrationEvent =>
        "ConvertsEvent \x7b domain_event: ".toList ++ ((Text.quote domainEvent).toList ++
          (", integration_event: ".toList ++
            ((Text.quote integrationEvent).toList ++ " \x7d".toList))) := by
  cases contract <;> simp [Contract.written, Text.record]

theorem Call.toList_written (call : Call) :
    call.written.toList =
      "RawCallEdge \x7b source_type: ".toList ++ ((Text.quote call.sourceType).toList ++
        (", source_method: ".toList ++ ((Text.quote call.sourceMethod).toList ++
        (", target_type: ".toList ++ ((Text.quote call.targetType).toList ++
        (", target_method: ".toList ++ ((Text.quote call.targetMethod).toList ++
        (", call_kind: ".toList ++ (call.kind.name.toList ++ " \x7d".toList))))))))) := by
  simp [Call.written, Text.record]

/-- **A contract in quoted notation ends by itself.** -/
theorem Contract.written_delimited : SelfDelimiting fun contract : Contract =>
    contract.written.toList := by
  intro a b r s heq
  simp only [Contract.toList_written] at heq
  cases a <;> cases b <;> simp only [List.append_assoc] at heq
  case handlesCommand.handlesCommand command command' =>
    obtain ⟨rfl, hrest⟩ := Text.quote_delimited _ _ _ _ (List.append_cancel_left heq)
    exact ⟨rfl, List.append_cancel_left hrest⟩
  case handlesDomainEvent.handlesDomainEvent event event' =>
    obtain ⟨rfl, hrest⟩ := Text.quote_delimited _ _ _ _ (List.append_cancel_left heq)
    exact ⟨rfl, List.append_cancel_left hrest⟩
  case handlesIntegrationEvent.handlesIntegrationEvent event event' =>
    obtain ⟨rfl, hrest⟩ := Text.quote_delimited _ _ _ _ (List.append_cancel_left heq)
    exact ⟨rfl, List.append_cancel_left hrest⟩
  case convertsEvent.convertsEvent =>
    obtain ⟨rfl, hsecond⟩ := Text.quote_delimited _ _ _ _ (List.append_cancel_left heq)
    obtain ⟨rfl, hrest⟩ := Text.quote_delimited _ _ _ _ (List.append_cancel_left hsecond)
    exact ⟨rfl, List.append_cancel_left hrest⟩
  all_goals exact absurd heq (append_ne_append (by decide) (by decide) _ _)

/-- No kind of a call has a name that begins with another one. -/
theorem CallKind.not_prefix_name {a b : CallKind} (h : a ≠ b) :
    ¬a.name.toList <+: b.name.toList := by
  cases a <;> cases b <;> revert h <;> decide

theorem CallKind.name_delimited : SelfDelimiting fun kind : CallKind => kind.name.toList := by
  intro a b r s heq
  by_cases h : a = b
  · subst h
    exact ⟨rfl, List.append_cancel_left heq⟩
  · exact absurd heq (append_ne_append (not_prefix_name h) (not_prefix_name (Ne.symm h)) r s)

/-- **A call in quoted notation ends by itself.** -/
theorem Call.written_delimited : SelfDelimiting fun call : Call => call.written.toList := by
  intro a b r s heq
  simp only [Call.toList_written, List.append_assoc] at heq
  obtain ⟨hsourceType, heq⟩ := Text.quote_delimited _ _ _ _ (List.append_cancel_left heq)
  obtain ⟨hsourceMethod, heq⟩ := Text.quote_delimited _ _ _ _ (List.append_cancel_left heq)
  obtain ⟨htargetType, heq⟩ := Text.quote_delimited _ _ _ _ (List.append_cancel_left heq)
  obtain ⟨htargetMethod, heq⟩ := Text.quote_delimited _ _ _ _ (List.append_cancel_left heq)
  obtain ⟨hkind, heq⟩ := CallKind.name_delimited _ _ _ _ (List.append_cancel_left heq)
  refine ⟨?_, List.append_cancel_left heq⟩
  cases a; cases b
  simp_all

/-! ## Types -/

/-- **Two facts that say the same of a type**, apart from its simple name and its namespace. -/
structure TypeFact.Agrees (a b : TypeFact) : Prop where
  id : a.id = b.id
  kind : a.kind = b.kind
  methods : a.methods = b.methods
  members : a.members = b.members
  contracts : a.contracts = b.contracts

/-- The lengths of the names of a member. -/
def Member.layout (member : Member) : List Nat :=
  member.name.length :: member.type.id.length :: member.type.arguments.map String.length

/-- **The lengths of the names in the content of a type**: its id, its methods and its members. -/
def TypeFact.layout (fact : TypeFact) : Nat × List Nat × List (List Nat) :=
  (fact.id.length, fact.methods.map String.length, fact.members.map Member.layout)

/-! ### Kinds -/

namespace TypeKind

/-- What may stand behind the kind of a type: the mark of a method or of a member, a contract, or the
end of the line. -/
def marks : List (List Char) := [['m'], ['f'], "Handles".toList, "Converts".toList, ['\n']]

/-- What the names of some kinds have behind the names of others. -/
def endings : List (List Char) := ["Handler".toList, "Sender".toList, "Converter".toList]

theorem mem_all (kind : TypeKind) : kind ∈ all := by
  cases kind <;> simp [all]

theorem eq_or_ending : ∀ a ∈ all, ∀ b ∈ all, a.name.toList <+: b.name.toList →
    a = b ∨ ∃ ending ∈ endings, b.name.toList = a.name.toList ++ ending := by
  decide +kernel

/-- No mark can be taken for the ending of a name. -/
theorem not_prefix_ending : ∀ mark ∈ marks, ∀ ending ∈ endings,
    ¬mark <+: ending ∧ ¬ending <+: mark := by
  decide +kernel

theorem eq_of_prefix_name {a b : TypeKind} {r s : List Char} (hr : ∃ mark ∈ marks, mark <+: r)
    (h : a.name.toList ++ r = b.name.toList ++ s) (hpre : a.name.toList <+: b.name.toList) :
    a = b := by
  rcases eq_or_ending a (mem_all a) b (mem_all b) hpre with heq | ⟨ending, hending, hname⟩
  · exact heq
  · rw [hname, List.append_assoc] at h
    obtain ⟨mark, hmark, hmarkPre⟩ := hr
    rw [List.append_cancel_left h] at hmarkPre
    obtain ⟨hmarkEnding, hendingMark⟩ := not_prefix_ending mark hmark ending hending
    exact ((List.prefix_or_prefix_of_prefix hmarkPre (List.prefix_append ending s)).elim
      hmarkEnding hendingMark).elim

/-- **The name of a kind ends where a mark begins.** -/
theorem eq_of_name_append {a b : TypeKind} {r s : List Char} (hr : ∃ mark ∈ marks, mark <+: r)
    (hs : ∃ mark ∈ marks, mark <+: s) (h : a.name.toList ++ r = b.name.toList ++ s) :
    a = b ∧ r = s := by
  have hkind : a = b := by
    have ha : a.name.toList <+: b.name.toList ++ s := h ▸ List.prefix_append _ r
    rcases List.prefix_or_prefix_of_prefix ha (List.prefix_append _ s) with hab | hba
    · exact eq_of_prefix_name hr h hab
    · exact (eq_of_prefix_name hs h.symm hba).symm
  subst hkind
  exact ⟨rfl, List.append_cancel_left h⟩

end TypeKind

/-! ### Names of known lengths -/

/-- Values whose texts have known lengths can be told apart. -/
theorem map_eq_of_flatMap {α : Type} {f : α → List Char} {l l' : List α} {r s : List Char}
    (hlength : l.map (fun a => (f a).length) = l'.map (fun a => (f a).length))
    (h : l.flatMap f ++ r = l'.flatMap f ++ s) : l.map f = l'.map f ∧ r = s := by
  have hlength' : (l.flatMap f).length = (l'.flatMap f).length := by
    rw [List.length_flatMap, List.length_flatMap, hlength]
  obtain ⟨hflat, hrest⟩ := List.append_inj h hlength'
  refine ⟨List.eq_iff_flatten_eq.2 ⟨by simpa [List.flatMap_def] using hflat, ?_⟩, hrest⟩
  rw [List.map_map, List.map_map]
  exact hlength

theorem Member.toList_content (member : Member) :
    member.content.toList =
      'f' :: (member.name.toList ++ (member.type.id.toList ++
        member.type.arguments.flatMap String.toList)) := by
  simp [Member.content]

theorem Member.length_content (member : Member) :
    member.content.toList.length = 1 + member.layout.sum := by
  simp only [Member.toList_content, Member.layout, List.length_cons, List.length_append,
    List.length_flatMap, String.length_toList, List.sum_cons]
  exact Nat.add_comm _ 1

/-- A member is told by its text if the lengths of its names are known. -/
theorem Member.eq_of_content {a b : Member} (hlayout : a.layout = b.layout)
    (h : a.content.toList = b.content.toList) : a = b := by
  obtain ⟨name, id, arguments⟩ := a
  obtain ⟨name', id', arguments'⟩ := b
  obtain ⟨hname, hrest⟩ := List.cons.inj hlayout
  obtain ⟨hid, harguments⟩ := List.cons.inj hrest
  rw [toList_content, toList_content] at h
  obtain ⟨hname, h⟩ :=
    List.append_inj (List.cons.inj h).2 (by simpa [String.length_toList] using hname)
  obtain ⟨hid, h⟩ := List.append_inj h (by simpa [String.length_toList] using hid)
  obtain ⟨harguments, -⟩ := map_eq_of_flatMap (r := []) (s := [])
    (by simpa [String.length_toList] using harguments) (congrArg (· ++ []) h)
  obtain rfl : name = name' := String.toList_inj.1 hname
  obtain rfl : id = id' := String.toList_inj.1 hid
  obtain rfl : arguments = arguments' :=
    List.map_injective_iff.2 (fun _ _ => String.toList_inj.1) harguments
  rfl

/-! ### The line of a type -/

theorem Contract.exists_mark (contract : Contract) :
    ∃ mark ∈ TypeKind.marks, mark <+: contract.written.toList := by
  rw [toList_written]
  cases contract
  case convertsEvent =>
    have hmark : "Converts".toList <+: "ConvertsEvent \x7b domain_event: ".toList := by decide
    exact ⟨"Converts".toList, by decide, hmark.trans (List.prefix_append ..)⟩
  all_goals
    refine ⟨"Handles".toList, by decide, List.IsPrefix.trans ?_ (List.prefix_append ..)⟩
    decide

/-- A contract does not end the line of a type. -/
theorem Contract.head?_written (contract : Contract) :
    ∃ c ∈ contract.written.toList.head?, c ≠ '\n' := by
  rw [toList_written]
  cases contract
  case convertsEvent => exact ⟨'C', rfl, by decide⟩
  all_goals exact ⟨'H', rfl, by decide⟩

namespace TypeFact

theorem toList_content (fact : TypeFact) :
    fact.content.toList = fact.id.toList ++ (fact.kind.name.toList ++
      (fact.methods.flatMap (fun method => 'm' :: method.toList) ++
      (fact.members.flatMap (fun member => member.content.toList) ++
      (fact.contracts.flatMap (fun contract => contract.written.toList) ++ ['\n'])))) := by
  simp [content, List.flatMap_map]

/-- Behind the kind of a type stands a mark. -/
theorem exists_mark (fact : TypeFact) (rest : List Char) :
    ∃ mark ∈ TypeKind.marks, mark <+: fact.methods.flatMap (fun method => 'm' :: method.toList) ++
      (fact.members.flatMap (fun member => member.content.toList) ++
      (fact.contracts.flatMap (fun contract => contract.written.toList) ++ '\n' :: rest)) := by
  cases fact.methods with
  | cons method _ => exact ⟨['m'], by decide, _, rfl⟩
  | nil =>
    cases fact.members with
    | cons member _ =>
      refine ⟨['f'], by decide, ?_⟩
      rw [List.flatMap_cons, Member.toList_content]
      exact ⟨_, rfl⟩
    | nil =>
      cases fact.contracts with
      | nil => exact ⟨['\n'], by decide, _, rfl⟩
      | cons contract _ =>
        obtain ⟨mark, hmark, hpre⟩ := contract.exists_mark
        refine ⟨mark, hmark, hpre.trans ?_⟩
        rw [List.flatMap_cons]
        simp only [List.flatMap_nil, List.nil_append, List.append_assoc]
        exact List.prefix_append ..

/-- **A type is told by its line** if the lengths of its names are known. -/
theorem agrees_of_content {a b : TypeFact} {r s : List Char} (hlayout : a.layout = b.layout)
    (h : a.content.toList ++ r = b.content.toList ++ s) : a.Agrees b ∧ r = s := by
  obtain ⟨hid, hlayout⟩ := Prod.mk.inj hlayout
  obtain ⟨hmethods, hmembers⟩ := Prod.mk.inj hlayout
  simp only [toList_content, List.append_assoc, List.cons_append, List.nil_append] at h
  -- take the pieces off the line one by one: names by their lengths, the kind by the mark behind it
  obtain ⟨hid, h⟩ := List.append_inj h (by simpa [String.length_toList] using hid)
  obtain ⟨hkind, h⟩ := TypeKind.eq_of_name_append (exists_mark a r) (exists_mark b s) h
  have hmethodLengths : a.methods.map (fun method => ('m' :: method.toList).length) =
      b.methods.map (fun method => ('m' :: method.toList).length) := by
    have := congrArg (List.map (· + 1)) hmethods
    simpa [String.length_toList, Function.comp_def] using this
  obtain ⟨hmethods, h⟩ := map_eq_of_flatMap hmethodLengths h
  have hmemberLengths : a.members.map (fun member => member.content.toList.length) =
      b.members.map (fun member => member.content.toList.length) := by
    have := congrArg (List.map fun lengths => 1 + lengths.sum) hmembers
    simpa [Member.length_content, Function.comp_def] using this
  obtain ⟨hcontents, h⟩ := map_eq_of_flatMap hmemberLengths h
  obtain ⟨hcontracts, hrest⟩ := Contract.written_delimited.closed Contract.head?_written h
  refine ⟨⟨String.toList_inj.1 hid, hkind, ?_, ?_, hcontracts⟩, hrest⟩
  · refine List.map_injective_iff.2 (fun _ _ heq => ?_) hmethods
    exact String.toList_inj.1 (List.cons.inj heq).2
  · have hboth : a.members.map (fun member => (member.layout, member.content.toList)) =
        b.members.map fun member => (member.layout, member.content.toList) := by
      rw [← List.zip_map', ← List.zip_map', hmembers, hcontents]
    refine List.map_injective_iff.2 (fun _ _ heq => ?_) hboth
    exact Member.eq_of_content (Prod.mk.inj heq).1 (Prod.mk.inj heq).2

/-- Facts that say the same have the same line. -/
theorem Agrees.content_eq {a b : TypeFact} (h : a.Agrees b) : a.content = b.content := by
  rw [content, content, h.id, h.kind, h.methods, h.members, h.contracts]

theorem Agrees.layout_eq {a b : TypeFact} (h : a.Agrees b) : a.layout = b.layout := by
  rw [layout, layout, h.id, h.methods, h.members]

end TypeFact

/-! ## Batches -/

namespace Batch

/-- **Two batches that say the same**, as far as a fingerprint goes: of the same types in the same
order, and of the same calls. -/
structure Agrees (a b : Batch) : Prop where
  types : List.Forall₂ TypeFact.Agrees a.types b.types
  calls : a.calls = b.calls

/-- **The layout of a batch**: the lengths of the names in its content, type by type. -/
def layout (batch : Batch) : List (Nat × List Nat × List (List Nat)) :=
  batch.types.map TypeFact.layout

theorem toList_content (batch : Batch) :
    batch.content.toList = batch.types.flatMap (fun fact => fact.content.toList) ++
      batch.calls.flatMap fun call => [] ++ call.written.toList ++ ['\n'] := by
  simp [content, List.flatMap_map]

/-- Types are told by their lines if the lengths of their names are known. -/
theorem agrees_of_flatMap_content {types types' : List TypeFact} {r s : List Char}
    (hlayout : types.map TypeFact.layout = types'.map TypeFact.layout)
    (h : types.flatMap (fun fact => fact.content.toList) ++ r =
      types'.flatMap (fun fact => fact.content.toList) ++ s) :
    List.Forall₂ TypeFact.Agrees types types' ∧ r = s := by
  induction types generalizing types' with
  | nil =>
    obtain rfl : types' = [] := List.map_eq_nil_iff.1 hlayout.symm
    exact ⟨.nil, h⟩
  | cons fact types ih =>
    obtain ⟨fact', types', rfl, hfact, htypes⟩ := List.map_eq_cons_iff.1 hlayout.symm
    simp only [List.flatMap_cons, List.append_assoc] at h
    obtain ⟨hagrees, h⟩ := TypeFact.agrees_of_content hfact.symm h
    obtain ⟨hrest, heq⟩ := ih htypes.symm h
    exact ⟨.cons hagrees hrest, heq⟩

/-- What agrees for facts that say the same agrees for lists of such facts. -/
theorem map_eq_of_agrees {β : Type} {f : TypeFact → β} {types types' : List TypeFact}
    (hf : ∀ a b : TypeFact, a.Agrees b → f a = f b)
    (h : List.Forall₂ TypeFact.Agrees types types') : types.map f = types'.map f := by
  induction h with
  | nil => rfl
  | cons hfact _ ih => rw [List.map_cons, List.map_cons, hf _ _ hfact, ih]

/-- **The content of a batch tells everything but the layout.** Two batches say the same exactly if
their contents are the same bytes and have the same layout. -/
theorem agrees_iff_content_and_layout (a b : Batch) :
    a.Agrees b ↔ a.content.toUTF8 = b.content.toUTF8 ∧ a.layout = b.layout := by
  constructor
  · intro h
    refine ⟨?_, map_eq_of_agrees (fun _ _ => TypeFact.Agrees.layout_eq) h.types⟩
    rw [content, content, h.calls,
      map_eq_of_agrees (fun _ _ => TypeFact.Agrees.content_eq) h.types]
  · rintro ⟨hbytes, hlayout⟩
    have h : a.content.toList = b.content.toList :=
      congrArg String.toList (String.toByteArray_inj.1 hbytes)
    rw [toList_content, toList_content] at h
    obtain ⟨htypes, h⟩ := agrees_of_flatMap_content hlayout h
    have hcalls := (Call.written_delimited.between [] ['\n']).flatMap_injective (by simp) h
    exact ⟨htypes, hcalls⟩

/-! ### Twins -/

/-- **A member hides an argument without a name.** No batch whose types have members is told by its
content. -/
theorem exists_twin_of_member {a : Batch} {fact : TypeFact} (hfact : fact ∈ a.types)
    (hmembers : fact.members ≠ []) : ∃ b : Batch, b.content = a.content ∧ ¬b.Agrees a := by
  obtain ⟨front, back, htypes⟩ := List.append_of_mem hfact
  obtain ⟨member, members, hmember⟩ := List.exists_cons_of_ne_nil hmembers
  let other : Member :=
    { member with type := { member.type with arguments := member.type.arguments ++ [""] } }
  have hother : other.content = member.content := by simp [other, Member.content]
  refine ⟨{ a with types := front ++ { fact with members := other :: members } :: back }, ?_, ?_⟩
  · simp [content, TypeFact.content, htypes, hmember, hother]
  · intro h
    have hsame : other :: members = member :: members := by
      simpa [htypes, hmember] using map_eq_of_agrees (fun _ _ => TypeFact.Agrees.members) h.types
    have hlength := congrArg (fun m : Member => m.type.arguments.length) (List.cons.inj hsame).1
    simp [other] at hlength

/-- **The id of a type hides the line before it.** No batch of two types or more is told by its
content. -/
theorem exists_twin_of_two_types {a : Batch} (h : 2 ≤ a.types.length) :
    ∃ b : Batch, b.content = a.content ∧ ¬b.Agrees a := by
  match htypes : a.types, h with
  | first :: second :: rest, _ =>
    refine ⟨{ a with types := { second with id := first.content ++ second.id } :: rest }, ?_, ?_⟩
    · simp [content, TypeFact.content, htypes, String.append_assoc]
    · intro hagrees
      have hlength := hagrees.types.length_eq
      simp [htypes] at hlength

/-- A basket with a member `Order` of type `LineItem`. -/
def lineItemBatch : Batch where
  source := "shop"
  types := [{ TypeFact.ofId "Basket" .aggregate with members := [⟨"Order", .plain "LineItem"⟩] }]
  calls := []

/-- A basket with a member `OrderLine` of type `Item`. -/
def orderLineBatch : Batch where
  source := "shop"
  types := [{ TypeFact.ofId "Basket" .aggregate with members := [⟨"OrderLine", .plain "Item"⟩] }]
  calls := []

/-- The name of a member runs into its type. -/
theorem content_lineItemBatch :
    lineItemBatch.content.toUTF8 = orderLineBatch.content.toUTF8 ∧
      ¬lineItemBatch.Agrees orderLineBatch := by
  have hcontent : lineItemBatch.content = orderLineBatch.content := by decide +kernel
  have hmembers : lineItemBatch.types.map (·.members) ≠ orderLineBatch.types.map (·.members) := by
    decide +kernel
  refine ⟨congrArg String.toUTF8 hcontent, fun h => hmembers ?_⟩
  exact map_eq_of_agrees (fun _ _ => TypeFact.Agrees.members) h.types

end Batch

end DomainFlow
