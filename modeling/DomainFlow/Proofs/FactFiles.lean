import DomainFlow.FileTree
import DomainFlow.Loading
import DomainFlow.Proofs.Forms

/-!
# Fact files are read back

A batch may be written with every field or with some of the fields left out that have their
defaults: the arguments of a reference, the namespace, methods, members and contracts of a type, the
called method of a call, and the source, types and calls of a batch. Which fields are left out may
differ from one value to the next. Whatever is left out, the batch that is loaded from the text is
the one that was written; only a batch without a source takes the path for it.

## Main definitions

* `TypeRef.IsForm`, `Member.IsForm`, `TypeFact.IsForm`, `Call.IsForm`, `Batch.IsForm`: the forms of
  a value, with or without the fields that have defaults

## Main results

* `Batch.ofJson?_of_isForm`: a batch is read back from any of its forms
* `loadBatch_of_isForm`: a batch is loaded from a file that holds the text of one of its forms
-/

namespace DomainFlow

open Json (Field IsRecord Written)

/-! ## References -/

namespace TypeRef

variable {ref : TypeRef} {j : Json}

/-- The forms of a reference. -/
def IsForm (ref : TypeRef) : Json → Prop := IsRecord [
  .required "id" (· = .text ref.id),
  .optional "arguments" (· = .ofList .text ref.arguments) (ref.arguments = [])]

theorem isForm_toJson (ref : TypeRef) : ref.IsForm ref.toJson :=
  ⟨_, rfl, .given rfl (.given rfl .nil)⟩

theorem ofJson?_of_isForm (h : ref.IsForm j) : ofJson? j = some ref := by
  obtain ⟨_, hfields, _ | ⟨hid, _ | ⟨harguments, _ | _⟩⟩⟩ :=
    h.exists_fields? ["id", "arguments"] rfl (by decide) 1
  have harguments := harguments.orDefault_eq (Json.list?_ofList Json.text?_text _)
  rw [ofJson?, hfields]
  simp [hid.eq_some, harguments]

theorem written_of_isForm (h : ref.IsForm j) : Written j := by
  refine h.written ?_
  simp only [List.forall_mem_cons, Field.required, Field.optional, forall_eq]
  exact ⟨Json.written_text _, Json.written_ofList fun _ _ => Json.written_text _, nofun⟩

end TypeRef

/-! ## Types -/

namespace Member

variable {member : Member} {j : Json}

/-- The forms of a member. -/
def IsForm (member : Member) : Json → Prop := IsRecord [
  .required "name" (· = .text member.name),
  .required "type_ref" member.type.IsForm]

theorem isForm_toJson (member : Member) : member.IsForm member.toJson :=
  ⟨_, rfl, .given rfl (.given member.type.isForm_toJson .nil)⟩

theorem ofJson?_of_isForm (h : member.IsForm j) : ofJson? j = some member := by
  obtain ⟨_, hfields, _ | ⟨hname, _ | ⟨htype, _ | _⟩⟩⟩ :=
    h.exists_fields? ["name", "type_ref"] rfl (by decide) 2
  have htype := htype.required fun _ => TypeRef.ofJson?_of_isForm
  rw [ofJson?, hfields]
  simp [hname.eq_some, htype]

theorem written_of_isForm (h : member.IsForm j) : Written j := by
  refine h.written ?_
  simp only [List.forall_mem_cons, Field.required, forall_eq]
  exact ⟨Json.written_text _, fun _ => TypeRef.written_of_isForm, nofun⟩

end Member

namespace Contract

theorem ofJson?_toJson (contract : Contract) : ofJson? contract.toJson = some contract := by
  cases contract <;> rfl

theorem written_toJson (contract : Contract) : contract.toJson.Written := by
  cases contract <;> exact Json.written_object (by simp [Json.written_object, Json.written_text])

end Contract

namespace TypeFact

variable {fact : TypeFact} {j : Json}

/-- The forms of a type. -/
def IsForm (fact : TypeFact) : Json → Prop := IsRecord [
  .required "id" (· = .text fact.id),
  .required "name" (· = .text fact.name),
  .optional "namespace" (· = .ofOption .text fact.statedNamespace) (fact.statedNamespace = none),
  .required "kind" (· = .text fact.kind.name),
  .optional "methods" (· = .ofList .text fact.methods) (fact.methods = []),
  .optional "members" (Json.IsListForm Member.IsForm fact.members) (fact.members = []),
  .optional "contracts" (· = .ofList Contract.toJson fact.contracts) (fact.contracts = [])]

theorem isForm_toJson (fact : TypeFact) : fact.IsForm fact.toJson :=
  ⟨_, rfl, .given rfl <| .given rfl <| .given rfl <| .given rfl <| .given rfl <|
    .given (Json.isListForm_ofList Member.isForm_toJson _) <| .given rfl .nil⟩

theorem ofJson?_of_isForm (h : fact.IsForm j) : ofJson? j = some fact := by
  obtain ⟨_, hfields, _ | ⟨hid, _ | ⟨hname, _ | ⟨hnamespace, _ | ⟨hkind, _ | ⟨hmethods, _ |
    ⟨hmembers, _ | ⟨hcontracts, _ | _⟩⟩⟩⟩⟩⟩⟩⟩ := h.exists_fields?
      ["id", "name", "namespace", "kind", "methods", "members", "contracts"] rfl (by decide) 4
  have hnamespace :=
    hnamespace.orDefault_eq (Json.nullable?_ofOption Json.text?_text nofun _)
  have hmethods := hmethods.orDefault_eq (Json.list?_ofList Json.text?_text _)
  have hmembers := hmembers.orDefault fun _ hform => hform.list? fun _ _ => Member.ofJson?_of_isForm
  have hcontracts := hcontracts.orDefault_eq (Json.list?_ofList Contract.ofJson?_toJson _)
  rw [ofJson?, hfields]
  simp [hid.eq_some, hname.eq_some, hnamespace, hkind.eq_some, TypeKind.ofName?_name, hmethods,
    hmembers, hcontracts]

theorem written_of_isForm (h : fact.IsForm j) : Written j := by
  refine h.written ?_
  simp only [List.forall_mem_cons, Field.required, Field.optional, forall_eq]
  exact ⟨Json.written_text _, Json.written_text _, Json.written_ofOption Json.written_text _,
    Json.written_text _, Json.written_ofList fun _ _ => Json.written_text _,
    fun _ hform => hform.written fun _ _ => Member.written_of_isForm,
    Json.written_ofList fun contract _ => contract.written_toJson, nofun⟩

end TypeFact

/-! ## Calls -/

namespace Call

variable {call : Call} {j : Json}

/-- The forms of a call. -/
def IsForm (call : Call) : Json → Prop := IsRecord [
  .required "source_type" (· = .text call.sourceType),
  .required "source_method" (· = .text call.sourceMethod),
  .required "target_type" (· = .text call.targetType),
  .optional "target_method" (· = .text call.targetMethod) (call.targetMethod = ""),
  .required "call_kind" (· = .text call.kind.name)]

theorem isForm_toJson (call : Call) : call.IsForm call.toJson :=
  ⟨_, rfl, .given rfl <| .given rfl <| .given rfl <| .given rfl <| .given rfl .nil⟩

theorem ofJson?_of_isForm (h : call.IsForm j) : ofJson? j = some call := by
  obtain ⟨_, hfields, _ | ⟨hsourceType, _ | ⟨hsourceMethod, _ | ⟨htargetType, _ |
    ⟨htargetMethod, _ | ⟨hkind, _ | _⟩⟩⟩⟩⟩⟩ := h.exists_fields?
      ["source_type", "source_method", "target_type", "target_method", "call_kind"] rfl
      (by decide) 5
  have htargetMethod := htargetMethod.orDefault_eq (Json.text?_text _)
  rw [ofJson?, hfields]
  simp [hsourceType.eq_some, hsourceMethod.eq_some, htargetType.eq_some, htargetMethod,
    hkind.eq_some, CallKind.ofName?_name]

theorem written_of_isForm (h : call.IsForm j) : Written j :=
  h.written (by simp [Field.required, Field.optional, Json.written_text])

end Call

/-! ## Batches -/

namespace Batch

variable {batch : Batch} {j : Json}

/-- **The forms of a batch.** -/
def IsForm (batch : Batch) : Json → Prop := IsRecord [
  .optional "source" (· = .text batch.source) (batch.source = ""),
  .optional "types" (Json.IsListForm TypeFact.IsForm batch.types) (batch.types = []),
  .optional "calls" (Json.IsListForm Call.IsForm batch.calls) (batch.calls = [])]

theorem isForm_toJson (batch : Batch) : batch.IsForm batch.toJson :=
  ⟨_, rfl, .given rfl <| .given (Json.isListForm_ofList TypeFact.isForm_toJson _) <|
    .given (Json.isListForm_ofList Call.isForm_toJson _) .nil⟩

/-- **A batch is read back** from any of its forms. -/
theorem ofJson?_of_isForm (h : batch.IsForm j) : ofJson? j = some batch := by
  obtain ⟨_, hfields, _ | ⟨hsource, _ | ⟨htypes, _ | ⟨hcalls, _ | _⟩⟩⟩⟩ :=
    h.exists_fields? ["source", "types", "calls"] rfl (by decide) 0
  have hsource := hsource.orDefault_eq (Json.text?_text _)
  have htypes := htypes.orDefault fun _ hform => hform.list? fun _ _ => TypeFact.ofJson?_of_isForm
  have hcalls := hcalls.orDefault fun _ hform => hform.list? fun _ _ => Call.ofJson?_of_isForm
  rw [ofJson?, hfields]
  simp [hsource, htypes, hcalls]

theorem written_of_isForm (h : batch.IsForm j) : Written j := by
  refine h.written ?_
  simp only [List.forall_mem_cons, Field.optional, forall_eq]
  exact ⟨Json.written_text _, fun _ hform => hform.written fun _ _ => TypeFact.written_of_isForm,
    fun _ hform => hform.written fun _ _ => Call.written_of_isForm, nofun⟩

theorem parse?_of_isForm (h : batch.IsForm j) : parse? j.toCompact = some batch := by
  rw [parse?, Json.parse?_toCompact (written_of_isForm h), Option.bind_some, ofJson?_of_isForm h]

end Batch

/-! ## Loading -/

/-- A run that begins with a step goes on with what the step gave. -/
theorem run_bind_of_run_eq_ok {α β : Type} {x : ExceptT Failure (StateM FileTree) α}
    {next : α → ExceptT Failure (StateM FileTree) β} {tree tree' : FileTree} {a : α}
    (h : StateT.run x.run tree = (.ok a, tree')) :
    StateT.run (x >>= next).run tree = StateT.run (next a).run tree' := by
  rw [ExceptT.run_bind, StateT.run_bind, h]
  rfl

/-- A run that begins with a step that fails comes to this failure. -/
theorem run_bind_of_run_eq_error {α β : Type} {x : ExceptT Failure (StateM FileTree) α}
    {next : α → ExceptT Failure (StateM FileTree) β} {tree after : FileTree} {failure : Failure}
    (h : StateT.run x.run tree = (.error failure, after)) :
    StateT.run (x >>= next).run tree = (.error failure, after) := by
  rw [ExceptT.run_bind, StateT.run_bind, h]
  rfl

/-- A step that cannot fail gives its result. -/
theorem run_liftM_of_run_eq {α : Type} {x : StateM FileTree α} {tree after : FileTree} {a : α}
    (h : StateT.run x tree = (a, after)) :
    StateT.run (liftM x : ExceptT Failure (StateM FileTree) α).run tree = (.ok a, after) := by
  rw [ExceptT.run_liftM, StateT.run_map, h]
  rfl

theorem run_readFile {tree : FileTree} {path text : String} (h : tree.read path = .ok text) :
    StateT.run (readFile path : ExceptT Failure (StateM FileTree) String).run tree =
      (.ok text, tree) := by
  have hfound : StateT.run (FileAccess.readText path : StateM FileTree _) tree = (.ok text, tree) :=
    congrArg (·, tree) h
  rw [readFile, ExceptT.run_mk, StateT.run_bind, hfound]
  rfl

theorem run_readFile_of_error {tree : FileTree} {path : String} {e : FileError}
    (h : tree.read path = .error e) :
    StateT.run (readFile path : ExceptT Failure (StateM FileTree) String).run tree =
      (.error (.file e), tree) := by
  have hfound : StateT.run (FileAccess.readText path : StateM FileTree _) tree = (.error e, tree) :=
    congrArg (·, tree) h
  rw [readFile, ExceptT.run_mk, StateT.run_bind, hfound]
  rfl

/-- **What loading a batch gives** where the path leads to a text. -/
theorem run_loadBatch {tree : FileTree} {path text : String} (h : tree.read path = .ok text) :
    StateT.run (loadBatch path : ExceptT Failure (StateM FileTree) Batch).run tree =
      (match Batch.parse? text with
        | some batch =>
          (.ok (if batch.source = "" then { batch with source := path } else batch), tree)
        | none => (.error (.badFacts path), tree)) := by
  rw [loadBatch, run_bind_of_run_eq_ok (run_readFile h)]
  cases Batch.parse? text <;> rfl

/-- **Fact files are read back.** A batch has the form with all its fields, and whatever form of it
a file holds the text of, with which fields of which of its parts left out, the batch is what is
loaded from the file. Only an empty source becomes the path. -/
theorem loadBatch_of_isForm (batch : Batch) :
    batch.IsForm batch.toJson ∧
      ∀ (j : Json) (tree : FileTree) (path : String), batch.IsForm j →
        tree.read path = .ok j.toCompact →
        StateT.run (loadBatch path : ExceptT Failure (StateM FileTree) Batch).run tree =
          (.ok (if batch.source = "" then { batch with source := path } else batch), tree) := by
  refine ⟨batch.isForm_toJson, fun j tree path hform hread => ?_⟩
  rw [run_loadBatch hread, Batch.parse?_of_isForm hform]

/-- An aggregate with one member that raises an event; neither the batch says where it comes from,
nor the type which namespace it is in. -/
def orderBatch : Batch where
  source := ""
  types := [{
    id := "Ordering.Order"
    name := "the \"Größe\"\n\t\x1b"
    statedNamespace := none
    kind := .aggregate
    methods := []
    members := [⟨"Lines", .plain "Ordering.Line"⟩]
    contracts := [] }]
  calls := [.raise "Ordering.Order" "Place" "Ordering.OrderPlaced"]

/-- The form of the batch without the fields that have their defaults. -/
def orderForm : Json := .object [
  ("types", .arr [.object [
    ("id", .text "Ordering.Order"),
    ("name", .text "the \"Größe\"\n\t\x1b"),
    ("kind", .text "Aggregate"),
    ("members", .arr [.object [
      ("name", .text "Lines"),
      ("type_ref", .object [("id", .text "Ordering.Line")])]])]]),
  ("calls", .arr [.object [
    ("source_type", .text "Ordering.Order"),
    ("source_method", .text "Place"),
    ("target_type", .text "Ordering.OrderPlaced"),
    ("call_kind", .text "RaiseDomainEvent")]])]

theorem isForm_orderForm : orderBatch.IsForm orderForm := by
  have hmember : Member.IsForm ⟨"Lines", .plain "Ordering.Line"⟩ (.object [
      ("name", .text "Lines"), ("type_ref", .object [("id", .text "Ordering.Line")])]) :=
    ⟨_, rfl, .given rfl <| .given ⟨_, rfl, .given rfl <| .omitted rfl .nil⟩ .nil⟩
  refine ⟨_, rfl, .omitted rfl <| .given ⟨_, rfl, .cons ?type .nil⟩ <|
    .given ⟨_, rfl, .cons ?call .nil⟩ .nil⟩
  case type =>
    exact ⟨_, rfl, .given rfl <| .given rfl <| .omitted rfl <| .given rfl <| .omitted rfl <|
      .given ⟨_, rfl, .cons hmember .nil⟩ <| .omitted rfl .nil⟩
  case call =>
    exact ⟨_, rfl, .given rfl <| .given rfl <| .given rfl <| .omitted rfl <| .given rfl .nil⟩

/-- A tree with one file, which holds the text of the form. -/
def orderTree : FileTree where
  entries := .ofFirst [
    (["facts"], .directory),
    (["facts", "order.json"], .file (.text orderForm.toCompact))]
  workingDirectory := []
  isDirectory := .inl rfl

theorem loadBatch_orderForm :
    orderBatch.IsForm orderForm ∧
      orderTree.read "facts/order.json" = .ok orderForm.toCompact ∧
      StateT.run (loadBatch "facts/order.json" : ExceptT Failure (StateM FileTree) Batch).run
          orderTree =
        (.ok { orderBatch with source := "facts/order.json" }, orderTree) := by
  have hread : orderTree.read "facts/order.json" = .ok orderForm.toCompact := by rfl
  exact ⟨isForm_orderForm, hread,
    (loadBatch_of_isForm orderBatch).2 _ _ _ isForm_orderForm hread⟩

end DomainFlow
