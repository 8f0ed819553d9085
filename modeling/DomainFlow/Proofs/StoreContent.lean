import DomainFlow.Proofs.Forms

/-!
# What the fingerprint of a store stands for

The text that is hashed for a store consists of three documents without separators: the nodes by id,
the relationships and the owners. Every document ends with the bracket that closes it, so the next
one can be told from it, and what a document holds is read back from its form. So the text stands
for the graph and the owners, for all of them and for nothing else.

## Main results

* `SortedMap.toJson_injective`: a map is known by its form
* `SortedSet.ofList_toList_injective`: so is a set
* `Store.toUTF8_content_eq_iff`: a store is known by its content, as far as its graph goes
-/

namespace DomainFlow

/-! ## Maps and sets -/

theorem SortedMap.toJson_injective {β : Type} {write : β → Json} {read : Json → Option β}
    (h : ∀ b, read (write b) = some b) :
    Function.Injective (SortedMap.toJson write : SortedMap String β → Json) := by
  intro m n heq
  have hentries : m.entries = n.entries := by
    have hread := Json.entries?_object h m.entries
    rw [← SortedMap.toJson, heq, SortedMap.toJson, Json.entries?_object h n.entries] at hread
    exact (Option.some.inj hread).symm
  cases m
  cases n
  cases hentries
  rfl

theorem SortedSet.ofList_toList_injective {α : Type} [Ord α] [Std.TransOrd α] [Std.LawfulEqOrd α]
    {write : α → Json} {read : Json → Option α} (h : ∀ a, read (write a) = some a) :
    Function.Injective fun s : SortedSet α => Json.ofList write s.toList := by
  intro s t heq
  have hlist : s.toList = t.toList :=
    List.map_injective_iff.2 (Json.injective_of_read h) (Json.arr.inj heq)
  exact ext fun a => by rw [← mem_toList, hlist, mem_toList]

theorem SortedMap.written_toJson {β : Type} {write : β → Json}
    (h : ∀ b, Json.Written (write b)) (m : SortedMap String β) : (m.toJson write).Written :=
  Json.written_object (List.forall_mem_map.2 fun e _ => h e.2)

/-! ## The documents of a store -/

theorem Node.written_toJson (node : Node) : node.toJson.Written :=
  Json.written_object (by simp [Json.written_text])

theorem Relationship.written_toJson (r : Relationship) : r.toJson.Written :=
  Json.written_object (by simp [Json.written_text])

namespace Store

theorem written_nodesJson (store : Store) : store.nodesJson.Written :=
  store.nodes.written_toJson Node.written_toJson

theorem written_relationshipsJson (store : Store) : store.relationshipsJson.Written :=
  Json.written_ofList fun r _ => r.written_toJson

theorem written_ownershipJson (store : Store) : store.ownershipJson.Written :=
  store.ownership.written_toJson Json.written_text

theorem content_toList (store : Store) :
    store.content.toList = store.nodesJson.render .compact 0 ++
      (store.relationshipsJson.render .compact 0 ++ store.ownershipJson.render .compact 0) := by
  simp [content, Json.toCompact]

/-- The three documents of a content can be told apart. -/
theorem documents_eq_of_content_eq {a b : Store} (h : a.content = b.content) :
    a.nodesJson = b.nodesJson ∧ a.relationshipsJson = b.relationshipsJson ∧
      a.ownershipJson = b.ownershipJson := by
  have hblank := Json.Layout.isBlank_compact
  have hchars := congrArg String.toList h
  rw [content_toList, content_toList] at hchars
  -- behind the nodes stands the bracket of an array, behind the relationships that of an object
  obtain ⟨hnodes, hrest⟩ := Json.render_append_inj hblank a.written_nodesJson b.written_nodesJson
    (Json.ends_render_arr _ _ _ _) (Json.ends_render_arr _ _ _ _) hchars
  rw [← List.append_nil (a.ownershipJson.render _ _),
    ← List.append_nil (b.ownershipJson.render _ _)] at hrest
  obtain ⟨hrelationships, hrest⟩ := Json.render_append_inj hblank a.written_relationshipsJson
    b.written_relationshipsJson (Json.ends_render_obj _ _ _ _) (Json.ends_render_obj _ _ _ _) hrest
  obtain ⟨howners, -⟩ := Json.render_append_inj hblank a.written_ownershipJson
    b.written_ownershipJson Json.ends_nil Json.ends_nil hrest
  exact ⟨hnodes, hrelationships, howners⟩

/-- **A store is known by its content**, as far as its graph goes: the bytes that are hashed for two
stores are the same exactly if the stores have the same nodes, relationships and owners. Which
batches were merged and which nodes are derived does not enter. -/
theorem toUTF8_content_eq_iff (a b : Store) :
    a.content.toUTF8 = b.content.toUTF8 ↔
      a.nodes = b.nodes ∧ a.relationships = b.relationships ∧ a.ownership = b.ownership := by
  constructor
  · intro h
    obtain ⟨hnodes, hrelationships, howners⟩ :=
      documents_eq_of_content_eq (String.toByteArray_inj.1 h)
    exact ⟨SortedMap.toJson_injective Node.ofJson?_toJson hnodes,
      SortedSet.ofList_toList_injective Relationship.ofJson?_toJson hrelationships,
      SortedMap.toJson_injective Json.text?_text howners⟩
  · rintro ⟨hnodes, hrelationships, howners⟩
    rw [content, content, nodesJson, nodesJson, relationshipsJson, relationshipsJson, ownershipJson,
      ownershipJson, hnodes, hrelationships, howners]

end Store

end DomainFlow
