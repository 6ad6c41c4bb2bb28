import PivotTable.Outline.Encode

/-!
# Decoding what was encoded

Every outline is decoded from its own encoding. The nodes of an outline differ in the kind of their children
only, so that one lemma about the title and the count of a node serves them all. The forms in which an outline
may be written agree: a list of groups decodes like the object that holds it, and a single group like the list
of it, to the same outline or the same error.
-/
namespace PivotTable

/-- The members of an object as those of a record see them. -/
def Members.named (members : Members) : List (MemberKey × Json) :=
  members.map fun (key, value) => (.name key, value)

theorem Field.store_defaulted {α σ : Type} (name : String) (aliases : List String)
    (decode : Json → Decoded α) (put : α → σ → σ) (value : Json) (record : σ) :
    (Field.defaulted name aliases decode put).store value record =
      (decode value).map fun a => put a record := rfl

namespace Record

variable {σ : Type} {fields : List (Field Json σ)} {seen : List String} {record : σ}

theorem decode_obj (name : String) (fields : List (Field Json σ)) (initial : σ) (members : Members) :
    decode name fields initial (.obj members) = ofMembers fields [] initial members.named := rfl

theorem ofMembers_nil (h : ∀ f ∈ fields, f.requiredInMap = false) :
    ofMembers fields seen record ([] : List (MemberKey × Json)) = .ok record := by
  have hnone : (fields.find? fun f => f.requiredInMap && !seen.contains f.name) = none := by
    rw [List.find?_eq_none]
    intro f hf
    simp [h f hf]
  rw [ofMembers, hnone]

/-- A member of a field that was not seen is stored, and the rest is decoded from there. -/
theorem ofMembers_cons {key : String} {f : Field Json σ} (value : Json) (rest : Members)
    (hfield : fields.find? (Field.answersTo key) = some f) (hnew : f.name ∉ seen) :
    ofMembers fields seen record (Members.named ((key, value) :: rest)) =
      (f.store value record).bind fun next => ofMembers fields (f.name :: seen) next rest.named := by
  have hkey : Field.ofKey? fields (.name key) = some f := hfield
  rw [Members.named, List.map_cons, ofMembers, hkey]
  · simp only [List.contains_eq_mem, hnew, decide_false, Bool.false_eq_true, if_false]
    rfl
  · rintro ⟨⟩

end Record

namespace Outline

theorem count?_ofUInt64 (n : UInt64) : count? (.num (.ofUInt64 n)) = some n := by
  simp [Number.ofUInt64, count?]

section

variable {α σ : Type} {putTitle : String → σ → σ} {putCount : Option UInt64 → σ → σ}

/-- The fields of a node, of which the title and the count come first. -/
def nodeFields (putTitle : String → σ → σ) (putCount : Option UInt64 → σ → σ)
    (children : List (Field Json σ)) : List (Field Json σ) :=
  .defaulted "title" [] decodeTitle putTitle :: .defaulted "count" [] decodeCount putCount :: children

variable {initial : σ} {title : String}

/-- The title and the count of a node are stored first; a count that is not given is not written. -/
theorem decode_node (name : String) (children : List (Field Json σ)) (count : Option UInt64) (rest : Members)
    (hcount : putCount none (putTitle title initial) = putTitle title initial) :
    ∃ seen ⊆ ["title", "count"],
      Record.decode name (nodeFields putTitle putCount children) initial (node title count rest) =
        Record.ofMembers (nodeFields putTitle putCount children) seen
          (putCount count (putTitle title initial)) rest.named := by
  have htitle (others : Members) :
      Record.ofMembers (nodeFields putTitle putCount children) [] initial
          (Members.named (("title", .str title) :: others)) =
        Record.ofMembers (nodeFields putTitle putCount children) ["title"] (putTitle title initial)
          others.named :=
    Record.ofMembers_cons (f := .defaulted "title" [] decodeTitle putTitle) (.str title) others rfl
      List.not_mem_nil
  -- Which fields were seen depends on the count; the members that follow need only that no other was.
  cases count with
  | none =>
    refine ⟨["title"], by simp, ?_⟩
    rw [node, Record.decode_obj, htitle, hcount]
  | some n =>
    refine ⟨["count", "title"], by simp, ?_⟩
    have hvalue : decodeCount (.num (.ofUInt64 n)) = .ok (some n) := by
      rw [decodeCount, count?_ofUInt64]
    have hnew : (Field.defaulted "count" [] decodeCount putCount).name ∉ ["title"] := by simp [Field.defaulted]
    rw [node, Record.decode_obj, htitle, Record.ofMembers_cons _ rest rfl hnew, Field.store_defaulted, hvalue]
    rfl

variable {count : Option UInt64} {name : String}

theorem decode_node_leaf (hcount : putCount none (putTitle title initial) = putTitle title initial) :
    Record.decode name (nodeFields putTitle putCount []) initial (node title count []) =
      .ok (putCount count (putTitle title initial)) := by
  obtain ⟨seen, -, hdecode⟩ := decode_node name [] count [] hcount
  rw [hdecode]
  apply Record.ofMembers_nil
  simp [nodeFields, Field.defaulted]

/-- A node with a list of children is decoded if each of the children is. -/
theorem decode_node_list {key : String} {putItems : List α → σ → σ} {encode : α → Json}
    {decoder : Json → Decoded α} {items : List α} (hkey : key ∉ ["title", "count"])
    (hcount : putCount none (putTitle title initial) = putTitle title initial)
    (hitems : ∀ a ∈ items, decoder (encode a) = .ok a) :
    Record.decode name (nodeFields putTitle putCount [.defaulted key [] (listOrNull decoder) putItems]) initial
        (node title count [(key, .arr (items.map encode))]) =
      .ok (putItems items (putCount count (putTitle title initial))) := by
  let field : Field Json σ := .defaulted key [] (listOrNull decoder) putItems
  obtain ⟨seen, hseen, hdecode⟩ := decode_node name [field] count [(key, .arr (items.map encode))] hcount
  have hfield : (nodeFields putTitle putCount [field]).find? (Field.answersTo key) = some field := by
    simp only [List.mem_cons, List.not_mem_nil, or_false, not_or] at hkey
    simp [nodeFields, field, Field.defaulted, Field.answersTo, hkey]
  have hnew : field.name ∉ seen := fun hmem => hkey (hseen hmem)
  have hlist : listOrNull decoder (.arr (items.map encode)) = .ok items := mapM_encoded hitems
  have hends : ∀ f ∈ nodeFields putTitle putCount [field], f.requiredInMap = false := by
    simp [nodeFields, field, Field.defaulted]
  rw [hdecode, Record.ofMembers_cons _ [] hfield hnew, Field.store_defaulted, hlist]
  simp only [Except.map, Except.bind]
  exact Record.ofMembers_nil hends

end

theorem Subsegment.ofJson_toJson (s : Subsegment) : ofJson s.toJson = .ok s := decode_node_leaf rfl

theorem Segment.ofJson_toJson (s : Segment) : ofJson s.toJson = .ok s :=
  decode_node_list (by decide) rfl fun a _ => a.ofJson_toJson

theorem Subgroup.ofJson_toJson (s : Subgroup) : ofJson s.toJson = .ok s :=
  decode_node_list (by decide) rfl fun a _ => a.ofJson_toJson

theorem Group.ofJson_toJson (g : Group) : ofJson g.toJson = .ok g :=
  decode_node_list (by decide) rfl fun a _ => a.ofJson_toJson

theorem ofJson_arr (items : List Json) :
    ofJson (.arr items) = (items.mapM Group.ofJson).map fun groups => ⟨groups⟩ := by
  rw [ofJson]
  cases items.mapM Group.ofJson <;> rfl

/-- The object form takes its groups from their list as the bare list does. -/
theorem ofJson_groups (items : List Json) :
    ofJson (.obj [("groups", .arr items)]) = (items.mapM Group.ofJson).map fun groups => ⟨groups⟩ := by
  have hobject : ofJson (.obj [("groups", .arr items)]) = ofObject (.obj [("groups", .arr items)]) := rfl
  have hlist : listOrNull Group.ofJson (.arr items) = items.mapM Group.ofJson := rfl
  rw [hobject, ofObject, Record.decode_obj, Record.ofMembers_cons _ [] rfl List.not_mem_nil,
    Field.store_defaulted, hlist]
  cases items.mapM Group.ofJson <;> rfl

theorem ofJson_group {members : Members} (h : "groups" ∉ members.map Prod.fst) :
    ofJson (.obj members) = (Group.ofJson (.obj members)).map fun group => ⟨[group]⟩ := by
  have hlookup : members.get? "groups" = none := by
    rw [Members.get?, List.lookup_eq_none_iff]
    intro member hmember
    rw [bne_iff_ne]
    exact fun hkey => h (hkey ▸ List.mem_map_of_mem hmember)
  rw [ofJson, Json.get?, hlookup]
  cases Group.ofJson (.obj members) <;> rfl

theorem ofJson_toJson (o : Outline) : ofJson o.toJson = .ok o := by
  rw [toJson, ofJson_groups, mapM_encoded fun g _ => g.ofJson_toJson]
  rfl

/-- Decoding gives back what was encoded, and the forms of an outline agree, also where they are malformed: the
object with a list of groups and the list, and a group on its own and the list of it. -/
theorem forms_agree :
    (∀ o : Outline, ofJson o.toJson = .ok o) ∧
      (∀ items : List Json, ofJson (.arr items) = ofJson (.obj [("groups", .arr items)])) ∧
      ∀ members : Members, "groups" ∉ members.map Prod.fst →
        ofJson (.arr [.obj members]) = ofJson (.obj members) := by
  refine ⟨ofJson_toJson, fun items => ?_, fun members h => ?_⟩
  · rw [ofJson_arr, ofJson_groups]
  · rw [ofJson_arr, ofJson_group h]
    cases hgroup : Group.ofJson (.obj members) <;>
      simp [hgroup, bind, Except.bind, Except.map, pure, Except.pure]

theorem forms_agree_lenient :
    let members : Members := [("title", .bool true), ("count", .str " +3"), ("subgroups", .null)]
    ofJson (.arr [.obj members]) = ofJson (.obj members) ∧
      ofJson (.obj members) = .ok ⟨[⟨"true", some 3, []⟩]⟩ :=
  ⟨forms_agree.2.2 _ (by decide), rfl⟩

end Outline

end PivotTable
