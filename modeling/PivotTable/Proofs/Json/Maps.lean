import PivotTable.Proofs.Json.Writing

/-!
# Reading maps that were written

The reader gives back the maps that the writer wrote if no key stands twice in them. A key that stands twice
would be merged into one member.
-/
namespace PivotTable

namespace Members

theorem put_of_not_mem {members : Members} {key : String} (h : key ∉ members.map Prod.fst) (value : Json) :
    members.put key value = members ++ [(key, value)] := by
  induction members with
  | nil => rfl
  | cons member rest ih =>
    obtain ⟨k, v⟩ := member
    rw [List.map_cons, List.mem_cons, not_or] at h
    rw [put, if_neg (Ne.symm h.1), ih h.2, List.cons_append]

theorem foldl_put_of_nodup {members kept : Members} (h : ((kept ++ members).map Prod.fst).Nodup) :
    members.foldl (fun kept member => kept.put member.1 member.2) kept = kept ++ members := by
  induction members generalizing kept with
  | nil => simp
  | cons member rest ih =>
    have hnew : member.1 ∉ kept.map Prod.fst := by
      rw [List.map_append, List.map_cons] at h
      exact fun hmem => List.disjoint_of_nodup_append h hmem List.mem_cons_self
    have hassoc : kept ++ [(member.1, member.2)] ++ rest = kept ++ member :: rest := by simp
    rw [List.foldl_cons, put_of_not_mem hnew, ih (by rwa [hassoc]), hassoc]

/-- Members with distinct keys are kept as they stand. -/
theorem ofList_of_nodup {members : Members} (h : (members.map Prod.fst).Nodup) : ofList members = members :=
  foldl_put_of_nodup h

end Members

namespace Json

variable {depth : Nat} {members : Members} {rest : List Char}

theorem afterMember_cons (member : String × Json) (members : Members) :
    afterMember (member :: members) = ',' :: memberChars (member :: members) := rfl

theorem skipSpace_stringChars (key : String) (rest : List Char) :
    skipSpace (stringChars key ++ rest) = '"' :: (key.toList.flatMap escapedChar ++ '"' :: rest) := by
  have hquote : stringChars key ++ rest = '"' :: (key.toList.flatMap escapedChar ++ '"' :: rest) := by
    simp [stringChars]
  rw [hquote]
  exact skipSpace_cons rfl

theorem opens_memberChars (member : String × Json) (members : Members) :
    ∃ cs, memberChars (member :: members) = '"' :: cs := by
  obtain ⟨key, v⟩ := member
  exact ⟨_, by rw [memberChars_cons, stringChars, List.cons_append, List.cons_append, List.cons_append]⟩

/-- The reader stops at the brace behind the last member. -/
theorem scanMembers_memberChars (hne : members ≠ []) (h : ∀ member ∈ members, Scans depth member.2)
    {fuel : Nat} (hfuel : (memberChars members).length < fuel) :
    scanMembers fuel depth (memberChars members ++ '\x7d' :: rest) =
      (Document.ofMembers members, some rest) := by
  -- The scanner goes from member to member, and its fuel is one less at each.
  induction members generalizing fuel with
  | nil => exact absurd rfl hne
  | cons member members ih =>
    obtain ⟨key, v⟩ := member
    have hv : Scans depth v := h (key, v) List.mem_cons_self
    have hmembers : ∀ member ∈ members, Scans depth member.2 := (List.forall_mem_cons.1 h).2
    cases fuel with
    | zero => omega
    | succ fuel =>
      rw [memberChars_cons, List.length_append, List.length_append, List.length_cons] at hfuel
      have hkey := scanString?_escaped key (':' :: (v.chars ++ (afterMember members ++ '\x7d' :: rest)))
      have hends : EndsNumber (afterMember members ++ '\x7d' :: rest) := by
        cases members <;> exact endsNumber_cons (by decide)
      have hscan := hv.scan fuel (afterMember members ++ '\x7d' :: rest) (by omega) hends
      have hcolon (s : List Char) : skipSpace (':' :: s) = ':' :: s := skipSpace_cons rfl
      cases members with
      | nil =>
        have hbrace : skipSpace ('\x7d' :: rest) = '\x7d' :: rest := skipSpace_cons rfl
        rw [afterMember, List.nil_append] at hscan hkey
        simp [scanMembers, memberChars_cons, skipSpace_stringChars, hkey, hcolon, hscan, hbrace,
          afterMember, Document.ofMembers, MemberKey.ofText?]
      | cons next members =>
        have hcomma (s : List Char) : skipSpace (',' :: s) = ',' :: s := skipSpace_cons rfl
        rw [afterMember_cons, List.length_cons] at hfuel
        have hrest : scanMembers fuel depth (memberChars (next :: members) ++ '\x7d' :: rest) =
            (Document.ofMembers (next :: members), some rest) :=
          ih (List.cons_ne_nil _ _) hmembers (by omega)
        rw [afterMember_cons, List.cons_append] at hscan hkey
        rw [memberChars_cons, afterMember_cons]
        simp [scanMembers, skipSpace_stringChars, hkey, hcolon, hscan, hcomma, hrest,
          Document.ofMembers, MemberKey.ofText?]

theorem membersToJson?_ofMembers (h : ∀ member ∈ members, Scans depth member.2) :
    Document.membersToJson? (Document.ofMembers members) = some members := by
  induction members with
  | nil => rfl
  | cons member members ih =>
    obtain ⟨key, v⟩ := member
    obtain ⟨hv, hmembers⟩ := List.forall_mem_cons.1 h
    simp [Document.ofMembers, Document.membersToJson?, MemberKey.text?, hv.denotes, ih hmembers]

/-- A map with distinct keys is read back if its values are, one level deeper. -/
theorem scans_obj (hdepth : depth < depthLimit) (hkeys : (members.map Prod.fst).Nodup)
    (h : ∀ member ∈ members, Scans (depth + 1) member.2) : Scans depth (.obj members) := by
  have hwritten : (Json.obj members).chars = '\x7b' :: (memberChars members ++ ['\x7d']) := by
    rw [chars, List.cons_append]
  refine ⟨⟨_, _, hwritten, rfl, by decide⟩, ?_, ?_⟩
  · intro fuel rest hfuel hrest
    rw [hwritten] at hfuel ⊢
    rw [List.length_cons, List.length_append, List.length_singleton] at hfuel
    have hbrace (s : List Char) : skipSpace ('\x7b' :: s) = '\x7b' :: s := skipSpace_cons rfl
    cases fuel with
    | zero => omega
    | succ fuel =>
      cases members with
      | nil =>
        simp [scanValue, memberChars, skipSpace, isSpace, atDepth, hdepth, Document.ofJson,
          Document.ofMembers]
      | cons member members =>
        have hmembers : scanMembers fuel (depth + 1) (memberChars (member :: members) ++ '\x7d' :: rest) =
            (Document.ofMembers (member :: members), some rest) :=
          scanMembers_memberChars (List.cons_ne_nil _ _) h (by omega)
        obtain ⟨cs, hchars⟩ := opens_memberChars member members
        rw [hchars, List.cons_append] at hmembers
        have hquote (s : List Char) : skipSpace ('"' :: s) = '"' :: s := skipSpace_cons rfl
        rw [hchars]
        simp [scanValue, hbrace, hquote, hmembers, atDepth, hdepth, Document.ofJson]
  · simp [Document.ofJson, Document.toJson?, membersToJson?_ofMembers h, Members.ofList_of_nodup hkeys]

end Json

end PivotTable
