import PivotTable.Exclusion
import PivotTable.Proofs.Authored

/-!
# Lists of exclusions

What a list of exclusions drops is what any of its entries drops alone. So the order of entries and their number
do not matter, an entry more never lets a combination back in, and an entry that states no exclusion may be left
out. Main statement: this holds of authored lists of any entries.
-/
namespace PivotTable

namespace KeySet

theorem mem_toList_foldl_insert {s : KeySet} {keys : List String} {k : String} :
    k ∈ (keys.foldl insert s).toList ↔ k ∈ s.toList ∨ k ∈ keys := by
  induction keys generalizing s with
  | nil => simp
  | cons key rest ih =>
    rw [List.foldl_cons, ih, mem_toList_insert, List.mem_cons, or_comm (a := k = key), or_assoc]

theorem mem_toList_ofList {keys : List String} {k : String} : k ∈ (ofList keys).toList ↔ k ∈ keys := by
  rw [ofList, mem_toList_foldl_insert]
  exact or_iff_right List.not_mem_nil

/-- The values that a list or a single value stands for. -/
def alternatives : Json → List Json
  | .arr items => items
  | value => [value]

theorem ofJson_eq (value : Json) : ofJson value = ofList ((alternatives value).map Json.key) := by
  cases value <;> rfl

theorem isEmpty_nonempty_iff {s : KeySet} : s.nonempty.isEmpty = true ↔ ∀ key ∈ s.toList, key = "" := by
  simp [isEmpty, nonempty]

theorem isEmpty_nonempty_ofJson_iff {value : Json} :
    (ofJson value).nonempty.isEmpty = true ↔ ∀ item ∈ alternatives value, item.key = "" := by
  rw [isEmpty_nonempty_iff, ofJson_eq]
  simp only [mem_toList_ofList, List.forall_mem_map]

end KeySet

namespace Exclusion

def drops (t : Tuple) (dimensions : Row) : Exclusion → Bool
  | .cell key => dimensions.values.any fun value => value.key == key
  | .field name values => (fieldValue? name t dimensions).any values.accepts

/-- The exclusion that an entry of a list states, if any. -/
def stated? (item : Json) : Option Exclusion := (ofEntry item).toOption.join

def Refused (item : Json) : Prop := ∃ reason, ofEntry item = .error reason

/-- The values that an entry names. -/
def named : Json → List Json
  | .obj members => ((members.lookup "values").or (members.lookup "value")).elim [] KeySet.alternatives
  | value => KeySet.alternatives value

def Blank (item : Json) : Prop := ∀ value ∈ named item, value.key = ""

theorem stated?_scalar_eq_none_iff {item : Json} (hnamed : named item = [item])
    (hentry : ofEntry item = .ok (if item.key.isEmpty then none else some (.cell item.key))) :
    stated? item = none ↔ Refused item ∨ Blank item := by
  have hrefused : ¬ Refused item := by
    rintro ⟨reason, hreason⟩
    rw [hentry] at hreason
    cases hreason
  have hblank : Blank item ↔ item.key.isEmpty = true := by
    simp [Blank, hnamed, String.isEmpty_iff]
  rw [or_iff_right hrefused, hblank, stated?, hentry]
  cases item.key.isEmpty <;> simp [Except.toOption]

theorem stated?_obj_eq_none_iff (members : Members) :
    stated? (.obj members) = none ↔ Refused (.obj members) ∨ Blank (.obj members) := by
  unfold stated? Refused ofEntry
  dsimp only
  split
  · next key hkey =>
    split
    · exact iff_of_true rfl (.inl ⟨_, rfl⟩)
    · split
      · next values hvalues =>
        -- the only way not to be refused, and then only the values count
        have hblank : Blank (.obj members) ↔ (KeySet.ofJson values).nonempty.isEmpty = true := by
          rw [KeySet.isEmpty_nonempty_ofJson_iff, Blank, named, hvalues]
          rfl
        rw [hblank]
        cases (KeySet.ofJson values).nonempty.isEmpty <;> simp [Except.toOption]
      · exact iff_of_true rfl (.inl ⟨_, rfl⟩)
  · exact iff_of_true rfl (.inl ⟨_, rfl⟩)

/-- An entry states no exclusion if it is refused, or if it names only blank values. -/
theorem stated?_eq_none_iff {item : Json} : stated? item = none ↔ Refused item ∨ Blank item := by
  cases item with
  | obj members => exact stated?_obj_eq_none_iff members
  | arr items => exact iff_of_true rfl (.inl ⟨_, rfl⟩)
  | null => exact stated?_scalar_eq_none_iff rfl rfl
  | bool b => exact stated?_scalar_eq_none_iff rfl rfl
  | num n => exact stated?_scalar_eq_none_iff rfl rfl
  | str s => exact stated?_scalar_eq_none_iff rfl rfl

end Exclusion

namespace ExclusionSet

open Exclusion (drops stated?)

variable {t : Tuple} {dimensions : Row}

theorem excludes_add (s : ExclusionSet) (e : Exclusion) :
    (s.add e).excludes t dimensions = (s.excludes t dimensions || e.drops t dimensions) := by
  cases e with
  | cell key =>
    have hcontains (value : Json) : (s.cells.insert key).contains value.key =
        (s.cells.contains value.key || value.key == key) := by
      rw [Bool.eq_iff_iff, Bool.or_eq_true, KeySet.contains_iff_mem, KeySet.contains_iff_mem,
        KeySet.mem_toList_insert, beq_iff_eq, or_comm]
    have hcells : dimensions.values.any (fun value => (s.cells.insert key).contains value.key) =
        (dimensions.values.any (fun value => s.cells.contains value.key) ||
          dimensions.values.any fun value => value.key == key) := by
      rw [Bool.eq_iff_iff]
      simp only [hcontains, Bool.or_eq_true, List.any_eq_true, and_or_left, exists_or]
    simp only [excludes, add, drops, hcells, Bool.or_assoc, Bool.or_comm]
  | field name values =>
    simp only [excludes, add, drops, List.any_append, List.any_cons, List.any_nil, Bool.or_false,
      Bool.or_assoc]

theorem excludes_foldl_add (s : ExclusionSet) (exclusions : List Exclusion) :
    (exclusions.foldl add s).excludes t dimensions =
      (s.excludes t dimensions || exclusions.any (drops t dimensions)) := by
  induction exclusions generalizing s with
  | nil => exact (Bool.or_false _).symm
  | cons e rest ih => rw [List.foldl_cons, ih, excludes_add, List.any_cons, Bool.or_assoc]

theorem excludes_empty : empty.excludes t dimensions = false := by
  simp [excludes, empty, KeySet.empty, KeySet.contains]

theorem value_ofAuthored (a : Authored) :
    (ofAuthored a).value = ofList (a.items.filterMap stated?) := by
  have hstated : (a.entries "exclusions" Exclusion.ofEntry).value.filterMap Prod.snd =
      a.items.filterMap stated? := by
    calc
      (a.entries "exclusions" Exclusion.ofEntry).value.filterMap Prod.snd =
          ((a.entries "exclusions" Exclusion.ofEntry).value.map Prod.snd).filterMap id := by
        rw [List.filterMap_map]
        rfl
      _ = (a.items.filterMap fun item => (Exclusion.ofEntry item).toOption).filterMap id := by
        rw [Authored.value_entries]
      _ = a.items.filterMap stated? := by
        rw [List.filterMap_filterMap]
        rfl
  rw [ofAuthored, Reported.value_bind, Reported.value_pure, hstated]

/-- What a list drops is what one of its entries drops. -/
theorem excludes_ofAuthored_iff (a : Authored) :
    (ofAuthored a).value.excludes t dimensions = true ↔
      ∃ item ∈ a.items, ∃ e, stated? item = some e ∧ e.drops t dimensions = true := by
  rw [value_ofAuthored, ofList, excludes_foldl_add, excludes_empty, Bool.false_or, List.any_eq_true]
  constructor
  · rintro ⟨e, he, hdrops⟩
    obtain ⟨item, hitem, hstated⟩ := List.mem_filterMap.1 he
    exact ⟨item, hitem, e, hstated, hdrops⟩
  · rintro ⟨item, hitem, e, hstated, hdrops⟩
    exact ⟨e, List.mem_filterMap.2 ⟨item, hitem, hstated⟩, hdrops⟩

/-- What is dropped by entries that are kept, or are neither refused nor blank, is dropped without the rest. -/
theorem excludes_of_kept {a b : Authored}
    (hkept : ∀ item ∈ a.items, item ∈ b.items ∨ Exclusion.Refused item ∨ Exclusion.Blank item)
    (h : (ofAuthored a).value.excludes t dimensions = true) :
    (ofAuthored b).value.excludes t dimensions = true := by
  rw [excludes_ofAuthored_iff] at h ⊢
  obtain ⟨item, hitem, e, hstated, hdrops⟩ := h
  rcases hkept item hitem with hmem | hidle
  · exact ⟨item, hmem, e, hstated, hdrops⟩
  · rw [Exclusion.stated?_eq_none_iff.2 hidle] at hstated
    cases hstated

/-- Lists of exclusions combine as a disjunction. Lists with the same entries, in whatever order and number,
decide alike; further entries drop no less; and entries that are refused or blank may be left out. -/
theorem excludes_by_entries (t : Tuple) (dimensions : Row) :
    let dropped (a : Authored) : Bool := (ofAuthored a).value.excludes t dimensions
    (∀ a b whole : Authored, whole.items = a.items ++ b.items → dropped whole = (dropped a || dropped b)) ∧
      (∀ a b : Authored, (∀ item, item ∈ a.items ↔ item ∈ b.items) → dropped a = dropped b) ∧
      (∀ a b : Authored, a.items ⊆ b.items → dropped a = true → dropped b = true) ∧
      ∀ a b : Authored, b.items ⊆ a.items →
        (∀ item ∈ a.items, item ∈ b.items ∨ Exclusion.Refused item ∨ Exclusion.Blank item) →
        dropped b = dropped a := by
  intro dropped
  have hmono (a b : Authored) (h : a.items ⊆ b.items) : dropped a = true → dropped b = true :=
    excludes_of_kept fun item hitem => .inl (h hitem)
  refine ⟨fun a b whole hwhole => ?_, fun a b hsame => ?_, hmono, fun a b hsubset hkept => ?_⟩
  · have hsplit : dropped whole = true ↔ dropped a = true ∨ dropped b = true := by
      simp only [dropped, excludes_ofAuthored_iff, hwhole, List.mem_append, or_and_right, exists_or]
    rw [Bool.eq_iff_iff, hsplit, Bool.or_eq_true]
  · exact Bool.eq_iff_iff.2
      ⟨hmono a b fun item hitem => (hsame item).1 hitem, hmono b a fun item hitem => (hsame item).2 hitem⟩
  · exact Bool.eq_iff_iff.2 ⟨hmono b a hsubset, excludes_of_kept hkept⟩

theorem excludes_by_entries_mixed :
    let bing := Json.obj [("key", .str "platform"), ("values", .arr [.str "Bing Ads"])]
    let a := Authored.json (.arr [.str "Competitor", .null])
    let b := Authored.json (.arr [.arr [.str "North"], .str " - ", bing])
    let whole := Authored.json (.arr [.str "Competitor", .null, .arr [.str "North"], .str " - ", bing])
    let shuffled := Authored.json
      (.arr [bing, .str " - ", .str "Competitor", bing, .arr [.str "North"], .null])
    let kept := Authored.json (.arr [.str "Competitor", bing])
    let t : Tuple := ⟨⟨"Media", "Paid", "", ""⟩, "spend"⟩
    let dimensions := (Row.empty.put "platform" (.str "bing-ads")).put "region" (.str "North")
    let dropped (a : Authored) : Bool := (ofAuthored a).value.excludes t dimensions
    dropped whole = (dropped a || dropped b) ∧ dropped whole = dropped shuffled ∧
      dropped whole = true ∧ dropped kept = dropped whole := by
  intro bing a b whole shuffled kept t dimensions dropped
  obtain ⟨happend, hsame, hmono, hkept⟩ := excludes_by_entries t dimensions
  have hb : dropped b = true := by decide +kernel
  refine ⟨happend a b whole rfl, hsame whole shuffled ?_, hmono b whole ?_ hb, hkept whole kept ?_ ?_⟩
  · intro item
    simp only [whole, shuffled, Authored.items, Authored.read, List.mem_cons, List.not_mem_nil, or_false]
    grind
  · simp [b, whole, Authored.items, Authored.read]
  · simp [kept, whole, Authored.items, Authored.read]
  · simp only [whole, Authored.items, Authored.read, List.forall_mem_cons]
    refine ⟨.inl (by decide), .inr (.inr ?_), .inr (.inl ⟨_, rfl⟩), .inr (.inr ?_), .inl (by decide), nofun⟩
    · exact List.forall_mem_singleton.2 (by decide +kernel)
    · exact List.forall_mem_singleton.2 (by decide +kernel)

end ExclusionSet

end PivotTable
