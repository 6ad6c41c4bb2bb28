import PivotTable.Proofs.Rule.Keys

/-!
# Exclusions and blank cells

Authored exclusions never ask for a blank value. A text that is added by hand is taken as it is, and one without
letters and numbers has the key of a blank cell. Main statement: a set of exclusions is blind to blank cells if
and only if none of the texts added to it is of this kind.
-/
namespace PivotTable

namespace Row

def nonblank (r : Row) : Row :=
  ⟨r.cells.filter fun cell => cell.2.key ≠ "", List.Nodup.sublist (List.Sublist.map _ List.filter_sublist) r.nodup⟩

theorem get?_nonblank_eq_some_iff {r : Row} {column : String} {value : Json} :
    r.nonblank.get? column = some value ↔ r.get? column = some value ∧ value.key ≠ "" := by
  rw [get?_eq_some_iff, get?_eq_some_iff, nonblank, List.mem_filter, decide_eq_true_eq]

theorem keyAt_eq_iff {r : Row} {column key : String} (hkey : key ≠ "") :
    r.keyAt column = key ↔ ∃ value, r.get? column = some value ∧ value.key = key := by
  unfold keyAt
  cases r.get? column with
  | none => simpa using hkey.symm
  | some value => simp

theorem keyAt_nonblank (r : Row) (column : String) : r.nonblank.keyAt column = r.keyAt column := by
  have hkeys (key : String) (hkey : key ≠ "") : r.nonblank.keyAt column = key ↔ r.keyAt column = key := by
    rw [keyAt_eq_iff hkey, keyAt_eq_iff hkey]
    refine exists_congr fun value => ?_
    rw [get?_nonblank_eq_some_iff, and_assoc]
    exact and_congr_right fun _ => and_iff_right_of_imp fun h => h ▸ hkey
  by_cases hblank : r.keyAt column = ""
  · rw [hblank]
    exact Decidable.byContradiction fun h => h (((hkeys _ h).1 rfl).symm.trans hblank)
  · exact (hkeys _ hblank).2 rfl

end Row

namespace ExclusionSet

open Text (matchKey)

/-- A set that is decoded from an authored list or collected from texts, and to which texts may be added. -/
inductive Construction
  | authored (list : Authored)
  | collected (texts : List String)
  | extended (base : Construction) (text : String)

namespace Construction

def set : Construction → ExclusionSet
  | authored list => (ofAuthored list).value
  | collected texts => ofList (texts.map Exclusion.ofText)
  | extended base text => base.set.add (Exclusion.ofText text)

def texts : Construction → List String
  | authored _ => []
  | collected texts => texts
  | extended base text => base.texts ++ [text]

end Construction

theorem mem_cells_add_ofText {s : ExclusionSet} {text key : String} :
    key ∈ (s.add (.ofText text)).cells.toList ↔ key = matchKey text ∨ key ∈ s.cells.toList :=
  KeySet.mem_toList_insert

theorem fields_foldl_ofText (s : ExclusionSet) (texts : List String) :
    ((texts.map Exclusion.ofText).foldl add s).fields = s.fields := by
  induction texts generalizing s with
  | nil => rfl
  | cons text rest ih => exact ih _

theorem mem_cells_foldl_ofText {s : ExclusionSet} {texts : List String} {key : String} :
    key ∈ ((texts.map Exclusion.ofText).foldl add s).cells.toList ↔
      key ∈ s.cells.toList ∨ key ∈ texts.map matchKey := by
  induction texts generalizing s with
  | nil => exact (or_iff_left List.not_mem_nil).symm
  | cons text rest ih =>
    rw [List.map_cons, List.foldl_cons, ih, mem_cells_add_ofText, List.map_cons, List.mem_cons,
      or_comm (a := key = matchKey text), or_assoc]

/-- Fields never ask for a blank value, wherever the set comes from. -/
theorem Construction.contains_blank_of_mem_fields (c : Construction) :
    ∀ field ∈ c.set.fields, field.2.contains "" = false := by
  induction c with
  | authored list => exact (skipsBlank_ofAuthored list).fields
  | collected texts =>
    rw [set, ofList, fields_foldl_ofText]
    exact List.forall_mem_nil _
  | extended base text ih => exact ih

theorem Construction.blank_mem_cells_iff (c : Construction) :
    "" ∈ c.set.cells.toList ↔ "" ∈ c.texts.map matchKey := by
  induction c with
  | authored list =>
    have hcells := (skipsBlank_ofAuthored list).cells
    rw [← Bool.not_eq_true, KeySet.contains_iff_mem] at hcells
    exact iff_of_false hcells List.not_mem_nil
  | collected texts =>
    rw [set, ofList, mem_cells_foldl_ofText]
    exact or_iff_right List.not_mem_nil
  | extended base text ih =>
    rw [set, mem_cells_add_ofText, ih, texts, List.map_append, List.mem_append, List.map_singleton,
      List.mem_singleton, or_comm]

/-- A combination in which everything is blank, but for what its row says. -/
def blankTuple : Tuple := ⟨⟨"", "", "", ""⟩, ""⟩

theorem excludes_blankTuple {s : ExclusionSet} (hfields : ∀ field ∈ s.fields, field.2.contains "" = false) :
    s.excludes blankTuple .empty = false := by
  have hfield : ∀ field ∈ s.fields, (fieldValue? field.1 blankTuple .empty).any field.2.accepts = false := by
    intro field hmem
    have hkey : Text.fieldKey (fieldValue? field.1 blankTuple .empty) = "" := by
      unfold fieldValue? Tuple.get?
      split
      · rfl
      · cases Level.ofName? field.1 with
        | none => rfl
        | some level => cases level <;> rfl
    rw [KeySet.any_accepts (hfields field hmem), hkey]
    exact hfields field hmem
  rw [excludes, Bool.or_eq_false_iff]
  exact ⟨rfl, List.any_eq_false.2 fun field hmem => Bool.eq_false_iff.1 (hfield field hmem)⟩

/-- Blank cells play no part if and only if no text that was added has the key of a blank cell. -/
theorem Construction.excludes_nonblank_iff (c : Construction) :
    (∀ t dimensions, c.set.excludes t dimensions.nonblank = c.set.excludes t dimensions) ↔
      ∀ text ∈ c.texts, matchKey text ≠ "" := by
  have hblank := c.blank_mem_cells_iff
  constructor
  · intro hblind text htext hkey
    -- the cell is blank, so the row without it is empty
    have hcell : c.set.excludes blankTuple (Row.empty.put "note" .null) = true := by
      have hmem := hblank.2 (List.mem_map.2 ⟨text, htext, hkey⟩)
      rw [excludes, Bool.or_eq_true, List.any_eq_true]
      exact .inl ⟨.null, List.mem_singleton.2 rfl, KeySet.contains_iff_mem.2 hmem⟩
    have hrow : (Row.empty.put "note" .null).nonblank = .empty := rfl
    have hnone := excludes_blankTuple c.contains_blank_of_mem_fields
    rw [← hblind, hrow, hnone] at hcell
    cases hcell
  · intro hkeys t dimensions
    have hskips : c.set.SkipsBlank := by
      refine ⟨?_, c.contains_blank_of_mem_fields⟩
      rw [← Bool.not_eq_true, KeySet.contains_iff_mem, hblank]
      intro hmem
      obtain ⟨text, htext, hkey⟩ := List.mem_map.1 hmem
      exact hkeys text htext hkey
    have hagree : Combination.Agree ⟨t, dimensions.nonblank⟩ ⟨t, dimensions⟩ :=
      ⟨fun _ => rfl, rfl, dimensions.keyAt_nonblank⟩
    exact hskips.excludes_congr hagree

/-- A dash is added to a list that drops competitors, and then an empty cell is dropped as well. -/
theorem Construction.excludes_blank_of_dash :
    let c := Construction.extended (.authored (.json (.arr [.str "Competitor"]))) " - "
    let t : Tuple := ⟨⟨"Media", "Paid", "", ""⟩, "spend"⟩
    let dimensions := Row.empty.put "region" (.str "")
    c.set.excludes t dimensions = true ∧ c.set.excludes t dimensions.nonblank = false := by
  decide +kernel

end ExclusionSet

end PivotTable
