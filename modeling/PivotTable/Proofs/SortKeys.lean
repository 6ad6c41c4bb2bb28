import PivotTable.Proofs.OrderedSet
import PivotTable.SortKeys

/-!
# Columns of sort keys

A new column is added at the end and its place is noted; nothing else touches the names of columns or their
places. So the places of sort keys number the columns from the first one on, and need not be written; and what
is done to one column leaves all others as they are. Sort keys come of sightings, each of some texts under one
column: whatever the columns between them, a column has the texts that were seen under it, each where it first
appeared.
-/
namespace PivotTable

theorem idxOf?_concat (items : List String) (a b : String) :
    (items ++ [b]).idxOf? a =
      (items.idxOf? a).or (if b = a then some items.length else none) := by
  unfold List.idxOf?
  rw [List.findIdx?_append]
  by_cases h : b = a <;> simp [List.findIdx?_cons, h]

namespace SortKeys

/-- The places number the columns in their order. -/
def Indexed (k : SortKeys) : Prop := k.index = k.names.zipIdx

variable {k l : SortKeys} {column other : String}

theorem indexed_empty : empty.Indexed := rfl

theorem map_column_modify (columns : List ColumnOrder) (position : Nat) (f : OrderedSet → OrderedSet) :
    (columns.modify position fun c => { c with values := f c.values }).map ColumnOrder.column =
      columns.map ColumnOrder.column := by
  refine List.ext_getElem? fun place => ?_
  simp only [List.getElem?_map, List.getElem?_modify]
  cases columns[place]? with
  | none => rfl
  | some c => by_cases h : position = place <;> simp [h]

namespace Indexed

theorem lookup_index (h : k.Indexed) (column : String) : k.index.lookup column = k.names.idxOf? column := by
  rw [h, lookup_zipIdx]
  simp

theorem order?_eq (h : k.Indexed) (column : String) :
    k.order? column = (k.names.idxOf? column).bind fun p => k.columns[p]?.map ColumnOrder.values := by
  rw [order?, h.lookup_index]

theorem modify (h : k.Indexed) (column : String) (f : OrderedSet → OrderedSet) :
    (k.modify column f).Indexed := by
  unfold SortKeys.modify
  split
  · next position hfound =>
    rw [Indexed, names, map_column_modify]
    exact h
  · next hnew =>
    rw [Indexed, names, List.map_append, List.zipIdx_append, h]
    simp [names]

theorem names_modify (h : k.Indexed) (column : String) (f : OrderedSet → OrderedSet) :
    (k.modify column f).names = if column ∈ k.names then k.names else k.names ++ [column] := by
  unfold SortKeys.modify
  rw [h.lookup_index]
  cases hfound : k.names.idxOf? column with
  | none =>
    rw [if_neg (List.idxOf?_eq_none_iff.1 hfound)]
    simp [names]
  | some position =>
    have hmem : column ∈ k.names := by
      rw [← List.isSome_idxOf?, hfound]
      rfl
    rw [if_pos hmem, names]
    exact map_column_modify k.columns position f

theorem order?_modify_self (h : k.Indexed) (column : String) (f : OrderedSet → OrderedSet) :
    (k.modify column f).order? column = some (f ((k.order? column).getD .empty)) := by
  rw [(h.modify column f).order?_eq, h.names_modify, h.order?_eq]
  unfold SortKeys.modify
  rw [h.lookup_index]
  cases hfound : k.names.idxOf? column with
  | none =>
    rw [if_neg (List.idxOf?_eq_none_iff.1 hfound), idxOf?_concat, hfound]
    simp [names]
  | some position =>
    have hmem : column ∈ k.names := List.mem_of_getElem? (getElem?_of_idxOf? hfound)
    obtain ⟨c, hc, -⟩ : ∃ c, k.columns[position]? = some c ∧ c.column = column := by
      simpa [names] using getElem?_of_idxOf? hfound
    rw [if_pos hmem, hfound]
    simp [hc]

theorem order?_modify_of_ne (h : k.Indexed) (hne : other ≠ column) (f : OrderedSet → OrderedSet) :
    (k.modify column f).order? other = k.order? other := by
  rw [(h.modify column f).order?_eq, h.names_modify, h.order?_eq]
  unfold SortKeys.modify
  rw [h.lookup_index]
  cases hfound : k.names.idxOf? column with
  | none =>
    rw [if_neg (List.idxOf?_eq_none_iff.1 hfound), idxOf?_concat, if_neg hne.symm, Option.or_none]
    refine Option.bind_congr fun place hplace => ?_
    obtain ⟨hlt, -⟩ := List.getElem?_eq_some_iff.1 (getElem?_of_idxOf? hplace)
    rw [List.getElem?_append_left (by simpa [names] using hlt)]
  | some position =>
    have hmem : column ∈ k.names := List.mem_of_getElem? (getElem?_of_idxOf? hfound)
    rw [if_pos hmem]
    refine Option.bind_congr fun place hplace => ?_
    have hposition : position ≠ place := by
      rintro rfl
      exact hne (Option.some.inj ((getElem?_of_idxOf? hplace).symm.trans (getElem?_of_idxOf? hfound)))
    simp [hposition]

theorem order?_of_mem (h : k.Indexed) (hnodup : k.names.Nodup) {c : ColumnOrder}
    (hc : c ∈ k.columns) : k.order? c.column = some c.values := by
  obtain ⟨place, hlt, hplace⟩ := List.mem_iff_getElem.1 hc
  have hname : k.names[place]? = some c.column := by
    rw [names, List.getElem?_map, List.getElem?_eq_getElem hlt, hplace]
    rfl
  have hfound : k.names.idxOf? c.column = some place := (idxOf?_eq_some_iff_of_nodup hnodup).2 hname
  rw [h.order?_eq, hfound, Option.bind_some, List.getElem?_eq_getElem hlt, hplace]
  rfl

/-- Columns with their values are all there is to sort keys. -/
theorem eq_of_columns_eq (hk : k.Indexed) (hl : l.Indexed) (h : k.columns = l.columns) : k = l := by
  have hindex : k.index = l.index := by rw [hk, hl, names, names, h]
  cases k
  cases l
  simp_all

end Indexed

theorem rank?_eq (k : SortKeys) (column value : String) :
    k.rank? column value = ((k.order? column).map OrderedSet.toList).bind fun texts => texts.idxOf? value := by
  unfold rank?
  cases k.order? column with
  | none => rfl
  | some values => exact values.position?_eq value

/-- Texts that are seen under a column. -/
structure Sighting where
  column : String
  texts : List String

/-- The column counts even if no text is seen under it. -/
def see (k : SortKeys) (s : Sighting) : SortKeys := k.modify s.column (·.insertAll s.texts)

/-- The texts that are seen under a column by and by. -/
def textsUnder (column : String) (sightings : List Sighting) : List String :=
  (sightings.filter fun s => s.column = column).flatMap Sighting.texts

theorem textsUnder_append (column : String) (front back : List Sighting) :
    textsUnder column (front ++ back) = textsUnder column front ++ textsUnder column back := by
  simp [textsUnder]

theorem textsUnder_cons (column : String) (s : Sighting) (rest : List Sighting) :
    textsUnder column (s :: rest) =
      (if s.column = column then s.texts else []) ++ textsUnder column rest := by
  unfold textsUnder
  by_cases h : s.column = column <;> simp [h]

theorem textsUnder_eq_nil {sightings : List Sighting} (h : column ∉ sightings.map Sighting.column) :
    textsUnder column sightings = [] := by
  have hnone : sightings.filter (fun s => s.column = column) = [] := by
    rw [List.filter_eq_nil_iff]
    intro s hs hcolumn
    exact h (List.mem_map.2 ⟨s, hs, of_decide_eq_true hcolumn⟩)
  rw [textsUnder, hnone, List.flatMap_nil]

section

variable (sightings : List Sighting)

theorem indexed_foldl_see : (sightings.foldl see empty).Indexed :=
  List.foldlRecOn _ _ indexed_empty fun _ hk _ _ => hk.modify _ _

theorem names_foldl_see : (sightings.foldl see empty).names = (sightings.map Sighting.column).eraseDups := by
  induction sightings using List.reverseRecOn with
  | nil => rfl
  | append_singleton sightings s ih =>
    rw [List.foldl_append, List.foldl_cons, List.foldl_nil, see, (indexed_foldl_see _).names_modify, ih,
      List.map_append, List.map_singleton, eraseDups_concat]
    simp only [List.mem_eraseDups]

theorem order?_foldl_see (column : String) :
    ((sightings.foldl see empty).order? column).map OrderedSet.toList =
      if column ∈ sightings.map Sighting.column then some (textsUnder column sightings).eraseDups
      else none := by
  induction sightings using List.reverseRecOn with
  | nil => rfl
  | append_singleton sightings s ih =>
    rw [List.foldl_append, List.foldl_cons, List.foldl_nil, see]
    by_cases h : column = s.column
    · -- a column that was not there yet begins with no texts, and none were seen under it
      have hbefore : (((sightings.foldl see empty).order? column).getD .empty).toList =
          (textsUnder column sightings).eraseDups := by
        by_cases hmem : column ∈ sightings.map Sighting.column
        · rw [if_pos hmem] at ih
          obtain ⟨values, hvalues, htexts⟩ := Option.map_eq_some_iff.1 ih
          rw [hvalues]
          exact htexts
        · rw [if_neg hmem] at ih
          rw [Option.map_eq_none_iff.1 ih, textsUnder_eq_nil hmem]
          rfl
      subst h
      rw [(indexed_foldl_see _).order?_modify_self, Option.map_some, OrderedSet.toList_insertAll, hbefore,
        eraseDups_eraseDups_append, textsUnder_append]
      simp [textsUnder]
    · rw [(indexed_foldl_see _).order?_modify_of_ne h, ih, textsUnder_append]
      simp [h, textsUnder, Ne.symm h]

end

/-- A text that is empty is not seen. -/
def shown (text : String) : List String := [text].filter (· ≠ "")

def sightingsOf (f : Fact) : List Sighting :=
  Level.all.map (fun level => ⟨level.name, shown (f.path.get level)⟩) ++ ⟨metricColumn, shown f.metric⟩ ::
    (f.dimensions.cells.filter fun cell => !isReserved cell.1).map fun cell =>
      ⟨cell.1, shown cell.2.label⟩

/-- What is seen before any fact. -/
def initialSightings (canonical : CanonicalOrder) (showSegments : Bool) : List Sighting :=
  reserved.map (⟨·, []⟩) ++
    if showSegments then [⟨Level.level3.name, canonical.level3.toList⟩] else []

theorem observe_eq_see (k : SortKeys) (column text : String) :
    k.observe column text = k.see ⟨column, shown text⟩ := by
  unfold observe see shown
  simp only [OrderedSet.insertNonempty_eq]

theorem observeFact_eq (k : SortKeys) (f : Fact) : k.observeFact f = (sightingsOf f).foldl see k := by
  have hcells (k : SortKeys) : f.dimensions.cells.foldl observeDimension k =
      ((f.dimensions.cells.filter fun cell => !isReserved cell.1).map fun cell =>
        ⟨cell.1, shown cell.2.label⟩).foldl see k := by
    rw [List.foldl_map, List.foldl_filter]
    congr 1
    funext k cell
    rw [observeDimension, observe_eq_see]
    cases isReserved cell.1 <;> rfl
  unfold observeFact sightingsOf
  simp only [List.foldl_append, List.foldl_map, List.foldl_cons, observe_eq_see, hcells]

theorem initial_eq (canonical : CanonicalOrder) (showSegments : Bool) :
    initial canonical showSegments = (initialSightings canonical showSegments).foldl see empty := by
  unfold initial initialSightings
  cases showSegments <;> rfl

theorem ofFacts_eq (facts : List Fact) (canonical : CanonicalOrder) (showSegments : Bool) :
    ofFacts facts canonical showSegments =
      (initialSightings canonical showSegments ++ facts.flatMap sightingsOf).foldl see empty := by
  rw [ofFacts, initial_eq, List.foldl_append, List.foldl_flatMap]
  congr 1
  funext k f
  exact observeFact_eq k f

theorem indexed_ofFacts (facts : List Fact) (canonical : CanonicalOrder) (showSegments : Bool) :
    (ofFacts facts canonical showSegments).Indexed := by
  rw [ofFacts_eq]
  exact indexed_foldl_see _

end SortKeys

end PivotTable
