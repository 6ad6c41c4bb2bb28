import PivotTable.Proofs.SortKeys

/-!
# Orders of first appearance

What is seen of facts under a column is their text there, and what is seen before any fact is the authored order
of the segments, if they are shown. Main statement: the columns of sort keys, the texts of each column and their
ranks are all in the order of first appearance, as if every column had been looked at alone.
-/
namespace PivotTable

/-- A row has at most one cell under a column. -/
theorem Row.filter_cells (r : Row) (column : String) :
    r.cells.filter (fun cell => cell.1 = column) =
      ((r.get? column).map fun value => (column, value)).toList := by
  obtain ⟨cells, nodup⟩ := r
  change cells.filter _ = ((cells.lookup column).map _).toList
  induction cells with
  | nil => rfl
  | cons cell rest ih =>
    obtain ⟨name, value⟩ := cell
    obtain ⟨hnew, hrest⟩ : name ∉ Members.columns rest ∧ (Members.columns rest).Nodup := by
      simpa [Members.columns, List.nodup_cons] using nodup
    rw [List.lookup_cons]
    by_cases h : name = column
    · subst h
      have hothers : rest.filter (fun cell => cell.1 = name) = [] := by
        rw [List.filter_eq_nil_iff]
        intro cell hcell hname
        exact hnew (List.mem_map.2 ⟨cell, hcell, of_decide_eq_true hname⟩)
      simp [hothers]
    · simp [h, ih hrest, beq_false_of_ne (Ne.symm h)]

/-- The text of a fact under a column: one of its levels, its metric, or the label of a cell. -/
def Fact.text? (f : Fact) (column : String) : Option String :=
  fieldValue? column ⟨f.path, f.metric⟩ f.dimensions

namespace SortKeys

theorem isReserved_iff {column : String} :
    isReserved column = true ↔ (∃ level : Level, level.name = column) ∨ column = metricColumn := by
  rw [isReserved, List.contains_iff_mem, reserved, List.mem_append, List.mem_map, List.mem_singleton]
  refine or_congr_left ⟨fun ⟨level, _, h⟩ => ⟨level, h⟩, fun ⟨level, h⟩ => ⟨level, ?_, h⟩⟩
  cases level <;> decide

theorem textsUnder_cells (r : Row) (column : String) :
    textsUnder column ((r.cells.filter fun cell => !isReserved cell.1).map fun cell =>
      ⟨cell.1, shown cell.2.label⟩) =
      if isReserved column then [] else ((r.get? column).map Json.label).toList.filter (· ≠ "") := by
  split
  · next hreserved =>
    refine textsUnder_eq_nil fun hmem => ?_
    obtain ⟨s, hs, rfl⟩ := List.mem_map.1 hmem
    obtain ⟨cell, hcell, rfl⟩ := List.mem_map.1 hs
    have hfree : isReserved cell.1 = false := by simpa using (List.mem_filter.1 hcell).2
    exact Bool.false_ne_true (hfree.symm.trans hreserved)
  · next hfree =>
    -- none of the cells left out is one of the column
    have hsame : (r.cells.filter fun cell => !isReserved cell.1).filter (fun cell => cell.1 = column) =
        r.cells.filter fun cell => cell.1 = column := by
      rw [List.filter_filter]
      refine List.filter_congr fun cell _ => ?_
      by_cases h : cell.1 = column <;> simp [h, hfree]
    rw [textsUnder, List.filter_map]
    change (((r.cells.filter _).filter fun cell => cell.1 = column).map _).flatMap _ = _
    rw [hsame, Row.filter_cells]
    cases r.get? column with
    | none => rfl
    | some value => simp [shown]

theorem textsUnder_levels (p : Path) (level : Level) :
    textsUnder level.name (Level.all.map fun other => ⟨other.name, shown (p.get other)⟩) =
      shown (p.get level) := by
  cases level <;> simp [textsUnder, Level.all, Level.name]

theorem textsUnder_levels_eq_nil (p : Path) {column : String} (h : ∀ level : Level, level.name ≠ column) :
    textsUnder column (Level.all.map fun level => ⟨level.name, shown (p.get level)⟩) = [] := by
  apply textsUnder_eq_nil
  rw [List.map_map, List.mem_map]
  rintro ⟨level, -, hlevel⟩
  exact h level hlevel

theorem text?_of_not_isReserved (f : Fact) {column : String} (h : ¬ isReserved column = true) :
    f.text? column = (f.dimensions.get? column).map Json.label := by
  obtain ⟨hlevel, hmetric⟩ := not_or.1 (mt isReserved_iff.2 h)
  have hnone : Level.ofName? column = none :=
    List.find?_eq_none.2 fun level _ hname => hlevel ⟨level, eq_of_beq hname⟩
  have hfield : Tuple.get? ⟨f.path, f.metric⟩ column = none := by
    change (if column = metricColumn then _ else _) = none
    rw [if_neg hmetric, hnone]
    rfl
  rw [Fact.text?, fieldValue?, hfield, Option.none_or]

/-- What is seen of a fact under a column is its text there. -/
theorem textsUnder_sightingsOf (f : Fact) (column : String) :
    textsUnder column (sightingsOf f) = (f.text? column).toList.filter (· ≠ "") := by
  rw [sightingsOf, textsUnder_append, textsUnder_cons, textsUnder_cells]
  by_cases hreserved : isReserved column = true
  · rw [if_pos hreserved, List.append_nil]
    rcases isReserved_iff.1 hreserved with ⟨level, rfl⟩ | rfl
    · have hmetric : metricColumn ≠ level.name := by cases level <;> decide
      have htext : f.text? level.name = some (f.path.get level) := by cases level <;> rfl
      rw [textsUnder_levels, if_neg hmetric, htext, List.append_nil]
      rfl
    · have hlevels (level : Level) : level.name ≠ metricColumn := by cases level <;> decide
      rw [textsUnder_levels_eq_nil f.path hlevels]
      rfl
  · obtain ⟨hlevel, hmetric⟩ := not_or.1 (mt isReserved_iff.2 hreserved)
    rw [if_neg hreserved, textsUnder_levels_eq_nil f.path fun level h => hlevel ⟨level, h⟩,
      if_neg (Ne.symm hmetric), text?_of_not_isReserved f hreserved]
    rfl

theorem textsUnder_flatMap_sightingsOf (facts : List Fact) (column : String) :
    textsUnder column (facts.flatMap sightingsOf) = (facts.filterMap (·.text? column)).filter (· ≠ "") := by
  induction facts with
  | nil => rfl
  | cons f rest ih =>
    rw [List.flatMap_cons, textsUnder_append, textsUnder_sightingsOf, ih, List.filterMap_cons]
    cases f.text? column with
    | none => rfl
    | some text => exact (List.filter_append [text] _).symm

/-- The columns of the facts that are neither a level nor the metric. -/
def dimensionColumns (facts : List Fact) : List String :=
  facts.flatMap fun f => f.dimensions.columns.filter fun column =>
    column ∉ ["level1", "level2", "level3", "level4", "metric"]

theorem dimensionColumns_eq (facts : List Fact) :
    dimensionColumns facts = facts.flatMap fun f => f.dimensions.columns.filter fun column => !isReserved column := by
  have hfree (column : String) :
      decide (column ∉ ["level1", "level2", "level3", "level4", "metric"]) = !isReserved column := by
    have hreserved : reserved = ["level1", "level2", "level3", "level4", "metric"] := rfl
    rw [isReserved, hreserved, decide_not, List.contains_eq_mem]
  simp only [dimensionColumns, hfree]

/-- The texts of a column, each where it first appears; shown segments stand in the order of the outline. -/
def firstSeen (facts : List Fact) (canonical : CanonicalOrder) (showSegments : Bool)
    (column : String) : List String :=
  ((if showSegments && column = "level3" then canonical.level3.toList else []) ++
    (facts.filterMap (·.text? column)).filter (· ≠ "")).eraseDups

theorem map_column_sightingsOf (f : Fact) :
    ((sightingsOf f).map Sighting.column).filter (fun column => !isReserved column) =
      f.dimensions.columns.filter fun column => !isReserved column := by
  have hcells : ((f.dimensions.cells.filter fun cell => !isReserved cell.1).map fun cell =>
      (⟨cell.1, shown cell.2.label⟩ : Sighting)).map Sighting.column =
        f.dimensions.columns.filter fun column => !isReserved column := by
    rw [Row.columns, Members.columns, List.filter_map, List.map_map]
    rfl
  rw [sightingsOf, List.map_append, List.map_cons, hcells, ← List.singleton_append, ← List.append_assoc,
    List.filter_append, List.filter_filter]
  simp only [Bool.and_self]
  exact List.nil_append _

theorem eraseDups_columns (facts : List Fact) (canonical : CanonicalOrder) (showSegments : Bool) :
    ((initialSightings canonical showSegments ++ facts.flatMap sightingsOf).map
      Sighting.column).eraseDups = reserved ++ (dimensionColumns facts).eraseDups := by
  let front : List Sighting :=
    if showSegments then [⟨Level.level3.name, canonical.level3.toList⟩] else []
  have hreserved : reserved.eraseDups = reserved := by decide
  have hfront : (front.map Sighting.column).filter (fun column => !isReserved column) = [] := by
    cases showSegments <;> rfl
  have hfacts : ((facts.flatMap sightingsOf).map Sighting.column).filter (fun column => !isReserved column) =
      dimensionColumns facts := by
    rw [List.map_flatMap, List.filter_flatMap, dimensionColumns_eq]
    simp only [map_column_sightingsOf]
  calc
    _ = (reserved ++ (front.map Sighting.column ++ (facts.flatMap sightingsOf).map Sighting.column)).eraseDups := by
      rw [initialSightings, List.append_assoc, List.map_append, List.map_append]
      rfl
    _ = reserved ++ ((front.map Sighting.column ++ (facts.flatMap sightingsOf).map Sighting.column).filter
          fun column => !isReserved column).eraseDups := by
      rw [List.eraseDups_append, hreserved]
      rfl
    _ = reserved ++ (dimensionColumns facts).eraseDups := by
      rw [List.filter_append, hfront, hfacts, List.nil_append]

theorem textsUnder_initialSightings (canonical : CanonicalOrder) (showSegments : Bool) (column : String) :
    textsUnder column (initialSightings canonical showSegments) =
      if showSegments && column = "level3" then canonical.level3.toList else [] := by
  have hreserved : textsUnder column (reserved.map (⟨·, []⟩)) = [] := by
    simp [textsUnder]
  rw [initialSightings, textsUnder_append, hreserved, List.nil_append]
  cases showSegments with
  | false => rfl
  | true =>
    by_cases h : column = "level3"
    · simp [textsUnder, Level.name, h]
    · simp [textsUnder, Level.name, h, Ne.symm h]

/-- Sort keys have the reserved columns and then those of the facts, each once and where it first appears. A
column has the texts that the facts show under it, each where it first appears, and no other column has any. -/
theorem ofFacts_firstSeen (facts : List Fact) (canonical : CanonicalOrder) (showSegments : Bool) :
    let k := ofFacts facts canonical showSegments
    let columns :=
      ["level1", "level2", "level3", "level4", "metric"] ++ (dimensionColumns facts).eraseDups
    let texts := firstSeen facts canonical showSegments
    k.columns.map (fun c => (c.column, c.values.toList)) = columns.map (fun column => (column, texts column)) ∧
      columns.Nodup ∧
      (∀ column, (k.order? column).map OrderedSet.toList =
        if column ∈ columns then some (texts column) else none) ∧
      ∀ column value, k.rank? column value =
        if column ∈ columns then (texts column).idxOf? value else none := by
  intro k columns texts
  let sightings := initialSightings canonical showSegments ++ facts.flatMap sightingsOf
  have hk : k = sightings.foldl see empty := ofFacts_eq facts canonical showSegments
  have hcolumns : (sightings.map Sighting.column).eraseDups = columns :=
    eraseDups_columns facts canonical showSegments
  have hnodup : columns.Nodup := hcolumns ▸ nodup_eraseDups _
  have hnames : k.names = columns := by rw [hk, names_foldl_see, hcolumns]
  have htexts (column : String) : (textsUnder column sightings).eraseDups = texts column := by
    rw [textsUnder_append, textsUnder_initialSightings, textsUnder_flatMap_sightingsOf]
    rfl
  have horder (column : String) : (k.order? column).map OrderedSet.toList =
      if column ∈ columns then some (texts column) else none := by
    rw [hk, order?_foldl_see, htexts, ← hcolumns]
    simp only [List.mem_eraseDups]
  refine ⟨?_, hnodup, horder, fun column value => ?_⟩
  · rw [← hnames, names, List.map_map]
    refine List.map_congr_left fun c hc => Prod.ext rfl ?_
    have hmem : c.column ∈ columns := hnames ▸ List.mem_map_of_mem hc
    have hindexed : k.Indexed := indexed_ofFacts facts canonical showSegments
    have hvalues := horder c.column
    rw [hindexed.order?_of_mem (hnames ▸ hnodup) hc, if_pos hmem] at hvalues
    exact Option.some.inj hvalues
  · rw [rank?_eq, horder]
    split <;> rfl

/-- Under `metric` stands the metric of a fact and not what is in a cell of that name. -/
theorem ofFacts_firstSeen_region :
    let fact (level1 region : String) : Fact :=
      ⟨.ofMembers [("region", .str region), ("metric", .str "m")], ⟨level1, "", "", ""⟩, "spend", "spend", none⟩
    let k := ofFacts [fact "B" "North", fact "A" "South", fact "B" "North"] .empty true
    k.columns.map (fun c => (c.column, c.values.toList)) =
        [("level1", ["B", "A"]), ("level2", []), ("level3", []), ("level4", []), ("metric", ["spend"]),
          ("region", ["North", "South"])] ∧
      k.rank? "region" "South" = some 1 ∧ k.rank? "metric" "m" = none := by
  intro fact k
  obtain ⟨hcolumns, -, -, hrank⟩ :=
    ofFacts_firstSeen [fact "B" "North", fact "A" "South", fact "B" "North"] .empty true
  exact ⟨hcolumns.trans (by decide +kernel), (hrank _ _).trans (by decide +kernel),
    (hrank _ _).trans (by decide +kernel)⟩

end SortKeys

end PivotTable
