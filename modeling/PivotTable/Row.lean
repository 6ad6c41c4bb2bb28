import PivotTable.Slot
import PivotTable.Json.Writer

/-!
# Rows

A row of the source: cells under column names, each name once, in the order in which they came.
-/
namespace PivotTable

namespace Members

def columns (members : Members) : List String := members.map Prod.fst

theorem mem_columns_put {key column : String} {value : Json} {members : Members} :
    column ∈ columns (members.put key value) ↔ column = key ∨ column ∈ columns members := by
  induction members with
  | nil => simp [columns, put]
  | cons cell rest ih =>
    simp only [columns, put] at ih ⊢
    split
    · next h => simp [h]
    · simp only [List.map_cons, List.mem_cons, ih]
      grind

theorem nodup_columns_put {key : String} {value : Json} {members : Members}
    (h : (columns members).Nodup) : (columns (members.put key value)).Nodup := by
  induction members with
  | nil => simp [columns, put]
  | cons cell rest ih =>
    have hc : cell.1 ∉ columns rest ∧ (columns rest).Nodup := by
      simpa [columns, List.nodup_cons] using h
    simp only [put]
    split
    · next hk => simpa [columns, List.nodup_cons, ← hk] using hc
    · next hk =>
      have hnot : cell.1 ∉ columns (put key value rest) := by
        rw [mem_columns_put]
        exact fun hm => hm.elim hk hc.1
      simpa [columns, List.nodup_cons] using And.intro hnot (ih hc.2)

end Members

structure Row where
  cells : Members
  nodup : (Members.columns cells).Nodup
deriving DecidableEq

namespace Row

def empty : Row := ⟨[], List.nodup_nil⟩

instance : Inhabited Row := ⟨empty⟩

def columns (r : Row) : List String := Members.columns r.cells

def values (r : Row) : List Json := r.cells.map Prod.snd

def get? (r : Row) (column : String) : Option Json := r.cells.lookup column

theorem get?_eq_some_iff {r : Row} {column : String} {value : Json} :
    r.get? column = some value ↔ (column, value) ∈ r.cells := by
  obtain ⟨cells, nodup⟩ := r
  change cells.lookup column = some value ↔ (column, value) ∈ cells
  induction cells with
  | nil => simp
  | cons cell rest ih =>
    obtain ⟨name, content⟩ := cell
    obtain ⟨hnew, hrest⟩ : name ∉ Members.columns rest ∧ (Members.columns rest).Nodup := by
      simpa [Members.columns, List.nodup_cons] using nodup
    rw [List.lookup_cons, List.mem_cons, Prod.mk.injEq]
    by_cases h : column = name
    · subst h
      have hnot : (column, value) ∉ rest := fun hmem => hnew (List.mem_map_of_mem hmem)
      simp [hnot, eq_comm]
    · rw [beq_false_of_ne h]
      simp [h, ih hrest]

/-- The cell keeps its place if there is one, and is added at the end otherwise. -/
def put (r : Row) (column : String) (value : Json) : Row :=
  ⟨Members.put column value r.cells, Members.nodup_columns_put r.nodup⟩

theorem get?_put {r : Row} {column other : String} {value : Json} :
    (r.put column value).get? other = if other = column then some value else r.get? other :=
  Members.get?_put

def ofMembers (members : Members) : Row := members.foldl (fun r cell => r.put cell.1 cell.2) empty

def without (r : Row) (columns : List String) : Row :=
  ⟨r.cells.filter fun cell => !columns.contains cell.1,
    List.Nodup.sublist (List.Sublist.map _ List.filter_sublist) r.nodup⟩

theorem without_congr {a b : List String} (h : ∀ column, column ∈ a ↔ column ∈ b) (r : Row) :
    r.without a = r.without b := by
  have hcontains (cell : String × Json) : a.contains cell.1 = b.contains cell.1 := by
    rw [Bool.eq_iff_iff, List.contains_iff_mem, List.contains_iff_mem]
    exact h cell.1
  simp only [without, hcontains]

def toJson (r : Row) : Json := .obj r.cells

/-- A cell of a row that is being decoded. -/
def decodeCell {V : Type} [Source V] : MemberKey × V → Decoded (String × Json)
  | (.name column, value) => (Source.json value).map fun cell => (column, cell)
  | _ => .error .malformed

def decode {V : Type} [Source V] (value : V) : Decoded Row :=
  match Source.members? value with
  | some members => return ofMembers (← members.mapM decodeCell)
  | none => do throw (.invalidType (← Source.described value) "a map")

end Row

/-- The current value of a field: one of the tuple's own, or else the label of a cell. -/
def fieldValue? (field : String) (t : Tuple) (dimensions : Row) : Option String :=
  (t.get? field).or ((dimensions.get? field).map Json.label)

end PivotTable
