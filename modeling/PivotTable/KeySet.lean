import PivotTable.Json.Writer
import PivotTable.Text.MatchKey

/-!
# Sets of comparison keys

The keys that a rule accepts, increasing and each once, so that equal sets are equal values. All
comparison with a rule goes through keys.
-/
namespace PivotTable

/-- The comparison key of a cell; that of `null` is empty. -/
def Json.key (value : Json) : String := Text.matchKey value.label

/-- A key put in its place among increasing keys. -/
def insertKey (key : String) : List String → List String
  | [] => [key]
  | k :: rest =>
    if key < k then key :: k :: rest else if key = k then k :: rest else k :: insertKey key rest

theorem mem_insertKey {key k : String} {keys : List String} :
    k ∈ insertKey key keys ↔ k = key ∨ k ∈ keys := by
  induction keys with
  | nil => simp [insertKey]
  | cons head rest ih =>
    simp only [insertKey]
    split
    · simp
    · split
      · simp_all
      · simp only [List.mem_cons, ih]
        grind

theorem pairwise_insertKey {key : String} {keys : List String} (h : keys.Pairwise (· < ·)) :
    (insertKey key keys).Pairwise (· < ·) := by
  induction keys with
  | nil => simp [insertKey]
  | cons head rest ih =>
    rw [List.pairwise_cons] at h
    simp only [insertKey]
    split
    · next hlt =>
      simp only [List.pairwise_cons, List.mem_cons, forall_eq_or_imp]
      exact ⟨⟨hlt, fun k hk => String.lt_trans hlt (h.1 k hk)⟩, h.1, h.2⟩
    · next hlt =>
      split
      · exact List.pairwise_cons.2 h
      · next hne =>
        refine List.pairwise_cons.2 ⟨fun k hk => ?_, ih h.2⟩
        rcases mem_insertKey.1 hk with rfl | hk
        · have := String.le_antisymm (a := k) (b := head)
          grind
        · exact h.1 k hk

structure KeySet where
  toList : List String
  increasing : toList.Pairwise (· < ·)
deriving DecidableEq

namespace KeySet

def empty : KeySet := ⟨[], List.Pairwise.nil⟩

instance : Inhabited KeySet := ⟨empty⟩

def insert (s : KeySet) (key : String) : KeySet :=
  ⟨insertKey key s.toList, pairwise_insertKey s.increasing⟩

theorem mem_toList_insert {s : KeySet} {key k : String} :
    k ∈ (s.insert key).toList ↔ k = key ∨ k ∈ s.toList := mem_insertKey

def ofList (keys : List String) : KeySet := keys.foldl insert empty

def contains (s : KeySet) (key : String) : Bool := s.toList.contains key

theorem contains_iff_mem {s : KeySet} {key : String} : s.contains key = true ↔ key ∈ s.toList := by
  simp [contains]

def isEmpty (s : KeySet) : Bool := s.toList.isEmpty

def nonempty (s : KeySet) : KeySet :=
  ⟨s.toList.filter (· ≠ ""), s.increasing.filter _⟩

/-- A list stands for any of its items, anything else for itself. -/
def ofJson : Json → KeySet
  | .arr items => ofList (items.map Json.key)
  | value => ofList [value.key]

/-- Whether a text compares equal to one of the accepted values. -/
def accepts (s : KeySet) (text : String) : Bool := s.contains (Text.matchKey text)

def toJson (s : KeySet) : Json := .ofStrings s.toList

end KeySet

end PivotTable
