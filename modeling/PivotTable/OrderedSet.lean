/-!
# Ordered sets of texts

A duplicate-free list in the order in which its texts were first offered, and a table of the positions at
which they stand. The position of a text is its rank wherever values are put in order; look-ups go to the
table alone.
-/
namespace PivotTable

theorem lookup_zipIdx (items : List String) (a : String) (start : Nat) :
    (items.zipIdx start).lookup a = (items.idxOf? a).map (· + start) := by
  induction items generalizing start with
  | nil => rfl
  | cons b rest ih =>
    rw [List.zipIdx_cons, List.lookup_cons, List.idxOf?_cons, ih, BEq.comm]
    cases b == a with
    | true => simp
    | false =>
      cases rest.idxOf? a with
      | none => rfl
      | some place =>
        simp
        omega

structure OrderedSet where
  toList : List String
  /-- The position of each text. -/
  places : List (String × Nat)
  nodup : toList.Nodup
  numbered : places = toList.zipIdx
deriving DecidableEq

namespace OrderedSet

def empty : OrderedSet := ⟨[], [], List.nodup_nil, rfl⟩

instance : Inhabited OrderedSet := ⟨empty⟩

def position? (s : OrderedSet) (value : String) : Option Nat := s.places.lookup value

def contains (s : OrderedSet) (value : String) : Bool := (s.places.lookup value).isSome

def size (s : OrderedSet) : Nat := s.toList.length

def isEmpty (s : OrderedSet) : Bool := s.toList.isEmpty

theorem position?_eq (s : OrderedSet) (value : String) : s.position? value = s.toList.idxOf? value := by
  rw [position?, s.numbered, lookup_zipIdx]
  exact Option.map_id'

theorem contains_iff_mem (s : OrderedSet) (value : String) :
    s.contains value = true ↔ value ∈ s.toList := by
  rw [contains, ← position?, position?_eq, List.isSome_idxOf?]

/-- Adds a text at the end unless it is there. -/
def insert (s : OrderedSet) (value : String) : OrderedSet :=
  if h : s.contains value then s
  else
    { toList := s.toList ++ [value]
      places := s.places ++ [(value, s.toList.length)]
      nodup := by
        rw [contains_iff_mem] at h
        refine List.nodup_append.2 ⟨s.nodup, by simp, ?_⟩
        intro a ha b hb
        rw [List.mem_singleton.1 hb]
        exact fun he => h (he ▸ ha)
      numbered := by
        rw [List.zipIdx_append, s.numbered]
        simp }

theorem toList_insert (s : OrderedSet) (value : String) :
    (s.insert value).toList = if value ∈ s.toList then s.toList else s.toList ++ [value] := by
  unfold insert
  simp only [← contains_iff_mem]
  split <;> rfl

theorem mem_toList_insert {s : OrderedSet} {value other : String} :
    other ∈ (s.insert value).toList ↔ other ∈ s.toList ∨ other = value := by
  rw [toList_insert]
  split
  · next h => exact ⟨.inl, fun hm => hm.elim id fun he => he ▸ h⟩
  · simp

/-- Inserts a text and tells whether it is new. -/
def offer (s : OrderedSet) (value : String) : Bool × OrderedSet :=
  (!s.contains value, s.insert value)

def insertAll (s : OrderedSet) (values : List String) : OrderedSet := values.foldl insert s

def ofList (values : List String) : OrderedSet := empty.insertAll values

def insertNonempty (s : OrderedSet) (value : String) : OrderedSet :=
  if value.isEmpty then s else s.insert value

/-- The texts in order are all there is to a set. -/
theorem eq_of_toList_eq {s t : OrderedSet} (h : s.toList = t.toList) : s = t := by
  have hplaces : s.places = t.places := by rw [s.numbered, t.numbered, h]
  cases s
  cases t
  simp_all

end OrderedSet

end PivotTable
