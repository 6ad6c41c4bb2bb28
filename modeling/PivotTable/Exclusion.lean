import PivotTable.Authored
import PivotTable.KeySet
import PivotTable.Row

/-!
# Exclusions

An exclusion is a value that drops every combination with an equal cell, or a field with values that drop
every combination in which the field has one of them. Entries of a list that name only blank values state no
exclusion; one that is made of a text is added as it is, with whatever key the text has.
-/
namespace PivotTable

inductive Exclusion
  /-- The comparison key of a value that no cell may have. -/
  | cell (key : String)
  | field (name : String) (values : KeySet)
deriving DecidableEq

structure ExclusionSet where
  cells : KeySet
  fields : List (String × KeySet)
deriving DecidableEq

namespace Exclusion

def ofText (text : String) : Exclusion := .cell (Text.matchKey text)

/-- The exclusion that an entry of the list states; an entry that can never match states none. -/
def ofEntry : Json → Except String (Option Exclusion)
  | .obj members =>
    match members.lookup "key" with
    | some (.str key) =>
      if isBlankText key then .error "expected a non-empty `key`"
      else
        match (members.lookup "values").or (members.lookup "value") with
        | some values =>
          let values := (KeySet.ofJson values).nonempty
          .ok (if values.isEmpty then none else some (.field key values))
        | none => .error "expected `values`"
    | _ => .error "expected a non-empty `key`"
  | .arr _ => .error "nested lists are not exclusion rules"
  | scalar => .ok (if scalar.key.isEmpty then none else some (.cell scalar.key))

end Exclusion

namespace ExclusionSet

def empty : ExclusionSet := ⟨.empty, []⟩

instance : Inhabited ExclusionSet := ⟨empty⟩

def add (s : ExclusionSet) : Exclusion → ExclusionSet
  | .cell key => { s with cells := s.cells.insert key }
  | .field name values => { s with fields := s.fields ++ [(name, values)] }

def ofList (exclusions : List Exclusion) : ExclusionSet := exclusions.foldl add empty

def ofAuthored (a : Authored) : Reported ExclusionSet := do
  let entries ← a.entries "exclusions" Exclusion.ofEntry
  pure (ofList (entries.filterMap Prod.snd))

def excludes (s : ExclusionSet) (t : Tuple) (dimensions : Row) : Bool :=
  dimensions.values.any (fun value => s.cells.contains value.key) ||
    s.fields.any fun (name, values) => (fieldValue? name t dimensions).any values.accepts

def size (s : ExclusionSet) : Nat := s.cells.toList.length + s.fields.length

def isEmpty (s : ExclusionSet) : Bool := s.size == 0

end ExclusionSet

end PivotTable
