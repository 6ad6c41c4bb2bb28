import PivotTable.Rule.Basic
import PivotTable.Authored

/-!
# Decoding rules

An entry of a rule list is an object with `from` and `to`, or one with `when` and `set`; the first form
that fits is taken. Targets that no rule may write are reported one by one and left out.
-/
namespace PivotTable.Rule

structure Origin where
  level1 : Option Json
  level2 : Option Json
  level3 : Option Json
  platform : Option Json
  metric : Option Json
  conditions : Option Members
deriving DecidableEq

inductive Entry
  | fromTo (origin : Origin) (targets : Members)
  | whenSet (conditions values : Members)
deriving DecidableEq

def anyValue (value : Json) : Decoded Json := .ok value

def object : Json → Decoded Members
  | .obj members => .ok members
  | value => .error (.invalidType value.described "a map")

/-- One condition of a list, as a record of its field and its values. -/
def condition (value : Json) : Decoded (String × Json) :=
  Record.decode "RawCondition"
    [.required "key" Source.text fun key r => (key, r.2),
     { Field.required "values" anyValue (fun values r => (r.1, values)) with aliases := ["value"] }]
    ("", Json.null) value

/-- Conditions as an object or as a list. -/
def conditions : Json → Decoded Members
  | .obj members => .ok members
  | .arr items => items.mapM condition
  | _ => .error (.noVariant "RawConditions")

def origin (value : Json) : Decoded Origin :=
  Record.decode "RawFrom"
    [.optional "level1" (Json.optional anyValue) fun level1 o => { o with level1 },
     .optional "level2" (Json.optional anyValue) fun level2 o => { o with level2 },
     .optional "level3" (Json.optional anyValue) fun level3 o => { o with level3 },
     .optional "platform" (Json.optional anyValue) fun platform o => { o with platform },
     .optional "metric" (Json.optional anyValue) fun metric o => { o with metric },
     .optional "conditions" (Json.optional conditions) fun conditions o => { o with conditions }]
    ⟨none, none, none, none, none, none⟩ value

/-- The members of an object under two keys, if it has both. -/
def both? (first second : String) (value : Json) : Option (Json × Json) := do
  some (← value.get? first, ← value.get? second)

def fromTo? (value : Json) : Option Entry := do
  let (source, targets) ← both? "from" "to" value
  some (.fromTo (← (origin source).toOption) (← (object targets).toOption))

def whenSet? (value : Json) : Option Entry := do
  let (conditions, values) ← both? "when" "set" value
  some (.whenSet (← (object conditions).toOption) (← (object values).toOption))

def entry (value : Json) : Decoded Entry :=
  match (fromTo? value).or (whenSet? value) with
  | some entry => .ok entry
  | none => .error (.noVariant "RawRule")

/-- Reports that a rule of this field may not write `key`. -/
def refuse (field key : String) : Reported Unit := .report (.targetRefused (field ++ "." ++ key))

/-- The levels that are to be overwritten; `null` leaves a level alone. -/
def targets (field : String) : Members → Reported (List (Level × String))
  | [] => pure []
  | (_, .null) :: rest => targets field rest
  | (key, value) :: rest =>
    match Tuple.writableLevel? key with
    | some level => do
      let others ← targets field rest
      pure ((level, value.label) :: others)
    | none => do
      refuse field key
      targets field rest

/-- The fields of a tuple that no assignment may write. -/
def isLocked (key : String) : Bool := key == "level4" || key == "metric"

def assigned (field : String) : Members → Reported Members
  | [] => pure []
  | (key, value) :: rest =>
    if isLocked key then do
      refuse field key
      assigned field rest
    else do
      let others ← assigned field rest
      pure ((key, value) :: others)

/-- Conditions that ask something. -/
def patterns (members : Members) : List (String × Pattern) :=
  (members.map fun (key, value) => (key, Pattern.ofJson value)).filter fun c => !c.2.isAny

def ofEntry (field : String) (index : Nat) : Entry → Reported Rule
  | .fromTo origin members => do
    let targets ← targets field members
    pure <| .retarget
      { index
        level1 := .ofOption origin.level1
        level2 := .ofOption origin.level2
        level3 := .ofOption origin.level3
        platform := .ofOption origin.platform
        metric := .ofOption origin.metric
        conditions := patterns (origin.conditions.getD [])
        targets }
  | .whenSet conditions members => do
    let values ← assigned field members
    pure <| .assign
      { index
        conditions := conditions.map fun (key, value) => (key, KeySet.ofJson value)
        values }

def ofAuthored (field : String) (a : Authored) : Reported (List Rule) := do
  let entries ← a.entries field (Authored.explained entry)
  entries.mapM fun (index, entry) => ofEntry field index entry

end PivotTable.Rule

namespace PivotTable.RuleSet

/-- Platform rules come before relocation rules. -/
def ofAuthored (platformRules relocationRules : Authored) (platformColumn : String) :
    Reported RuleSet := do
  let first ← Rule.ofAuthored "platformRules" platformRules
  let second ← Rule.ofAuthored "relocationRules" relocationRules
  pure (ofRules platformColumn (first ++ second))

/-- Appends the rules of one authored list. -/
def extendAuthored (s : RuleSet) (field : String) (a : Authored) : Reported RuleSet := do
  pure ((← Rule.ofAuthored field a).foldl push s)

/-- The rules of a table are those of its two lists, appended one list after the other. -/
theorem ofAuthored_eq_extendAuthored (platformRules relocationRules : Authored) (platformColumn : String) :
    ofAuthored platformRules relocationRules platformColumn =
      extendAuthored ⟨[], [], platformColumn⟩ "platformRules" platformRules >>= fun rules =>
        rules.extendAuthored "relocationRules" relocationRules := by
  simp only [ofAuthored, extendAuthored, bind_assoc, pure_bind, foldl_push, ofRules, List.filterMap_append,
    List.nil_append]

end PivotTable.RuleSet
