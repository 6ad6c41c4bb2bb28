import PivotTable.Proofs.Json.Writing
import PivotTable.Proofs.SortKeys
import PivotTable.Table

/-!
# What a fingerprint stands for

The fingerprint of an output is the digest of one text. Slots, facts and the columns of sort keys are told by
their JSON values: a flag that is not written is off, a number that is missing is not written as any number,
and the places of columns, which are not written, follow from the columns. Main statement: two outputs have
the same text exactly if slots, facts and sort keys are the same.
-/
namespace PivotTable

theorem Path.members_injective {p q : Path} (h : p.members = q.members) : p = q := by
  cases p
  cases q
  simpa [Path.members, Level.all, Path.get] using h

theorem Slot.toJson_injective {s t : Slot} (h : s.toJson = t.toJson) : s = t := by
  obtain ⟨path, metric, orphan⟩ := s
  obtain ⟨path', metric', orphan'⟩ := t
  have hlength : path.members.length = path'.members.length := rfl
  obtain ⟨hmembers, hrest⟩ := List.append_inj (Json.obj.inj h) hlength
  obtain rfl := Path.members_injective hmembers
  have hfields : metric = metric' ∧ orphan = orphan' := by
    revert hrest
    -- a slot that is no orphan has one member less
    cases orphan <;> cases orphan' <;> simp
  obtain ⟨rfl, rfl⟩ := hfields
  rfl

theorem Row.toJson_injective {r s : Row} (h : r.toJson = s.toJson) : r = s := by
  cases r
  cases s
  simpa [Row.toJson] using h

theorem Fact.toJson_injective {f g : Fact} (h : f.toJson = g.toJson) : f = g := by
  obtain ⟨dimensions, path, metric, metricKey, value⟩ := f
  obtain ⟨dimensions', path', metric', metricKey', value'⟩ := g
  have hlength : path.members.length = path'.members.length := rfl
  obtain ⟨hdimensions, hmembers⟩ := List.cons.inj (Json.obj.inj h)
  obtain ⟨hpath, hrest⟩ := List.append_inj hmembers hlength
  obtain rfl := Row.toJson_injective (Prod.mk.inj hdimensions).2
  obtain rfl := Path.members_injective hpath
  have hfields : metric = metric' ∧ metricKey = metricKey' ∧ value = value' := by
    revert hrest
    cases value <;> cases value' <;> simp [Json.ofOption]
  obtain ⟨rfl, rfl, rfl⟩ := hfields
  rfl

theorem Json.ofStrings_injective {a b : List String} (h : ofStrings a = ofStrings b) : a = b :=
  List.map_injective_iff.2 (fun _ _ => str.inj) (arr.inj h)

theorem SortKeys.columns_eq_of_toJson_eq {k l : SortKeys} (h : k.toJson = l.toJson) :
    k.columns = l.columns := by
  refine List.map_injective_iff.2 (fun c d hcolumn => ?_) (Json.arr.inj h)
  obtain ⟨column, values⟩ := c
  obtain ⟨column', values'⟩ := d
  have hmembers : column = column' ∧ Json.ofStrings values.toList = Json.ofStrings values'.toList := by
    simpa using hcolumn
  obtain ⟨rfl, hvalues⟩ := hmembers
  obtain rfl := OrderedSet.eq_of_toList_eq (Json.ofStrings_injective hvalues)
  rfl

namespace Output

/-- The text of which the fingerprint is the digest. -/
def fingerprintText (o : Output) : String := (fingerprintContent o.slots o.facts o.orders).render

theorem eq_of_fingerprintText_eq {o p : Output} (ho : o.orders.Indexed) (hp : p.orders.Indexed)
    (h : o.fingerprintText = p.fingerprintText) :
    o.slots = p.slots ∧ o.facts = p.facts ∧ o.orders = p.orders := by
  have hcontent := Json.arr.inj (Json.render_injective h)
  obtain ⟨hslots, hcontent⟩ := List.cons.inj hcontent
  obtain ⟨hfacts, hcontent⟩ := List.cons.inj hcontent
  have horders := SortKeys.columns_eq_of_toJson_eq (List.cons.inj hcontent).1
  refine ⟨?_, ?_, ho.eq_of_columns_eq hp horders⟩
  · exact List.map_injective_iff.2 (fun _ _ => Slot.toJson_injective) (Json.arr.inj hslots)
  · exact List.map_injective_iff.2 (fun _ _ => Fact.toJson_injective) (Json.arr.inj hfacts)

end Output

namespace Table

/-- The text whose digest is the fingerprint tells the slots, the facts and the sort keys of an output, and
so the ranks as well. -/
theorem fingerprintText_eq_iff (c d : Config) (a b : List Row) :
    let o := ((ofConfig c).value.process a).value
    let p := ((ofConfig d).value.process b).value
    (o.fingerprint = "blake3:" ++
        String.ofList ((Blake3.hash o.fingerprintText.toUTF8.data).flatMap hexByte)) ∧
      (o.fingerprintText = p.fingerprintText ↔
        o.slots = p.slots ∧ o.facts = p.facts ∧ o.orders = p.orders ∧
          ∀ column value, o.orders.rank? column value = p.orders.rank? column value) := by
  intro o p
  have ho : o.orders.Indexed := SortKeys.indexed_ofFacts _ _ _
  have hp : p.orders.Indexed := SortKeys.indexed_ofFacts _ _ _
  refine ⟨rfl, fun h => ?_, ?_⟩
  · obtain ⟨hslots, hfacts, horders⟩ := Output.eq_of_fingerprintText_eq ho hp h
    exact ⟨hslots, hfacts, horders, fun column value => by rw [horders]⟩
  · rintro ⟨hslots, hfacts, horders, -⟩
    rw [Output.fingerprintText, Output.fingerprintText, hslots, hfacts, horders]

end Table

end PivotTable
