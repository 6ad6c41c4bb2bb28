import PivotTable.Event

/-!
# What events tell

Of the events reported on the way to a value one mostly wants what those of one kind tell, in order. This
adds up along a computation, and a computation that reports no event of the kind adds nothing.
-/
namespace PivotTable

namespace Event

/-- The field and the place of an entry that is told to have been ignored. -/
def ignored? : Event → Option (String × Nat)
  | .entryIgnored field index _ => some (field, index)
  | _ => none

/-- What an outline is told to declare, and for how many metrics. -/
def mismatch? : Event → Option (Nat × Nat)
  | .sizeMismatch declared metrics => some (declared, metrics)
  | _ => none

end Event

namespace Reported

variable {α β γ : Type} {view : Event → Option γ}

/-- What `view` makes of the events that were reported. -/
def told (view : Event → Option γ) (x : Reported α) : List γ := x.events.filterMap view

@[simp]
theorem told_pure (a : α) : (pure a : Reported α).told view = [] := rfl

@[simp]
theorem told_bind (x : Reported α) (f : α → Reported β) :
    (x >>= f).told view = x.told view ++ (f x.value).told view := List.filterMap_append

@[simp]
theorem told_map (f : α → β) (x : Reported α) : (f <$> x).told view = x.told view := by
  rw [told, events_map, told]

theorem told_report (e : Event) : (report e).told view = (view e).toList := by
  rw [told, events_report]
  cases h : view e <;> simp [h]

theorem told_reportAll (events : List Event) : (reportAll events).told view = events.filterMap view := rfl

theorem told_mapM_eq_nil {f : α → Reported β} (h : ∀ a, (f a).told view = []) (items : List α) :
    (items.mapM f).told view = [] := by
  induction items with
  | nil => rfl
  | cons a rest ih => simp [h, ih]

end Reported

end PivotTable
