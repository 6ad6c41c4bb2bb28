import PivotTable.Proofs.Authored
import PivotTable.Table

/-!
# Unreadable fields

A field of a configuration that holds no JSON text, or a value that its decoder refuses as a whole, counts
as blank. Main statement: the table lays out its slots and processes rows as it would with the field left
blank, and what is reported differs in one event, which names the field.
-/
namespace PivotTable

/-- Two runs of which the first reports one event more. -/
structure Reported.OneMore {α β : Type} (R : α → β → Prop) (e : Event) (x : Reported α)
    (y : Reported β) : Prop where
  value : R x.value y.value
  events : ∃ before after, x.events = before ++ e :: after ∧ y.events = before ++ after

namespace Reported.OneMore

variable {α β γ δ : Type} {R : β → γ → Prop} {e : Event}

theorem bind {x y : Reported α} (h : OneMore Eq e x y) {f : α → Reported β} {g : α → Reported γ}
    (hvalue : ∀ a, R (f a).value (g a).value) (hevents : ∀ a, (f a).events = (g a).events) :
    OneMore R e (x >>= f) (y >>= g) := by
  obtain ⟨hxy, before, after, hx, hy⟩ := h
  refine ⟨?_, before, after ++ (f x.value).events, ?_, ?_⟩
  · rw [value_bind, value_bind, ← hxy]
    exact hvalue x.value
  · rw [events_bind, hx, List.append_assoc, List.cons_append]
  · rw [events_bind, hy, List.append_assoc, ← hxy, hevents]

theorem after (x : Reported α) {f : α → Reported β} {g : α → Reported γ}
    (h : OneMore R e (f x.value) (g x.value)) : OneMore R e (x >>= f) (x >>= g) := by
  obtain ⟨hvalue, before, after, hf, hg⟩ := h
  refine ⟨hvalue, x.events ++ before, after, ?_, ?_⟩
  · rw [events_bind, hf, List.append_assoc]
  · rw [events_bind, hg, List.append_assoc]

end Reported.OneMore

inductive Part
  | hierarchy
  | swaps
  | platformRules
  | relocationRules
  | exclusions
deriving DecidableEq

namespace Part

def name : Part → String
  | hierarchy => "hierarchy"
  | swaps => "swaps"
  | platformRules => "platformRules"
  | relocationRules => "relocationRules"
  | exclusions => "exclusions"

def content (c : Config) : Part → Authored
  | hierarchy => c.hierarchy
  | swaps => c.swaps
  | platformRules => c.platformRules
  | relocationRules => c.relocationRules
  | exclusions => c.exclusions

def fill (c : Config) (a : Authored) : Part → Config
  | hierarchy => { c with hierarchy := a }
  | swaps => { c with swaps := a }
  | platformRules => { c with platformRules := a }
  | relocationRules => { c with relocationRules := a }
  | exclusions => { c with exclusions := a }

/-- What is no list is refused for this reason. -/
def unlisted (reason : String) : Json → Option DecodeError
  | .arr _ => none
  | _ => some (.custom reason)

/-- Why a value is refused as a whole, if it is. -/
def refusal? : Part → Json → Option DecodeError
  | hierarchy, value =>
    match Outline.ofJson value with
    | .ok _ => none
    | .error e => some e
  | swaps, value => unlisted "swaps must be a list of index pairs" value
  | part, value => unlisted (part.name ++ " must be a list") value

/-- The content of the field is no JSON text, or a value that is refused as a whole. -/
inductive Unreadable (part : Part) : Authored → DecodeError → Prop
  | malformed {s : String} (nonblank : isBlankText s = false) (notJson : Json.read? s = none) :
      Unreadable part (.text s) .malformed
  | refused {a : Authored} {value : Json} {e : DecodeError} (holds : a.read = .ok (some value))
      (refusal : part.refusal? value = some e) : Unreadable part a e

def complaint (part : Part) (e : DecodeError) : Event := .fieldUnreadable part.name e.message

end Part

namespace Authored

def IsBlank (a : Authored) : Prop := a.read = .ok none

variable {α : Type} {part : Part} {a b : Authored} {e : DecodeError}

theorem oneMore_decode {fallback : α} {decoder : Json → Decoded (Reported α)}
    (hdecoder : ∀ v e, part.refusal? v = some e → decoder v = .error e) (h : part.Unreadable a e)
    (hb : b.IsBlank) :
    Reported.OneMore Eq (part.complaint e) (a.decode part.name fallback decoder)
      (b.decode part.name fallback decoder) := by
  have hreported : a.decode part.name fallback decoder = ⟨fallback, [part.complaint e]⟩ := by
    cases h with
    | malformed nonblank notJson =>
      apply decode_of_malformed
      simp [read, nonblank, notJson]
    | refused holds refusal => exact decode_of_refused holds (hdecoder _ _ refusal)
  rw [hreported, decode_of_blank hb]
  exact ⟨rfl, [], [], rfl, rfl⟩

theorem oneMore_list (hpart : part.refusal? = Part.unlisted (part.name ++ " must be a list"))
    (h : part.Unreadable a e) (hb : b.IsBlank) :
    Reported.OneMore Eq (part.complaint e) (a.list part.name) (b.list part.name) := by
  apply oneMore_decode _ h hb
  intro v e hrefusal
  rw [hpart] at hrefusal
  cases v <;> simp_all [Part.unlisted]

theorem oneMore_entries (hpart : part.refusal? = Part.unlisted (part.name ++ " must be a list"))
    (decoder : Json → Except String α) (h : part.Unreadable a e) (hb : b.IsBlank) :
    Reported.OneMore Eq (part.complaint e) (a.entries part.name decoder) (b.entries part.name decoder) :=
  (oneMore_list hpart h hb).bind (fun _ => rfl) (fun _ => rfl)

end Authored

variable {a b : Authored} {e : DecodeError}

theorem Outline.oneMore_ofAuthored (h : Part.hierarchy.Unreadable a e) (hb : b.IsBlank) :
    Reported.OneMore Eq (Part.hierarchy.complaint e) (ofAuthored a) (ofAuthored b) := by
  apply Authored.oneMore_decode _ h hb
  intro v e hrefusal
  simp only [Part.refusal?] at hrefusal
  split at hrefusal
  · cases hrefusal
  · next hofJson =>
    obtain rfl := Option.some.inj hrefusal
    rw [hofJson]
    rfl

theorem Swap.oneMore_ofAuthored (h : Part.swaps.Unreadable a e) (hb : b.IsBlank) :
    Reported.OneMore Eq (Part.swaps.complaint e) (ofAuthored a) (ofAuthored b) := by
  apply Authored.oneMore_decode _ h hb
  intro v e hrefusal
  cases v <;> simp_all [Part.refusal?, Part.unlisted, ofJson]

theorem Rule.oneMore_ofAuthored {part : Part}
    (hpart : part.refusal? = Part.unlisted (part.name ++ " must be a list"))
    (h : part.Unreadable a e) (hb : b.IsBlank) :
    Reported.OneMore Eq (part.complaint e) (ofAuthored part.name a) (ofAuthored part.name b) :=
  (Authored.oneMore_entries hpart _ h hb).bind (fun _ => rfl) (fun _ => rfl)

theorem RuleSet.oneMore_platformRules (relocationRules : Authored) (platformColumn : String)
    (h : Part.platformRules.Unreadable a e) (hb : b.IsBlank) :
    Reported.OneMore Eq (Part.platformRules.complaint e) (ofAuthored a relocationRules platformColumn)
      (ofAuthored b relocationRules platformColumn) :=
  (Rule.oneMore_ofAuthored rfl h hb).bind (fun _ => rfl) (fun _ => rfl)

theorem RuleSet.oneMore_relocationRules (platformRules : Authored) (platformColumn : String)
    (h : Part.relocationRules.Unreadable a e) (hb : b.IsBlank) :
    Reported.OneMore Eq (Part.relocationRules.complaint e) (ofAuthored platformRules a platformColumn)
      (ofAuthored platformRules b platformColumn) :=
  .after _ ((Rule.oneMore_ofAuthored rfl h hb).bind (fun _ => rfl) (fun _ => rfl))

theorem ExclusionSet.oneMore_ofAuthored (h : Part.exclusions.Unreadable a e) (hb : b.IsBlank) :
    Reported.OneMore Eq (Part.exclusions.complaint e) (ofAuthored a) (ofAuthored b) :=
  (Authored.oneMore_entries rfl _ h hb).bind (fun _ => rfl) (fun _ => rfl)

namespace Table

/-- The tables have everything in common that is looked at once their fields are decoded. -/
structure Alike (t u : Table) : Prop where
  placement : t.placement = u.placement
  swaps : t.swaps = u.swaps
  pipeline : t.pipeline = u.pipeline
  showSegments : t.config.showSegments = u.config.showSegments
  validateSwaps : t.config.validateSwaps = u.config.validateSwaps
  groupSeparator : t.config.groupSeparator = u.config.groupSeparator

variable {t u : Table}

theorem Alike.layout (h : Alike t u) : t.layout = u.layout := by
  have hgroups : t.groups = u.groups := by
    rw [groups, groups, h.placement, h.showSegments, h.groupSeparator]
  have houtcome : t.outcome = u.outcome := by
    rw [outcome, outcome, guard?, guard?, hgroups, h.placement, h.swaps, h.validateSwaps]
  rw [Table.layout, Table.layout, houtcome, hgroups, h.placement, h.swaps]

theorem Alike.process (h : Alike t u) (rows : List Row) : t.process rows = u.process rows := by
  rw [Table.process, Table.process, h.layout, h.pipeline, h.showSegments]

/-- One field after the other: what is decoded before it is the same, and so is what is made of it. -/
theorem oneMore_ofConfig {c : Config} {part : Part} {e : DecodeError} {b : Authored}
    (h : part.Unreadable (part.content c) e) (hb : b.IsBlank) :
    Reported.OneMore Alike (part.complaint e) (ofConfig c) (ofConfig (part.fill c b)) := by
  have halike (placement : Placement) (swaps : List Swap) (pipeline : Pipeline) :
      Alike ⟨c, placement, swaps, pipeline⟩ ⟨part.fill c b, placement, swaps, pipeline⟩ := by
    cases part <;> exact ⟨rfl, rfl, rfl, rfl, rfl, rfl⟩
  cases part with
  | hierarchy =>
    refine (Outline.oneMore_ofAuthored h hb).bind (fun outline => ?_) (fun _ => rfl)
    exact halike _ _ _
  | swaps =>
    refine .after _ (.after _ ((Swap.oneMore_ofAuthored h hb).bind (fun swaps => ?_) (fun _ => rfl)))
    exact halike _ _ _
  | platformRules =>
    refine .after _ (.after _ (.after _
      ((RuleSet.oneMore_platformRules _ _ h hb).bind (fun rules => ?_) (fun _ => rfl))))
    exact halike _ _ _
  | relocationRules =>
    refine .after _ (.after _ (.after _
      ((RuleSet.oneMore_relocationRules _ _ h hb).bind (fun rules => ?_) (fun _ => rfl))))
    exact halike _ _ _
  | exclusions =>
    refine .after _ (.after _ (.after _ (.after _
      ((ExclusionSet.oneMore_ofAuthored h hb).bind (fun exclusions => ?_) (fun _ => rfl)))))
    exact halike _ _ _

/-- An unreadable field is reported once, and the table is otherwise the one with the field left blank:
layouts and outputs are the same, with all that is reported on the way to them. -/
theorem unreadable_as_blank (c : Config) (part : Part) {e : DecodeError} {b : Authored}
    (h : part.Unreadable (part.content c) e) (hb : b.IsBlank) :
    let t := ofConfig c
    let u := ofConfig (part.fill c b)
    (∃ before after, t.events = before ++ .fieldUnreadable part.name e.message :: after ∧
        u.events = before ++ after) ∧
      t.value.layout = u.value.layout ∧ ∀ rows, t.value.process rows = u.value.process rows := by
  intro t u
  obtain ⟨halike, hevents⟩ := oneMore_ofConfig h hb
  exact ⟨hevents, halike.layout, halike.process⟩

/-- A hierarchy of which the first group can be read and the second cannot, and swaps that are cut off. -/
def halfRead : Config :=
  { Config.empty with
    metrics := [.labelled "a", .labelled "b"]
    hierarchy := .json (.arr [.obj [("title", .str "G"), ("count", .ofNat 1)], .ofNat 5])
    swaps := .text "[[0,1]" }

theorem unreadable_as_blank_halfRead :
    let t := ofConfig halfRead
    let u := ofConfig { halfRead with hierarchy := .blank }
    Part.hierarchy.Unreadable halfRead.hierarchy (.invalidType "integer `5`" "struct GroupNode") ∧
      Authored.blank.IsBlank ∧
      t.events = [.fieldUnreadable "hierarchy" "invalid type: integer `5`, expected struct GroupNode",
        .fieldUnreadable "swaps" "<syntax>"] ∧
      u.events = [.fieldUnreadable "swaps" "<syntax>"] ∧
      (∃ before after, t.events = before ++
          .fieldUnreadable "hierarchy" "invalid type: integer `5`, expected struct GroupNode" :: after ∧
        u.events = before ++ after) ∧
      t.value.layout = u.value.layout ∧ ∀ rows, t.value.process rows = u.value.process rows := by
  intro t u
  have hunreadable : Part.hierarchy.Unreadable halfRead.hierarchy
      (.invalidType "integer `5`" "struct GroupNode") := .refused rfl rfl
  have hblank : Authored.blank.IsBlank := rfl
  exact ⟨hunreadable, hblank, rfl, rfl, unreadable_as_blank halfRead .hierarchy hunreadable hblank⟩

end Table

end PivotTable
