-- The settings as they are loaded. Any of them may be left out, a whole section or one
-- member of it, and what is left out takes its default. Whether a document comes as a
-- text or as a value makes no difference to what is loaded.
import Relocation.Proofs.Omissions
import Relocation.Proofs.ShipmentTexts
import Relocation.Settings

namespace Relocation

open Json (FitsNat32 FitsNat64 Plain reads_bool reads_list reads_nat32 reads_nat64)
open Member (plain_always)

/-! ## The sections -/

/-- The settings with the defaults in the place of what is removed. -/
def CoordinatorSettings.reset (removed : List String → Bool) (c : CoordinatorSettings) :
    CoordinatorSettings where
  timeout := if removed ["transaction_timeout_ms"] then ({} : CoordinatorSettings).timeout
    else c.timeout

def FederalCalendar.reset (removed : List String → Bool) (c : FederalCalendar) :
    FederalCalendar where
  observesShifted := if removed ["observe_weekend_holidays"] then standard.observesShifted
    else c.observesShifted
  closures := if removed ["additional_holidays"] then standard.closures else c.closures

def SchedulerSettings.reset (removed : List String → Bool) (c : SchedulerSettings) :
    SchedulerSettings where
  limit := if removed ["max_walk_span_days"] then ({} : SchedulerSettings).limit else c.limit

/-- The time limit is a number of 64 bits. -/
def CoordinatorSettings.Fits (c : CoordinatorSettings) : Prop := FitsNat64 c.timeout

/-- The limit is a number of 32 bits. -/
def SchedulerSettings.Fits (c : SchedulerSettings) : Prop := FitsNat32 c.limit

instance (c : CoordinatorSettings) : Decidable c.Fits := inferInstanceAs (Decidable (FitsNat64 _))

instance (c : SchedulerSettings) : Decidable c.Fits := inferInstanceAs (Decidable (FitsNat32 _))

/-! ## What is left of each section -/

theorem CoordinatorSettings.readsRest :
    ReadsRest Record.ofJson? Record.toJson Fits CoordinatorSettings.reset := by
  refine Record.readsRest (by decide) fun hfits hleft => ?_
  simp only [Record.members, List.forall_mem_cons] at hleft
  have htimeout := reads_nat64.rest fun _ _ => nofun
  simp only [Record.build, htimeout.orElse hleft.1 hfits]
  rfl

theorem FederalCalendar.readsRest :
    ReadsRest Record.ofJson? Record.toJson (fun _ => True) FederalCalendar.reset := by
  refine Record.readsRest (by decide) fun _ hleft => ?_
  simp only [Record.members, List.forall_mem_cons] at hleft
  obtain ⟨hobserves, hclosures, -⟩ := hleft
  have hbool := reads_bool.rest fun _ _ => nofun
  have hdates := (reads_list Date.reads).rest fun _ _ => nofun
  simp only [Record.build, hbool.orElse hobserves trivial, hdates.orElse hclosures trivial]
  rfl

theorem SchedulerSettings.readsRest :
    ReadsRest Record.ofJson? Record.toJson Fits SchedulerSettings.reset := by
  refine Record.readsRest (by decide) fun hfits hleft => ?_
  simp only [Record.members, List.forall_mem_cons] at hleft
  have hlimit := reads_nat32.rest fun _ _ => nofun
  simp only [Record.build, hlimit.orElse hleft.1 hfits]
  rfl

theorem CoordinatorSettings.plain (c : CoordinatorSettings) : Plain (Record.toJson c) := by
  refine Record.plain_toJson (by decide) ?_
  simp only [Record.members, List.forall_mem_cons]
  exact ⟨plain_always Json.plain_ofNat, List.forall_mem_nil _⟩

theorem FederalCalendar.plain (c : FederalCalendar) : Plain (Record.toJson c) := by
  refine Record.plain_toJson (by decide) ?_
  simp only [Record.members, List.forall_mem_cons]
  exact ⟨plain_always .bool, plain_always (Json.plain_ofList Date.plain), List.forall_mem_nil _⟩

theorem SchedulerSettings.plain (c : SchedulerSettings) : Plain (Record.toJson c) := by
  refine Record.plain_toJson (by decide) ?_
  simp only [Record.members, List.forall_mem_cons]
  exact ⟨plain_always Json.plain_ofNat, List.forall_mem_nil _⟩

/-! ## All settings -/

/-- The failure is a report of messages against just these fields. -/
def Failure.NamesOnly (f : Failure) (fields : List String) : Prop :=
  ∃ r, f = .invalid r ∧ r.fields.keys = fields

namespace Settings

/-- The numbers are of 64 and of 32 bits. -/
structure Fits (c : Settings) : Prop where
  coordinator : c.coordinator.Fits
  scheduler : c.scheduler.Fits

/-- The settings with the defaults in the place of what is removed: of whole sections, and of
members of those that are left. -/
def reset (removed : List String → Bool) (c : Settings) : Settings where
  coordinator := if removed ["coordinator"] then {}
    else c.coordinator.reset fun path => removed ("coordinator" :: path)
  calendar := if removed ["calendar"] then .standard
    else c.calendar.reset fun path => removed ("calendar" :: path)
  scheduler := if removed ["scheduler"] then {}
    else c.scheduler.reset fun path => removed ("scheduler" :: path)

theorem readsRest : ReadsRest Record.ofJson? Record.toJson Fits reset := by
  refine Record.readsRest (by decide) fun hfits hleft => ?_
  simp only [Record.members, List.forall_mem_cons] at hleft
  obtain ⟨hcoordinator, hcalendar, hscheduler, -⟩ := hleft
  simp only [Record.build, CoordinatorSettings.readsRest.orElse hcoordinator hfits.coordinator,
    FederalCalendar.readsRest.orElse hcalendar trivial,
    SchedulerSettings.readsRest.orElse hscheduler hfits.scheduler]
  rfl

/-! ## Documents -/

theorem plain (c : Settings) : Plain (Record.toJson c) := by
  refine Record.plain_toJson (by decide) ?_
  simp only [Record.members, List.forall_mem_cons]
  exact ⟨plain_always CoordinatorSettings.plain, plain_always FederalCalendar.plain,
    plain_always SchedulerSettings.plain, List.forall_mem_nil _⟩

section

variable (onText : String → String) (onValue : Json → String)

/-- A text is loaded like the value that it writes, if that repeats no name, up to the words
for what is wrong. -/
theorem ofText_eq_ofJson {text : String} {v : Json} (htext : Json.parse? text = some v)
    (hv : v.NoRepeats) : ofText onText text = ofJson (fun _ => onText text) v := by
  rw [ofText, htext, Option.bind_some, ofJson, hv.lastWins_eq]

theorem ofJson_of_rest {c : Settings} (hc : c.Fits) {removed : List String → Bool} {v : Json}
    (hv : ((Record.toJson c).without removed).Rearranged v) :
    ofJson onValue v = .ok (c.reset removed) := by
  have hplain : Plain v := hv.plain (c.plain.without removed)
  rw [ofJson, hplain.lastWins_eq, readsRest.rest hc hv]
  rfl

/-- A document is refused with one message, against the document as a whole, and whether it
is refused does not hang on the words. -/
theorem ofJson_cases (v : Json) :
    (∃ c, ∀ complaint, ofJson complaint v = .ok c) ∨
      ∀ complaint, ∃ f, ofJson complaint v = .error f ∧ f.NamesOnly ["config"] := by
  unfold ofJson
  cases (Record.ofJson? v.lastWins : Option Settings) with
  | none => exact .inr fun _ => ⟨_, rfl, _, rfl, rfl⟩
  | some c => exact .inl ⟨c, fun _ => rfl⟩

/-- Whatever is left out of a document, a whole section or a member, takes its default, and
the rest is loaded as it is, in any order. A text without repeated names and the value that
it writes are loaded as the same settings, or both are refused as a document. -/
theorem partial_documents_load_alike :
    (∀ c : Settings, c.Fits → ∀ (removed : List String → Bool) (v : Json),
      ((Record.toJson c).without removed).Rearranged v →
        ofJson onValue v = .ok (c.reset removed) ∧
          ofText onText v.render = .ok (c.reset removed)) ∧
    ∀ (text : String) (v : Json), Json.parse? text = some v → v.NoRepeats →
      (∃ c, ofText onText text = .ok c ∧ ofJson onValue v = .ok c) ∨
        ∃ f g, ofText onText text = .error f ∧ f.NamesOnly ["config"] ∧
          ofJson onValue v = .error g ∧ g.NamesOnly ["config"] := by
  refine ⟨fun c hc removed v hv => ?_, fun text v htext hv => ?_⟩
  · have hplain : Plain v := hv.plain (c.plain.without removed)
    rw [ofText_eq_ofJson onText hplain.parse?_render hplain.noRepeats]
    exact ⟨ofJson_of_rest _ hc hv, ofJson_of_rest _ hc hv⟩
  · rw [ofText_eq_ofJson onText htext hv]
    rcases ofJson_cases v with ⟨c, hc⟩ | hrefused
    · exact .inl ⟨c, hc _, hc _⟩
    · obtain ⟨f, hf, hfnames⟩ := hrefused fun _ => onText text
      obtain ⟨g, hg, hgnames⟩ := hrefused onValue
      exact .inr ⟨f, g, hf, hfnames, hg, hgnames⟩

end

end Settings

/-! ### A document without two members -/

/-- Settings that all differ from the defaults. -/
def Sample.settings : Settings where
  coordinator := { timeout := 250 }
  calendar := ⟨false, [Date.last]⟩
  scheduler := { limit := 0 }

/-- What is left of them without the section of the schedule and the observance of shifted
holidays, the calendar first. -/
def Sample.partialDocument : Json := .obj
  [("calendar", .obj [("additional_holidays", .arr [.str "+262142-12-31"])]),
    ("coordinator", .obj [("transaction_timeout_ms", .int 250)])]

/-- What is said of a section that is a number. -/
def Sample.complaint : String := "invalid type: integer `3`, expected struct CoordinatorConfig"

/-- The document is loaded with two defaults, and one with a section that is none is refused. A
complaint about a text says where as well. -/
theorem a_partial_document_is_loaded :
    Settings.ofJson (fun _ => Sample.complaint) Sample.partialDocument =
      .ok { coordinator := { timeout := 250 }, calendar := ⟨true, [Date.last]⟩, scheduler := {} } ∧
    ∃ f g,
      Settings.ofText (fun _ => Sample.complaint ++ " at line 1 column 17")
          "\x7b\"coordinator\": 3\x7d" = .error f ∧ f.NamesOnly ["config"] ∧
        Settings.ofJson (fun _ => Sample.complaint) (.obj [("coordinator", .int 3)]) = .error g ∧
          g.NamesOnly ["config"] := by
  obtain ⟨hrest, hforms⟩ := Settings.partial_documents_load_alike
    (fun _ => Sample.complaint ++ " at line 1 column 17") (fun _ => Sample.complaint)
  have hfits : Sample.settings.Fits := ⟨by decide, by decide⟩
  have hdate : Date.last.text = "+262142-12-31" := by decide
  have hwithout : ((Record.toJson Sample.settings).without fun path =>
      path = ["scheduler"] || path = ["calendar", "observe_weekend_holidays"]) =
        .obj [("coordinator", .obj [("transaction_timeout_ms", .int 250)]),
          ("calendar", .obj [("additional_holidays", .arr [.str "+262142-12-31"])])] := by
    rw [← hdate]
    rfl
  have hleft : ((Record.toJson Sample.settings).without fun path =>
      path = ["scheduler"] || path = ["calendar", "observe_weekend_holidays"]).Rearranged
        Sample.partialDocument := by
    rw [hwithout]
    exact .obj rfl (List.forall₂_same.mpr fun v _ => .refl v) (List.Perm.swap _ _ _)
  have htext : Json.parse? "\x7b\"coordinator\": 3\x7d" = some (.obj [("coordinator", .int 3)]) := by
    rfl
  have hrefused : ¬ ∃ c, Settings.ofJson (fun _ => Sample.complaint)
      (.obj [("coordinator", .int 3)]) = .ok c := by
    rintro ⟨c, hc⟩
    cases hc
  refine ⟨(hrest _ hfits _ _ hleft).1, (hforms _ _ htext ?_).resolve_left ?_⟩
  · exact .obj (by simp) (by simpa using .int 3)
  · rintro ⟨c, -, hc⟩
    exact hrefused ⟨c, hc⟩

end Relocation
