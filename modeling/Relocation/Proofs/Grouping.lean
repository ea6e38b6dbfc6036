-- What a report makes of all that was reported. The fields come in the order in which
-- they were first named, each with its messages in the order in which these came in, be
-- it on their own or within reports that were merged, to any depth.
import Mathlib.Data.List.Nodup
import Relocation.Failure
import Relocation.Proofs.Messages

namespace Relocation.Report

/-! ## Logs -/

/-- Messages with the fields that they are reported against, oldest first. -/
abbrev Log := List (String × String)

namespace Log

/-- The fields that are named, each where it comes first. -/
def fields (log : Log) : List String := (log.map (·.1)).eraseDups

/-- The messages against a field. -/
def against (log : Log) (field : String) : List String :=
  (log.filter fun m => m.1 = field).map (·.2)

/-- The log with the messages of each field brought together. -/
def grouped (log : Log) : Log := log.fields.flatMap fun field => log.filter fun m => m.1 = field

/-- The log with `space.` before each field. -/
def within (space : String) (log : Log) : Log := log.map fun m => (space ++ "." ++ m.1, m.2)

end Log

/-- One thing that is done to a report: a message is added, or the report that further
steps have built is merged into it. -/
inductive Step where
  | add (field message : String)
  | merge (space : String) (steps : List Step)

mutual

/-- The report after a step. -/
def Step.apply (r : Report) : Step → Report
  | .add field message => r.add field message
  | .merge space steps => r.merge space (applyAll empty steps)

/-- The report after the steps. -/
def applyAll (r : Report) : List Step → Report
  | [] => r
  | step :: steps => applyAll (step.apply r) steps

end

mutual

/-- What a step reports. A report that is merged gives its messages field by field. -/
def Step.log : Step → Log
  | .add field message => [(field, message)]
  | .merge space steps => (logAll steps).grouped.within space

/-- What the steps report. -/
def logAll : List Step → Log
  | [] => []
  | step :: steps => step.log ++ logAll steps

end

/-- The report groups the messages of the log by their fields: it names the same fields in
the same order, has just their messages under each, and fails a check and has a text
exactly if anything was reported. -/
structure Groups (r : Report) (log : Log) : Prop where
  fields : r.fields.keys = log.fields
  size : r.size = log.fields.length
  messages : ∀ field, r.get? field =
    if log.against field = [] then none else some (log.against field)
  filled : ∀ e ∈ r.fields.entries, e.2 ≠ []
  any : r.isEmpty = false ↔ log ≠ []
  refused : r.check = .error (.invalid r) ↔ log ≠ []
  passed : r.check = .ok () ↔ log = []
  shown : toString r ≠ "" ↔ log ≠ []
  text : toString r = "; ".intercalate (log.grouped.map fun m => m.1 ++ ": " ++ m.2)

/-! ## Fields and messages of a log -/

namespace Log

variable {log : Log} {field : String}

theorem fields_append_singleton (log : Log) (m : String × String) :
    fields (log ++ [m]) = if m.1 ∈ log.fields then log.fields else log.fields ++ [m.1] := by
  unfold fields
  rw [List.map_append, List.map_singleton, List.eraseDups_append]
  by_cases h : m.1 ∈ log.map (·.1)
  · have hold : [m.1].removeAll (log.map (·.1)) = [] := by simp [List.removeAll, h]
    rw [hold, if_pos (List.mem_eraseDups.mpr h), List.eraseDups_nil, List.append_nil]
  · have hnew : [m.1].removeAll (log.map (·.1)) = [m.1] := by simp [List.removeAll, h]
    rw [hnew, if_neg (mt List.mem_eraseDups.mp h), eraseDups_of_nodup (List.nodup_singleton m.1)]

theorem against_append (log more : Log) (field : String) :
    against (log ++ more) field = log.against field ++ more.against field := by
  simp [against]

/-- A field is named exactly if there are messages against it. -/
theorem mem_fields : field ∈ log.fields ↔ log.against field ≠ [] := by
  simp [fields, against, List.filter_eq_nil_iff]

/-- Nothing is lost and nothing is made up where messages are brought together. -/
theorem mem_grouped {m : String × String} : m ∈ log.grouped ↔ m ∈ log := by
  simp only [grouped, fields, List.mem_flatMap, List.mem_eraseDups, List.mem_map, List.mem_filter,
    decide_eq_true_eq]
  exact ⟨fun ⟨_, _, hm, _⟩ => hm, fun hm => ⟨m.1, ⟨m, hm, rfl⟩, hm, rfl⟩⟩

theorem map_against (log : Log) (field : String) :
    (log.against field).map (fun message => (field, message)) =
      log.filter fun m => m.1 = field := by
  unfold against
  rw [List.map_map]
  refine (List.map_congr_left fun m hm => ?_).trans (List.map_id _)
  have hfield : m.1 = field := of_decide_eq_true (List.mem_filter.mp hm).2
  simp [← hfield]

end Log

/-! ## Messages come in one by one -/

variable {r : Report} {field space : String}

theorem get?_extend (r : Report) (field : String) (messages : List String) (other : String) :
    (r.extend field messages).get? other =
      if field = other then some ((r.get? field).getD [] ++ messages) else r.get? other := by
  unfold extend get?
  rw [Table.find?_insert]
  split <;> rfl

theorem get?_add (r : Report) (field message other : String) :
    (r.add field message).get? other =
      if field = other then some ((r.get? field).getD [] ++ [message]) else r.get? other :=
  get?_extend r field [message] other

theorem keys_add (r : Report) (field message : String) : (r.add field message).fields.keys =
    if field ∈ r.fields.keys then r.fields.keys else r.fields.keys ++ [field] :=
  Table.keys_insert r.fields _

theorem extend_append (r : Report) (field : String) (messages more : List String) :
    (r.extend field messages).extend field more = r.extend field (messages ++ more) := by
  have hget : (r.extend field messages).get? field = some ((r.get? field).getD [] ++ messages) := by
    rw [get?_extend, if_pos rfl]
  rw [extend, hget, Option.getD_some, List.append_assoc]
  exact congrArg Report.mk (Table.insert_insert r.fields rfl)

/-- Messages against one field may come in together or one after the other. -/
theorem extend_eq_addAll {messages : List String} (h : messages ≠ []) :
    r.extend field messages = r.addAll (messages.map fun message => (field, message)) := by
  induction messages using List.reverseRecOn with
  | nil => exact absurd rfl h
  | append_singleton messages message ih =>
    rw [← extend_append, List.map_append, addAll_append]
    by_cases hmessages : messages = []
    · rw [hmessages, extend_append]
      rfl
    · rw [ih hmessages]
      rfl

-- A report grows at its end, so the log is taken apart from its last message back.

theorem keys_addAll (log : Log) : (empty.addAll log).fields.keys = log.fields := by
  induction log using List.reverseRecOn with
  | nil => rfl
  | append_singleton log m ih =>
    rw [addAll_append, Log.fields_append_singleton, ← ih]
    exact keys_add _ m.1 m.2

theorem get?_addAll (log : Log) (field : String) : (empty.addAll log).get? field =
    if log.against field = [] then none else some (log.against field) := by
  induction log using List.reverseRecOn with
  | nil => rfl
  | append_singleton log m ih =>
    have hadd : (empty.addAll (log ++ [m])).get? field =
        ((empty.addAll log).add m.1 m.2).get? field := by
      rw [addAll_append]
      rfl
    rw [hadd, get?_add, Log.against_append]
    by_cases hfield : m.1 = field
    · have hnew : Log.against [m] field = [m.2] := by simp [Log.against, hfield]
      have hold : ((empty.addAll log).get? field).getD [] = Log.against log field := by
        rw [ih]
        split
        · rename_i hnone
          exact hnone.symm
        · rfl
      rw [if_pos hfield, hfield, hold, hnew, if_neg (List.append_ne_nil_of_right_ne_nil _ (by simp))]
    · have hnew : Log.against [m] field = [] := by simp [Log.against, hfield]
      rw [if_neg hfield, ih, hnew, List.append_nil]

/-- The entries of a report are its fields with what is found under them. -/
theorem entries_eq_map_keys (r : Report) : r.fields.entries =
    r.fields.keys.map fun field => (field, (r.get? field).getD []) := by
  unfold Table.keys
  rw [List.map_map]
  refine (List.map_id _).symm.trans (List.map_congr_left fun e he => ?_)
  have hfind : r.fields.find? e.1 = some e := (Table.find?_eq_some_iff r.fields e.1 e).mpr ⟨he, rfl⟩
  simp [get?, hfind]

theorem entries_addAll_log (log : Log) : (empty.addAll log).fields.entries =
    log.fields.map fun field => (field, log.against field) := by
  rw [entries_eq_map_keys, keys_addAll]
  refine List.map_congr_left fun field hfield => ?_
  rw [get?_addAll, if_neg (Log.mem_fields.mp hfield), Option.getD_some]

/-! ## Merged reports -/

theorem foldl_addAll {α : Type} (log : α → Log) (l : List α) (r : Report) :
    l.foldl (fun r a => r.addAll (log a)) r = r.addAll (l.flatMap log) := by
  induction l generalizing r with
  | nil => rfl
  | cons a l ih => rw [List.foldl_cons, ih, List.flatMap_cons, addAll_append]

/-- A merged report brings its messages field by field. -/
theorem merge_addAll_log (r : Report) (space : String) (log : Log) :
    r.merge space (empty.addAll log) = r.addAll (log.grouped.within space) := by
  have hfield : ∀ (r : Report), ∀ field ∈ log.fields,
      r.extend (space ++ "." ++ field) (log.against field) =
        r.addAll (Log.within space (log.filter fun m => m.1 = field)) := by
    intro r field hfield
    rw [extend_eq_addAll (Log.mem_fields.mp hfield), ← Log.map_against, Log.within, List.map_map]
    rfl
  unfold merge
  rw [entries_addAll_log, List.foldl_map, List.foldl_ext _ _ _ hfield, foldl_addAll,
    Log.grouped, Log.within, List.map_flatMap]
  rfl

-- A report that is merged is built by steps of its own, so the induction goes down the
-- tree of steps, over a step and over a list of them at once.
mutual

theorem Step.apply_eq_addAll (r : Report) : (step : Step) → step.apply r = r.addAll step.log
  | .add _ _ => rfl
  | .merge space steps => by
    rw [Step.apply, Step.log, applyAll_eq_addAll empty steps, merge_addAll_log]

/-- The steps add what they report, message by message. -/
theorem applyAll_eq_addAll (r : Report) : (steps : List Step) →
    applyAll r steps = r.addAll (logAll steps)
  | [] => rfl
  | step :: steps => by
    rw [applyAll, logAll, Step.apply_eq_addAll r step, applyAll_eq_addAll _ steps, addAll_append]

end

/-! ## The text of a report -/

theorem lines_addAll (log : Log) :
    (empty.addAll log).lines = log.grouped.map fun m => m.1 ++ ": " ++ m.2 := by
  unfold lines Log.grouped
  rw [entries_addAll_log, List.flatMap_map, List.map_flatMap]
  refine List.flatMap_congr fun field _ => ?_
  rw [← Log.map_against, List.map_map]
  rfl

theorem intercalate_eq_empty {separator : String} {lines : List String}
    (hlines : ∀ line ∈ lines, line ≠ "") (h : separator.intercalate lines = "") : lines = [] := by
  match lines with
  | [] => rfl
  | [line] => exact absurd (by simpa using h) (hlines line List.mem_cons_self)
  | line :: next :: rest =>
    rw [String.intercalate_cons_cons, String.append_eq_empty_iff, String.append_eq_empty_iff] at h
    exact absurd h.1.1 (hlines line List.mem_cons_self)

theorem toString_addAll (log : Log) : toString (empty.addAll log) =
    "; ".intercalate (log.grouped.map fun m => m.1 ++ ": " ++ m.2) :=
  congrArg "; ".intercalate (lines_addAll log)

theorem toString_addAll_eq_empty {log : Log} : toString (empty.addAll log) = "" ↔ log = [] := by
  constructor
  · rw [toString_addAll]
    intro htext
    have hline : ∀ line ∈ log.grouped.map (fun m => m.1 ++ ": " ++ m.2), line ≠ "" := by
      rw [List.forall_mem_map]
      simp
    have hlines := List.map_eq_nil_iff.mp (intercalate_eq_empty hline htext)
    refine List.eq_nil_iff_forall_not_mem.mpr fun m hm => ?_
    rw [← Log.mem_grouped, hlines] at hm
    cases hm
  · rintro rfl
    rfl

/-! ## The law -/

theorem groups_addAll (log : Log) : (empty.addAll log).Groups log where
  fields := keys_addAll log
  size := by
    rw [← keys_addAll]
    exact (List.length_map _).symm
  messages := get?_addAll log
  filled := by
    rw [entries_addAll_log, List.forall_mem_map]
    exact fun field hfield => Log.mem_fields.mp hfield
  any := by simp [isEmpty_addAll]
  refused := by simp [check, isEmpty_addAll]
  passed := by simp [check_eq_ok, isEmpty_addAll]
  shown := not_congr toString_addAll_eq_empty
  text := toString_addAll log

/-- Whatever is added and merged, to any depth, the report groups all that was reported. -/
theorem reports_group_what_was_reported (steps : List Step) :
    (applyAll empty steps).Groups (logAll steps) := by
  rw [applyAll_eq_addAll]
  exact groups_addAll (logAll steps)

/-- A field of a report that is merged meets the same field by another way. -/
example :
    toString (applyAll empty [
      .add "shipment.survey.notes" "1",
      .merge "shipment" [.merge "survey" [.add "weight" "2", .add "notes" "3", .add "weight" "4"]],
      .merge "shipment.survey" [.add "notes" "5"]]) =
    "shipment.survey.notes: 1; shipment.survey.notes: 3; shipment.survey.notes: 5; " ++
      "shipment.survey.weight: 2; shipment.survey.weight: 4" := by
  decide

end Relocation.Report
