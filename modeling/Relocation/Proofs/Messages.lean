-- What the messages of a report are. Each comes from one of the checks that were
-- made, so a check that always passes leaves none of its messages.
import Mathlib.Data.List.Induction
import Relocation.Shipment.Basic

namespace Relocation

/-! ## Messages of a report -/

namespace Report

/-- Some field has the message. -/
def Mentions (r : Report) (message : String) : Prop := ∃ e ∈ r.fields.entries, message ∈ e.2

variable {r other : Report} {message m field space text : String}

theorem not_mentions_empty : ¬ empty.Mentions m := by
  simp [Mentions, empty]

/-- A message of an extended report is a new one, or it was there before. -/
theorem mentions_extend {messages : List String} (h : (r.extend field messages).Mentions m) :
    m ∈ messages ∨ r.Mentions m := by
  obtain ⟨e, he, hm⟩ := h
  rcases Table.mem_insert he with rfl | he
  · rcases List.mem_append.mp hm with hold | hnew
    · rcases hget : r.get? field with _ | old
      · simp [hget] at hold
      · obtain ⟨e, hfind, rfl⟩ := Option.map_eq_some_iff.mp hget
        rw [hget, Option.getD_some] at hold
        exact .inr ⟨e, List.mem_of_find?_eq_some hfind, hold⟩
    · exact .inl hnew
  · exact .inr ⟨e, he, hm⟩

theorem mentions_add (h : (r.add field message).Mentions m) : m = message ∨ r.Mentions m := by
  rcases mentions_extend h with hnew | hold
  · exact .inl (List.mem_singleton.mp hnew)
  · exact .inr hold

theorem mentions_requirePresent (h : (r.requirePresent field text).Mentions m) :
    m = "can not be blank" ∨ r.Mentions m := by
  unfold requirePresent at h
  split at h
  · exact mentions_add h
  · exact .inr h

theorem mentions_requireNonNegative {n : Option Int} (h : (r.requireNonNegative field n).Mentions m) :
    (∃ v : Int, m = toString v ++ " is less than zero") ∨ r.Mentions m := by
  unfold requireNonNegative at h
  split at h
  · split at h
    · exact (mentions_add h).imp_left fun hm => ⟨_, hm⟩
    · exact .inr h
  · exact .inr h

theorem mentions_merge (h : (r.merge space other).Mentions m) : other.Mentions m ∨ r.Mentions m := by
  unfold merge at h
  change (∃ e ∈ other.fields.entries, m ∈ e.2) ∨ r.Mentions m
  generalize other.fields.entries = es at h ⊢
  induction es generalizing r with
  | nil => exact .inr h
  | cons e es ih =>
    rcases ih h with ⟨e', he', hm⟩ | hm
    · exact .inl ⟨e', List.mem_cons_of_mem e he', hm⟩
    · rcases mentions_extend hm with hnew | hold
      · exact .inl ⟨e, List.mem_cons_self, hnew⟩
      · exact .inr hold

end Report

/-! ## Messages one by one -/

namespace Report

/-- Adds messages, each against its field. -/
def addAll (r : Report) (messages : List (String × String)) : Report :=
  messages.foldl (fun r m => r.add m.1 m.2) r

theorem addAll_append (r : Report) (messages more : List (String × String)) :
    r.addAll (messages ++ more) = (r.addAll messages).addAll more :=
  List.foldl_append

/-- A field without messages comes in at the end. -/
theorem entries_extend_of_notMem {r : Report} {field : String} {messages : List String}
    (h : field ∉ r.fields.keys) :
    (r.extend field messages).fields.entries = r.fields.entries ++ [(field, messages)] := by
  have hnone : r.get? field = none := by
    unfold get? Table.find?
    rw [Option.map_eq_none_iff, List.find?_eq_none]
    intro e he hkey
    exact h (of_decide_eq_true hkey ▸ List.mem_map_of_mem he)
  unfold extend
  rw [hnone]
  exact put_of_notMem _ _ h

/-- Messages against distinct fields stand in the order in which they came in. -/
theorem entries_addAll {messages : List (String × String)} (h : (messages.map (·.1)).Nodup) :
    (empty.addAll messages).fields.entries = messages.map fun m => (m.1, [m.2]) := by
  induction messages using List.reverseRecOn with
  | nil => rfl
  | append_singleton messages m ih =>
    rw [List.map_append, List.nodup_append] at h
    obtain ⟨hmessages, -, hnew⟩ := h
    have hentries := ih hmessages
    have hfields : m.1 ∉ (empty.addAll messages).fields.keys := by
      unfold Table.keys
      rw [hentries, List.map_map]
      exact fun hmem => hnew m.1 hmem m.1 (List.mem_singleton_self m.1) rfl
    rw [addAll_append, List.map_append, ← hentries]
    exact entries_extend_of_notMem hfields

theorem isEmpty_addAll {messages : List (String × String)} :
    (empty.addAll messages).isEmpty = messages.isEmpty := by
  cases messages using List.reverseRecOn with
  | nil => rfl
  | append_singleton messages m =>
    rw [addAll_append]
    simp [addAll]

end Report

/-! ## Reports within reports -/

namespace Report

/-- The fields of the report with their messages, `space.` before each field. -/
def within (space : String) (r : Report) : List (String × List String) :=
  r.fields.entries.map fun e => (space ++ "." ++ e.1, e.2)

/-- A merged report comes after the fields that are there, if none of these is one of its own. -/
theorem entries_merge {r other : Report} {space : String}
    (h : ∀ field ∈ r.fields.keys, field ∉ (other.within space).map (·.1)) :
    (r.merge space other).fields.entries = r.fields.entries ++ other.within space := by
  have hdistinct := other.fields.distinct
  unfold merge
  unfold within at h ⊢
  generalize other.fields.entries = es at h hdistinct ⊢
  induction es using List.reverseRecOn with
  | nil => simp
  | append_singleton es e ih =>
    rw [List.map_append, List.nodup_append] at hdistinct
    obtain ⟨hes, -, hne⟩ := hdistinct
    have hold : ∀ field ∈ r.fields.keys,
        field ∉ (es.map fun e => (space ++ "." ++ e.1, e.2)).map (·.1) := by
      intro field hfield hmem
      apply h field hfield
      rw [List.map_append, List.map_append]
      exact List.mem_append_left _ hmem
    have hentries := ih hold hes
    rw [List.foldl_append, List.foldl_cons, List.foldl_nil, entries_extend_of_notMem, hentries]
    · simp
    · unfold Table.keys
      rw [hentries, List.map_append, List.mem_append, List.map_map]
      rintro (hmem | hnew)
      · exact h _ hmem (by simp)
      · obtain ⟨e', he', hfield⟩ := List.mem_map.mp hnew
        have hkey : e'.1 = e.1 := (String.append_right_inj _).mp hfield
        exact hne e'.1 (List.mem_map_of_mem he') e.1 (by simp) hkey

end Report

/-! ## Addresses that are not expected -/

/-- The message against a slot that has an address although none is expected. -/
def Slot.strayMessage : String := "must be empty when not flagged as present"

/-- No address is there that is not expected. -/
def Slot.Tidy (slot : Slot) : Prop := slot.address.isSome = true → slot.expected = true

theorem Address.not_mentions_stray (a : Address) : ¬ a.report.Mentions Slot.strayMessage := by
  have hline : ∀ {r : Report} {field text : String},
      (r.requirePresent field text).Mentions Slot.strayMessage → r.Mentions Slot.strayMessage :=
    fun h => (Report.mentions_requirePresent h).resolve_left (by decide)
  unfold report
  intro h
  exact Report.not_mentions_empty (hline (hline (hline (hline h))))

theorem Slot.mentions_stray {slot : Slot} {field : String} {r : Report} (htidy : slot.Tidy)
    (h : (slot.report field r).Mentions strayMessage) : r.Mentions strayMessage := by
  unfold report at h
  split at h
  · exact (Report.mentions_merge h).resolve_left (Address.not_mentions_stray _)
  · exact (Report.mentions_add h).resolve_left (by decide)
  · rename_i hexpected haddress
    simp [Tidy, hexpected, haddress] at htidy
  · exact h

namespace Shipment

theorem mentions_stray_pickup {s : Shipment} {r : Report}
    (h : (s.reportPickup r).Mentions Slot.strayMessage) : r.Mentions Slot.strayMessage := by
  unfold reportPickup at h
  split at h
  · exact (Report.mentions_merge h).resolve_left (Address.not_mentions_stray _)
  · split at h
    · exact (Report.mentions_add h).resolve_left (by decide)
    · exact h

theorem not_stray_amount (v : Int) : Slot.strayMessage ≠ toString v ++ " is less than zero" := by
  intro h
  have hlast := congrArg (fun s => s.toList.getLast?) h
  have hzero : " is less than zero".toList.getLast? = some 'o' := by decide
  have hstray : Slot.strayMessage.toList.getLast? = some 't' := by decide
  simp only [String.toList_append, List.getLast?_append, hzero, hstray, Option.some_or] at hlast
  cases hlast

theorem not_mentions_stray_amounts (amounts : List (String × Option Int)) :
    ¬ (amounts.foldl (fun r e => r.requireNonNegative e.1 e.2) Report.empty).Mentions
      Slot.strayMessage := by
  induction amounts using List.reverseRecOn with
  | nil => exact Report.not_mentions_empty
  | append_singleton amounts e ih =>
    rw [List.foldl_append]
    intro h
    rcases Report.mentions_requireNonNegative h with ⟨v, hv⟩ | h
    · exact not_stray_amount v hv
    · exact ih h

/-- Where no slot has an address that is not expected, none is reported. -/
theorem not_mentions_stray {s : Shipment} (htidy : ∀ name, (s.slot name).Tidy) :
    ¬ s.report.Mentions Slot.strayMessage := by
  unfold report
  intro h
  have hafterDelivery := Slot.mentions_stray (htidy .partialSitDelivery) h
  have hafterSecondary := Slot.mentions_stray (htidy .delivery) hafterDelivery
  have hpickup := Slot.mentions_stray (htidy .secondaryPickup) hafterSecondary
  exact not_mentions_stray_amounts s.amounts (mentions_stray_pickup hpickup)

end Shipment

end Relocation
