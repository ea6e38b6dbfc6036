-- Who may answer for a shipment. An award gives a provider an offer, and an
-- answer needs one that is still pending. A shipment that is submitted again
-- without an answer leaves its offer pending, so the next award does not end
-- the earlier one.
import Relocation.Proofs.Serial
import Relocation.Proofs.Touches

namespace Relocation

variable {S S' : Store} {x : ShipmentId} {p : ProviderId} {t : Task} {done : List Task}

/-! ## Tasks one after the other -/

/-- Those of the tasks, run one after the other, that came to an answer. -/
def tasksDone (S : Store) (ts : List Task) : List Task :=
  (serial Task.job S ts).2.filterMap fun r => r.2.toOption.map fun _ => r.1

theorem tasksDone_cons (S : Store) (t : Task) (ts : List Task) :
    tasksDone S (t :: ts) = ((t.gateway.run S t.work).1.toOption.map fun _ => t).toList ++
      tasksDone (t.gateway.run S t.work).2 ts := by
  have hserial : serial Task.job S (t :: ts) =
      ((serial Task.job (t.gateway.run S t.work).2 ts).1, ⟨t, (t.gateway.run S t.work).1⟩ ::
        (serial Task.job (t.gateway.run S t.work).2 ts).2) := rfl
  unfold tasksDone
  rw [hserial]
  rcases t.gateway.run S t.work with ⟨failure | a, S'⟩ <;> rfl

/-- What every task keeps of the shipment `x` holds in the end. `pre` is what
was done before. -/
theorem serial_preserves {I : Store → List Task → Prop} (pre ts : List Task)
    (hI : I S pre)
    (hsame : ∀ {S S' done}, I S done → S'.status? = S.status? → S'.linked = S.linked → I S' done)
    (htouch : ∀ {S S' t done}, I S done → t.Touches x S S' → I S' (done ++ [t])) :
    I (serial Task.job S ts).1 (pre ++ tasksDone S ts) := by
  induction ts generalizing S pre with
  | nil =>
    rw [tasksDone, serial, List.filterMap_nil, List.append_nil]
    exact hI
  | cons t ts ih =>
    rw [tasksDone_cons]
    change I (serial Task.job (t.gateway.run S t.work).2 ts).1 _
    rcases hrun : t.gateway.run S t.work with ⟨failure | a, S'⟩
    · obtain ⟨hs, ho⟩ := Store.same_of_calm (Gateway.calm_of_run_error hrun)
      exact ih _ (hsame hI (Store.status?_of_same hs) (Store.linked_of_same ho))
    · have hrest := ih _ (htouch hI (Task.touches (Task.effect_of_run hrun) x))
      rw [List.append_assoc] at hrest
      exact hrest

/-! ## The last award -/

/-- The shipment is submitted again or turned down. -/
def Task.takesBack (x : ShipmentId) (t : Task) : Bool := t.submits x || t.rejects x

/-- To whom the shipment was awarded last. -/
def lastAward (x : ShipmentId) (done : List Task) : Option (Option ProviderId) :=
  (done.filterMap (Task.awards x)).getLast?

/-- After some award the shipment was submitted again, with no answer of the provider. -/
def Recalled (x : ShipmentId) (done : List Task) : Prop :=
  ∃ l₁ t l₂, done = l₁ ++ t :: l₂ ∧ t.submits x = true ∧ lastAward x l₁ ≠ none

theorem lastAward_append (l₁ l₂ : List Task) :
    lastAward x (l₁ ++ l₂) = (lastAward x l₂).or (lastAward x l₁) := by
  unfold lastAward
  rw [List.filterMap_append, List.getLast?_append]

theorem lastAward_singleton (t : Task) : lastAward x [t] = t.awards x := by
  unfold lastAward
  rcases h : t.awards x with _ | whom <;> simp [h]

theorem lastAward_snoc (done : List Task) (t : Task) :
    lastAward x (done ++ [t]) = (t.awards x).or (lastAward x done) := by
  rw [lastAward_append, lastAward_singleton]

theorem awards_of_lastAward {whom : Option ProviderId} (h : lastAward x done = some whom) :
    ∃ t ∈ done, t.awards x = some whom := by
  unfold lastAward at h
  exact List.mem_filterMap.mp (List.mem_of_getLast? h)

theorem Recalled.snoc (h : Recalled x done) (t : Task) : Recalled x (done ++ [t]) := by
  obtain ⟨l₁, u, l₂, rfl, hsubmits, hlast⟩ := h
  exact ⟨l₁, u, l₂ ++ [t], by simp, hsubmits, hlast⟩

/-! ## One provider -/

/-- The shipment has not been awarded to the provider. -/
structure Unoffered (p : ProviderId) (x : ShipmentId) (S : Store) (done : List Task) : Prop where
  none : ∀ u, u ∉ S.linked p x
  never : ∀ u ∈ done, u.awards x ≠ some (some p)

/-- The shipment was awarded to the provider once. What it is now depends on
what was done since. -/
structure Offered (p : ProviderId) (x : ShipmentId) (S : Store) (l₁ : List Task) (award : Task)
    (l₂ : List Task) : Prop where
  awards : award.awards x = some (some p)
  once : ∀ u ∈ l₁ ++ l₂, u.awards x ≠ some (some p)
  offer : ∃ u, u ∈ S.linked p x
  standing : l₂.any (Task.takesBack x) = false → lastAward x l₂ = Option.none ∧
    S.status? x ≠ some .draft ∧ S.status? x ≠ some .submitted
  back : l₂.any (Task.takesBack x) = true → S.status? x = some .submitted ∨
    lastAward x l₂ ≠ Option.none

theorem Offered.snoc {l₁ l₂ : List Task} {award : Task} (h : Offered p x S l₁ award l₂)
    (ht : t.Touches x S S') : Offered p x S' l₁ award (l₂ ++ [t]) := by
  obtain ⟨hawards, honce, ⟨v, hv⟩, hstanding, hsince⟩ := h
  have hany : (l₂ ++ [t]).any (Task.takesBack x) =
      (l₂.any (Task.takesBack x) || t.takesBack x) := by simp
  have honce' (hne : t.awards x ≠ some (some p)) :
      ∀ u ∈ l₁ ++ (l₂ ++ [t]), u.awards x ≠ some (some p) := by
    intro u hu
    rw [← List.append_assoc, List.mem_append] at hu
    rcases hu with hu | hu
    · exact honce u hu
    · rw [List.mem_singleton.mp hu]
      exact hne
  cases ht with
  | leaves status offers awards submits rejects =>
    have hkeeps : t.takesBack x = false := by simp [Task.takesBack, submits, rejects]
    refine ⟨hawards, honce' (by simp [awards]), ⟨v, (offers p v).mpr hv⟩, ?_, ?_⟩
    · rw [hany, hkeeps, Bool.or_false, lastAward_snoc, awards, Option.none_or]
      intro hback
      obtain ⟨hlast, hdraft, hsubmitted⟩ := hstanding hback
      exact ⟨hlast, fun e => hdraft ((status .draft rfl).mp e),
        fun e => hsubmitted ((status .submitted rfl).mp e)⟩
    · rw [hany, hkeeps, Bool.or_false, lastAward_snoc, awards, Option.none_or]
      intro hback
      exact (hsince hback).imp_left (status .submitted rfl).mpr
  | awarded new before after pending offers awards submits rejects =>
    -- The shipment waited for award, so it had been taken back since.
    have hback : l₂.any (Task.takesBack x) = true := by
      rcases hb : l₂.any (Task.takesBack x) with _ | _
      · exact absurd before (hstanding hb).2.2
      · rfl
    refine ⟨hawards, honce' ?_, ⟨v, (offers p v).mpr (.inl hv)⟩, ?_, ?_⟩
    · rw [awards]
      intro hwhom
      rcases new with _ | o
      · cases hwhom
      · obtain rfl : o.providerId = p := by simpa using hwhom
        exact (pending o rfl).2 v hv
    · rw [hany, hback]
      intro hno
      cases hno
    · intro _
      rw [lastAward_snoc, awards]
      exact .inr (by simp)
  | submitted before after offers awards submits rejects =>
    have htakes : t.takesBack x = true := by simp [Task.takesBack, submits]
    refine ⟨hawards, honce' (by simp [awards]), ⟨v, (offers p v).mpr hv⟩, ?_, fun _ => .inl after⟩
    rw [hany, htakes, Bool.or_true]
    intro hno
    cases hno
  | answered q o o' flag before after one pending closed offers awards submits rejects =>
    have hoffer : ∃ u, u ∈ S'.linked p x := by
      by_cases hq : p = q
      · exact ⟨o', (offers p o').mpr (by rw [if_pos hq])⟩
      · exact ⟨v, (offers p v).mpr (by rwa [if_neg hq])⟩
    have htakes : t.takesBack x = !flag := by simp [Task.takesBack, submits, rejects]
    refine ⟨hawards, honce' (by simp [awards]), hoffer, ?_, ?_⟩
    · rw [hany, htakes, lastAward_snoc, awards, Option.none_or, after]
      intro hback
      rw [Bool.or_eq_false_iff] at hback
      refine ⟨(hstanding hback.1).1, ?_⟩
      cases flag with
      | false => simp at hback
      | true => simp
    · rw [hany, htakes, lastAward_snoc, awards, Option.none_or, after]
      intro hback
      cases flag with
      | false => exact .inl rfl
      | true =>
        rw [Bool.not_true, Bool.or_false] at hback
        rcases hsince hback with hsubmitted | hlast
        · rw [before] at hsubmitted
          cases hsubmitted
        · exact .inr hlast

theorem Offered.last_iff {l₁ l₂ : List Task} {award : Task} (h : Offered p x S l₁ award l₂)
    (hstatus : S.status? x = some .awarded) :
    lastAward x (l₁ ++ award :: l₂) = some (some p) ↔ l₂.any (Task.takesBack x) = false := by
  have hsplit : lastAward x (l₁ ++ award :: l₂) = (lastAward x l₂).or (some (some p)) := by
    have hcons : l₁ ++ award :: l₂ = (l₁ ++ [award]) ++ l₂ := by simp
    rw [hcons, lastAward_append, lastAward_snoc, h.awards, Option.some_or]
  rw [hsplit]
  constructor
  · intro hlast
    rcases hback : l₂.any (Task.takesBack x) with _ | _
    · rfl
    · rcases h.back hback with hsubmitted | hsince
      · rw [hstatus] at hsubmitted
        cases hsubmitted
      · obtain ⟨whom, hwhom⟩ := Option.ne_none_iff_exists'.mp hsince
        rw [hwhom, Option.some_or] at hlast
        obtain ⟨u, hu, hawards⟩ := awards_of_lastAward hwhom
        exact absurd (hawards.trans hlast) (h.once u (List.mem_append_right l₁ hu))
  · intro hback
    rw [(h.standing hback).1, Option.none_or]

/-- Either the shipment was never awarded to the provider, or it was once. -/
def OfferedAtMostOnce (p : ProviderId) (x : ShipmentId) (S : Store) (done : List Task) : Prop :=
  Unoffered p x S done ∨ ∃ l₁ award l₂, done = l₁ ++ award :: l₂ ∧ Offered p x S l₁ award l₂

theorem Unoffered.snoc (h : Unoffered p x S done) (ht : t.Touches x S S') :
    OfferedAtMostOnce p x S' (done ++ [t]) := by
  obtain ⟨hnone, hnever⟩ := h
  have hnever' (hne : t.awards x ≠ some (some p)) :
      ∀ u ∈ done ++ [t], u.awards x ≠ some (some p) := by
    intro u hu
    rcases List.mem_append.mp hu with hu | hu
    · exact hnever u hu
    · rw [List.mem_singleton.mp hu]
      exact hne
  cases ht with
  | leaves status offers awards submits rejects =>
    exact .inl ⟨fun u hu => hnone u ((offers p u).mp hu), hnever' (by simp [awards])⟩
  | submitted before after offers awards submits rejects =>
    exact .inl ⟨fun u hu => hnone u ((offers p u).mp hu), hnever' (by simp [awards])⟩
  | answered q o o' flag before after one pending closed offers awards submits rejects =>
    have hq : p ≠ q := by
      rintro rfl
      exact hnone o (one ▸ List.mem_singleton_self o)
    refine .inl ⟨fun u hu => hnone u ?_, hnever' (by simp [awards])⟩
    simpa [hq] using (offers p u).mp hu
  | awarded new before after pending offers awards submits rejects =>
    by_cases hwhom : t.awards x = some (some p)
    · refine .inr ⟨done, t, [], rfl, hwhom, ?_, ?_, ?_, by simp⟩
      · rw [List.append_nil]
        exact hnever
      · rw [hwhom] at awards
        rcases new with _ | o
        · cases awards
        · exact ⟨o, (offers p o).mpr (.inr ⟨rfl, by simpa using awards.symm⟩)⟩
      · rw [after]
        exact fun _ => ⟨rfl, by simp, by simp⟩
    · refine .inl ⟨fun u hu => ?_, hnever' hwhom⟩
      rcases (offers p u).mp hu with hu | ⟨rfl, rfl⟩
      · exact hnone u hu
      · exact hwhom awards

theorem offeredAtMostOnce_run {start : Store} (hoffers : start.offers.entries = [])
    (ts : List Task) (p : ProviderId) (x : ShipmentId) :
    OfferedAtMostOnce p x (serial Task.job start ts).1 (tasksDone start ts) := by
  refine serial_preserves (x := x) [] ts (.inl ⟨?_, by simp⟩) ?_ ?_
  · intro u
    simp [Store.linked, hoffers]
  · intro S S' done h hstatus hlinked
    rcases h with h | ⟨l₁, award, l₂, rfl, h⟩
    · exact .inl ⟨hlinked ▸ h.none, h.never⟩
    · refine .inr ⟨l₁, award, l₂, rfl, h.awards, h.once, hlinked ▸ h.offer, ?_, ?_⟩
      · exact hstatus ▸ h.standing
      · exact hstatus ▸ h.back
  · intro S S' t done h ht
    rcases h with h | ⟨l₁, award, l₂, rfl, h⟩
    · exact h.snoc ht
    · exact .inr ⟨l₁, award, l₂ ++ [t], by simp, h.snoc ht⟩

/-! ## All providers -/

/-- Unless the shipment was recalled, nobody has a pending offer of it but the
provider to whom it was awarded last, and nobody at all while it waits for award. -/
structure Settled (x : ShipmentId) (S : Store) (done : List Task) : Prop where
  awarded : S.status? x = some .awarded → lastAward x done ≠ none
  standing : ¬ Recalled x done → S.status? x = some .awarded →
    ∀ q u, u ∈ S.linked q x → u.accepted = none → lastAward x done = some (some q)
  waiting : ¬ Recalled x done → (S.status? x = some .draft ∨ S.status? x = some .submitted) →
    ∀ q u, u ∈ S.linked q x → u.accepted ≠ none

theorem Settled.snoc (h : Settled x S done) (ht : t.Touches x S S') :
    Settled x S' (done ++ [t]) := by
  obtain ⟨hawarded, hstanding, hwaiting⟩ := h
  have hbefore (hno : ¬ Recalled x (done ++ [t])) : ¬ Recalled x done := fun h => hno (h.snoc t)
  cases ht with
  | leaves status offers awards submits rejects =>
    have hlast : lastAward x (done ++ [t]) = lastAward x done := by
      rw [lastAward_snoc, awards, Option.none_or]
    rw [← hlast] at hawarded hstanding
    refine ⟨fun e => hawarded ((status .awarded rfl).mp e), ?_, ?_⟩
    · intro hno hst q u hu
      exact hstanding (hbefore hno) ((status .awarded rfl).mp hst) q u ((offers q u).mp hu)
    · intro hno hst q u hu
      refine hwaiting (hbefore hno) ?_ q u ((offers q u).mp hu)
      exact hst.imp (status .draft rfl).mp (status .submitted rfl).mp
  | awarded new before after pending offers awards submits rejects =>
    have hlast : lastAward x (done ++ [t]) = some (new.map (·.providerId)) := by
      rw [lastAward_snoc, awards, Option.some_or]
    refine ⟨fun _ => by simp [hlast], ?_, ?_⟩
    · intro hno _ q u hu hopen
      rcases (offers q u).mp hu with hold | ⟨rfl, rfl⟩
      · exact absurd hopen (hwaiting (hbefore hno) (.inr before) q u hold)
      · exact hlast
    · rw [after]
      simp
  | submitted before after offers awards submits rejects =>
    refine ⟨by simp [after], by simp [after], ?_⟩
    intro hno _ q u hu
    rcases before with hdraft | hwas
    · exact hwaiting (hbefore hno) (.inl hdraft) q u ((offers q u).mp hu)
    · exact absurd ⟨done, t, [], rfl, submits, hawarded hwas⟩ hno
  | answered p o o' flag before after one pending closed offers awards submits rejects =>
    have hp (hno : ¬ Recalled x done) : lastAward x done = some (some p) :=
      hstanding hno before p o (one ▸ List.mem_singleton_self o) pending
    cases flag with
    | true => exact ⟨by simp [after], by simp [after], by simp [after]⟩
    | false =>
      refine ⟨by simp [after], by simp [after], ?_⟩
      intro hno _ q u hu
      by_cases hq : q = p
      · rw [offers, if_pos hq] at hu
        rw [hu, closed]
        simp
      · rw [offers, if_neg hq] at hu
        intro hopen
        have hlast := hstanding (hbefore hno) before q u hu hopen
        rw [hp (hbefore hno)] at hlast
        exact hq (by simpa using hlast.symm)

theorem settled_run {start : Store} (hoffers : start.offers.entries = [])
    (hshipments : ∀ s ∈ start.shipments.entries, s.status = .draft ∨ s.status = .submitted)
    (ts : List Task) (x : ShipmentId) :
    Settled x (serial Task.job start ts).1 (tasksDone start ts) := by
  have hnone : ∀ q, start.linked q x = [] := by
    intro q
    simp [Store.linked, hoffers]
  have hopen : start.status? x ≠ some .awarded := by
    intro h
    obtain ⟨s, hs, hstatus⟩ := Option.map_eq_some_iff.mp h
    have hstart := hshipments s ((Table.find?_eq_some_iff _ _ _).mp hs).1
    rw [hstatus] at hstart
    simp at hstart
  refine serial_preserves (x := x) [] ts ?_ ?_ fun h ht => h.snoc ht
  · refine ⟨fun h => absurd h hopen, fun _ h => absurd h hopen, ?_⟩
    intro _ _ q u hu
    rw [hnone] at hu
    cases hu
  · intro S S' done h hstatus hlinked
    obtain ⟨hawarded, hstanding, hwaiting⟩ := h
    rw [← hstatus] at hawarded hstanding hwaiting
    rw [← hlinked] at hstanding hwaiting
    exact ⟨hawarded, hstanding, hwaiting⟩

/-! ## Answers -/

theorem Task.of_answers {a : t.Answer} (h : t.Effect S S' a) (ht : t.answers p x = true) :
    S.status? x = some .awarded ∧ ∃ o, S.linked p x = [o] ∧ o.accepted = none := by
  cases t with
  | advance g y steps => cases ht
  | request g fresh r =>
    cases r with
    | accept q y =>
      obtain ⟨rfl, rfl⟩ : q = p ∧ y = x := by simpa [answers] using ht
      obtain ⟨s, o, hs, hone, hmade, -⟩ := h
      have hpair := Coordinator.of_acceptPair hmade
      exact ⟨by rw [Store.status?_of_shipment? hs, hpair.awarded], o, hone, hpair.offer.pending⟩
    | reject q y reason =>
      obtain ⟨rfl, rfl⟩ : q = p ∧ y = x := by simpa [answers] using ht
      obtain ⟨s, o, hs, hone, hmade, -⟩ := h
      have hpair := Coordinator.of_rejectPair hmade
      exact ⟨by rw [Store.status?_of_shipment? hs, hpair.awarded], o, hone, hpair.offer.pending⟩
    | _ => cases ht

/-- A provider that answers was awarded the shipment once. It is the one to
whom the shipment was awarded last exactly if the shipment was neither
submitted again nor turned down since, and always so if it was never submitted
again after an award. -/
theorem an_answer_comes_from_the_last_awardee_unless_recalled (start : Store)
    (hoffers : start.offers.entries = [])
    (hshipments : ∀ s ∈ start.shipments.entries, s.status = .draft ∨ s.status = .submitted)
    (ts : List Task) (p : ProviderId) (x : ShipmentId) (t : Task) (ht : t.answers p x = true)
    (a : t.Answer) (h : (t.gateway.run (serial Task.job start ts).1 t.work).1 = .ok a) :
    (∃ l₁ award l₂, tasksDone start ts = l₁ ++ award :: l₂ ∧
      award.awards x = some (some p) ∧ (∀ u ∈ l₁ ++ l₂, u.awards x ≠ some (some p)) ∧
      (lastAward x (tasksDone start ts) = some (some p) ↔ ∀ u ∈ l₂, u.takesBack x = false)) ∧
    (¬ Recalled x (tasksDone start ts) → lastAward x (tasksDone start ts) = some (some p)) := by
  have heffect : t.Effect _ _ a := Task.effect_of_run (Prod.ext h rfl)
  obtain ⟨hstatus, o, hone, hopen⟩ := Task.of_answers heffect ht
  have ho : o ∈ (serial Task.job start ts).1.linked p x := hone ▸ List.mem_singleton_self o
  refine ⟨?_, fun hno => (settled_run hoffers hshipments ts x).standing hno hstatus p o ho hopen⟩
  rcases offeredAtMostOnce_run hoffers ts p x with hnever | ⟨l₁, award, l₂, hdone, hoffered⟩
  · exact absurd ho (hnever.none o)
  · refine ⟨l₁, award, l₂, hdone, hoffered.awards, hoffered.once, ?_⟩
    have hback : (∀ u ∈ l₂, u.takesBack x = false) ↔ l₂.any (Task.takesBack x) = false := by simp
    rw [hback, hdone]
    exact hoffered.last_iff hstatus

/-! ### An earlier awardee -/

/-- The shipment is awarded to one provider, submitted again before that one
has answered, and awarded to another. -/
def Sample.reaward : List Task :=
  [Sample.task (.awardTo Sample.shipment.id ⟨Sample.uuid 3⟩) (Sample.uuid 5),
    Sample.task (.submit Sample.shipment.id),
    Sample.task (.awardTo Sample.shipment.id ⟨Sample.uuid 4⟩) (Sample.uuid 6)]

/-- It is not so that only the last awardee can answer: the first can accept here. -/
theorem an_earlier_awardee_can_accept :
    ¬ ∀ (start : Store), start.offers.entries = [] →
      (∀ s ∈ start.shipments.entries, s.status = .draft ∨ s.status = .submitted) →
      ∀ (ts : List Task) (p : ProviderId) (x : ShipmentId) (t : Task), t.answers p x = true →
      ∀ a : t.Answer, (t.gateway.run (serial Task.job start ts).1 t.work).1 = .ok a →
        lastAward x (tasksDone start ts) = some (some p) := by
  intro hclaim
  have hlast := hclaim Sample.store rfl (by decide) Sample.reaward ⟨Sample.uuid 3⟩
    Sample.shipment.id (Sample.task (.accept ⟨Sample.uuid 3⟩ Sample.shipment.id)) (by decide) _ rfl
  exact absurd hlast (by decide)

/-- What let the first provider accept is that the shipment was taken back from it. -/
theorem the_earlier_award_was_taken_back :
    ∃ l₁ award l₂, tasksDone Sample.store Sample.reaward = l₁ ++ award :: l₂ ∧
      award.awards Sample.shipment.id = some (some ⟨Sample.uuid 3⟩) ∧
      ∃ u ∈ l₂, u.takesBack Sample.shipment.id = true := by
  obtain ⟨⟨l₁, award, l₂, hdone, hawards, -, hlast⟩, -⟩ :=
    an_answer_comes_from_the_last_awardee_unless_recalled Sample.store rfl (by decide)
      Sample.reaward ⟨Sample.uuid 3⟩ Sample.shipment.id
      (Sample.task (.accept ⟨Sample.uuid 3⟩ Sample.shipment.id)) (by decide) _ rfl
  have hback : ¬ ∀ u ∈ l₂, u.takesBack Sample.shipment.id = false :=
    fun h => absurd (hlast.mpr h) (by decide)
  exact ⟨l₁, award, l₂, hdone, hawards, by simpa using hback⟩

end Relocation
