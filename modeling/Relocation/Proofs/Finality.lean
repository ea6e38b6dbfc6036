-- An answered offer is final. Offers only come in pending and with version 0,
-- and only a pending offer is ever written over, by its answer.
import Relocation.Proofs.Checked

namespace Relocation

variable {S S' : Store}

/-! ## The offers after a commit -/

/-- All that a task can do to the offers. -/
inductive Store.OffersAfter (S S' : Store) : Prop
  | same (offers : S'.offers = S.offers)
  | made {o : Offer} (free : S.offer? o.id = none) (pending : o.accepted = none)
      (version : o.version = 0) (offers : S'.offers = S.offers.insert o)
  | answered {o o' : Offer} {flag : Bool} (found : S.offer? o.id = some o)
      (answer : o.Answered flag o') (offers : S'.offers = S.offers.insert o')

theorem Task.offers_of_effect {t : Task} {a : t.Answer} (h : t.Effect S S' a) :
    S.OffersAfter S' := by
  cases t with
  | advance g x steps =>
    obtain ⟨-, -, -, rfl⟩ := h
    exact .same rfl
  | request g fresh r =>
    cases r with
    | fetch p x =>
      obtain rfl : S' = S := h
      exact .same rfl
    | listAgents x =>
      obtain rfl : S' = S := h
      exact .same rfl
    | accept p x =>
      obtain ⟨s, o, -, hone, hmade, rfl⟩ := h
      have ho := (Store.mem_linked.mp (hone ▸ List.mem_singleton_self o)).1
      exact .answered ho (Coordinator.of_acceptPair hmade).offer rfl
    | reject p x reason =>
      obtain ⟨s, o, -, hone, hmade, rfl⟩ := h
      have ho := (Store.mem_linked.mp (hone ▸ List.mem_singleton_self o)).1
      exact .answered ho (Coordinator.of_rejectPair hmade).offer rfl
    | award x =>
      obtain ⟨-, -, -, rfl⟩ := h
      exact .same rfl
    | submit x =>
      obtain ⟨-, -, -, rfl⟩ := h
      exact .same rfl
    | awardTo x p =>
      obtain ⟨s', o⟩ := a
      obtain ⟨-, -, -, -, hnew, hfree, rfl⟩ := h
      exact .made hfree (by rw [hnew]; rfl) (by rw [hnew]; rfl) rfl
    | survey p x patch =>
      obtain ⟨-, -, -, -, -, rfl⟩ := h
      exact .same rfl
    | addAgent x request =>
      obtain ⟨-, -, rfl⟩ := h
      exact .same rfl

theorem System.Leads.offersAfter {sys sys' : System Task.job} (h : sys.Leads Store.Later sys') :
    sys.store.OffersAfter sys'.store := by
  cases h with
  | quiet store => exact .same (Store.same_of_calm store).2
  | @commit k S₀ T tx a begins ran later commits committed log =>
    obtain ⟨-, hcur, hstore⟩ := Transaction.commit_eq_ok.mp committed
    rw [hstore]
    exact Task.offers_of_effect (k.effect ran later hcur)

/-! ## What stays of an offer -/

theorem Store.OffersAfter.keeps_answered (h : S.OffersAfter S') {x : OfferId} {o : Offer}
    (ho : S.offer? x = some o) (hanswered : o.accepted ≠ none) : S'.offer? x = some o := by
  unfold offer? at *
  cases h with
  | same offers => rwa [offers]
  | @made u free pending version offers =>
    have hne : u.id ≠ x := by
      rintro rfl
      rw [offer?, ho] at free
      cases free
    rw [offers, Table.find?_insert, if_neg hne, ho]
  | @answered u u' flag found answer offers =>
    have hne : u'.id ≠ x := by
      intro hx
      rw [← answer.id, hx, offer?, ho, Option.some.injEq] at found
      exact hanswered (found ▸ answer.pending)
    rw [offers, Table.find?_insert, if_neg hne, ho]

/-- The version of an offer is the number of its answers. -/
def Offer.CountsAnswers (o : Offer) : Prop := o.version = if o.state = .pending then 0 else 1

theorem Store.OffersAfter.countsAnswers (h : S.OffersAfter S')
    (hcounts : ∀ o ∈ S.offers.entries, o.CountsAnswers) :
    ∀ o ∈ S'.offers.entries, o.CountsAnswers := by
  intro o ho
  cases h with
  | same offers => exact hcounts o (offers ▸ ho)
  | @made u free pending version offers =>
    rcases Table.mem_insert (offers ▸ ho) with rfl | hmem
    · simp [Offer.CountsAnswers, Offer.state, OfferState.ofFlag, pending, version]
    · exact hcounts o hmem
  | @answered u u' flag found answer offers =>
    rcases Table.mem_insert (offers ▸ ho) with rfl | hmem
    · have hbefore := hcounts u ((Table.find?_eq_some_iff _ _ _).mp found).1
      have hzero : u.version = 0 := by
        simpa [Offer.CountsAnswers, Offer.state, OfferState.ofFlag, answer.pending] using hbefore
      cases flag <;>
        simp [Offer.CountsAnswers, Offer.state, OfferState.ofFlag, answer.accepted,
          answer.version, hzero]
    · exact hcounts o hmem

/-- An offer that was answered is the same in every later store. In a store
that began without offers, an offer has version 0 while it is pending and
version 1 once it is answered, and the rejected offers are those with a
reason, which is not blank. -/
theorem an_answered_offer_is_final (start : Store) (events : List (Event Task)) :
    (∀ x o, (System.run Task.job start events).store.offer? x = some o → o.accepted ≠ none →
      ∀ later, (System.run Task.job start (events ++ later)).store.offer? x = some o) ∧
    (start.offers.entries = [] → ∀ o ∈ (System.run Task.job start events).store.offers.entries,
      (o.version = if o.state = .pending then 0 else 1) ∧
      (o.rejectionReason.isSome ↔ o.state = .rejected) ∧
      ∀ reason, o.rejectionReason = some reason → Text.blank reason = false) := by
  constructor
  · intro x o ho hanswered later
    rw [System.run_append]
    refine (System.sound_run Task.guarantee start events).preserves Task.guarantee
      (I := fun sys => sys.store.offer? x = some o) ho later ?_
    exact fun h hleads => hleads.offersAfter.keeps_answered h hanswered
  · intro hstart o ho
    have hversions : ∀ o ∈ (System.run Task.job start events).store.offers.entries,
        o.CountsAnswers := by
      refine System.run_preserves Task.guarantee
        (I := fun sys => ∀ o ∈ sys.store.offers.entries, o.CountsAnswers) events ?_ ?_
      · simp [hstart]
      · exact fun h hleads => hleads.offersAfter.countsAnswers h
    have hchecked : o.report.isEmpty = true := by
      rcases (System.checked_run Task.job start events).offers o ho with hold | hchecked
      · rw [hstart] at hold
        cases hold
      · exact hchecked
    exact ⟨hversions o ho, o.report_isEmpty_iff.mp hchecked⟩

/-- The provider takes the shipment, when another unit is about to turn it down. -/
def Sample.acceptance : List (Event Task) :=
  let accept := Sample.task (.accept ⟨Sample.uuid 3⟩ Sample.shipment.id)
  let reject := Sample.task (.reject ⟨Sample.uuid 3⟩ Sample.shipment.id "no crew")
  .start (Sample.task (.awardTo Sample.shipment.id ⟨Sample.uuid 3⟩) (Sample.uuid 4)) ::
    List.replicate 6 (.call 0) ++ [.start accept, .start reject] ++
    List.replicate 5 (.call 2) ++ List.replicate 6 (.call 1)

/-- The late rejection leaves the accepted offer as it is. -/
theorem an_accepted_offer_is_not_turned_down :
    ∃ o, (System.run Task.job Sample.store Sample.acceptance).store.offer? ⟨Sample.uuid 4⟩ =
        some o ∧ o.state = .accepted ∧ o.version = 1 ∧ o.rejectionReason.isSome = false ∧
      (System.run Task.job Sample.store (Sample.acceptance ++ [.call 2])).store.offer?
        ⟨Sample.uuid 4⟩ = some o := by
  have haccepted : ((System.run Task.job Sample.store Sample.acceptance).store.offer?
      ⟨Sample.uuid 4⟩).map Offer.accepted = some (some true) := by decide
  obtain ⟨o, ho, hflag⟩ := Option.map_eq_some_iff.mp haccepted
  obtain ⟨hfinal, hshape⟩ := an_answered_offer_is_final Sample.store Sample.acceptance
  obtain ⟨hversion, hreason, -⟩ := hshape rfl o ((Table.find?_eq_some_iff _ _ _).mp ho).1
  have hstate : o.state = .accepted := by rw [Offer.state, hflag, OfferState.ofFlag]
  refine ⟨o, ho, hstate, ?_, ?_, hfinal _ o ho (by simp [hflag]) [.call 2]⟩
  · simpa [hstate] using hversion
  · simpa [hstate] using hreason

end Relocation
