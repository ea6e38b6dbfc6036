-- Writes of records that were not read. A transaction that saves a record
-- without having found it does not overwrite a stored one. With a shipment this
-- holds whatever is found later. But an offer that is found between the write and
-- the commit counts as read, and then it is overwritten.
import Relocation.Proofs.Histories

namespace Relocation

/-! ## Records that have moved on -/

/-- A commit fails if of a record that is staged another version is stored than the one that
was read, and then the record stays. -/
theorem RecordKind.kept_of_moved {α κ : Type} [DecidableEq κ] {key : α → κ} (kind : RecordKind key)
    {s : Session} {n : Nat} {tx : Transaction} (htx : s.transactions n = some tx) {x : κ} {r : α}
    (hstaged : ((kind.staged tx).find? x).isSome = true)
    (hstored : (kind.stored s.store).find? x = some r)
    (hread : kind.read? tx x ≠ some (kind.version r)) :
    s.CommitFails n ∧ (kind.stored (s.step (.commit n)).store).find? x = some r := by
  have hfails : s.CommitFails n := by
    apply Session.commitFails_of_not_current htx
    intro hcur
    have hcurrent := Table.of_isSome_find? (P := fun x =>
      kind.read? tx x = ((kind.stored s.store).find? x).map kind.version) (kind.current hcur) hstaged
    rw [hstored] at hcurrent
    exact hread hcurrent
  refine ⟨hfails, ?_⟩
  rw [kind.stored_of_calm (Session.calm_of_commitFails hfails)]
  exact hstored

/-! ## What counts as read -/

namespace Transaction

variable {before late : List Asked} {a : Asked}

/-- A shipment that was not found before it was saved does not count as read. -/
theorem readShipment?_of_blind {x : ShipmentId} (hsaved : (a.savedShipment? x).isSome = true)
    (hblind : ∀ b ∈ before, b.foundShipment? x = none) :
    (after (before ++ a :: late)).readShipment? x = none := by
  rw [readShipment?_after, Asked.beforeSave_append hsaved, Option.map_eq_none_iff,
    List.findSome?_eq_none_iff]
  intro b hb
  apply hblind
  exact (List.takeWhile_sublist _).subset hb

/-- An offer that was not found before it was saved counts as read when it is found later. -/
theorem readOffer?_of_blind {x : OfferId} (hsaved : (a.savedOffer? x).isSome = true)
    (hblind : ∀ b ∈ before, b.foundOffer? x = none) :
    (after (before ++ a :: late)).readOffer? x =
      (late.findSome? (Asked.foundOffer? x)).map (·.version) := by
  have hbefore : before.findSome? (Asked.foundOffer? x) = none :=
    List.findSome?_eq_none_iff.mpr hblind
  rw [readOffer?_after, List.findSome?_append, hbefore, Option.none_or, List.findSome?_cons,
    a.found?_of_saved.2 x hsaved]

end Transaction

/-! ## Whole sessions -/

namespace Session

variable {start : Store} {events : List Event} {n : Nat}

/-- What a transaction saves blindly does not take the place of a stored record:
its commit fails and the record stays. The one exception is an offer that the
transaction finds between the save and the commit, with the version that is
still stored then. -/
theorem a_blind_write_is_refused_unless_found_later (start : Store) (events : List Event) (n : Nat)
    (hopen : ((run start events).transactions n).isSome = true) (before late : List Asked)
    (a : Asked) (hcalls : history n start events = before ++ a :: late) :
    (∀ x s, (a.savedShipment? x).isSome = true → (∀ b ∈ before, b.foundShipment? x = none) →
      (run start events).store.shipment? x = some s →
      (run start events).CommitFails n ∧
        ((run start events).step (.commit n)).store.shipment? x = some s) ∧
    ∀ x o, (a.savedOffer? x).isSome = true → (∀ b ∈ before, b.foundOffer? x = none) →
      (run start events).store.offer? x = some o →
      (∀ o', late.findSome? (Asked.foundOffer? x) = some o' → o'.version ≠ o.version) →
      (run start events).CommitFails n ∧
        ((run start events).step (.commit n)).store.offer? x = some o := by
  obtain ⟨tx, htx⟩ := Option.isSome_iff_exists.mp hopen
  obtain rfl : tx = Transaction.after (before ++ a :: late) := by
    rw [← hcalls]
    exact transaction_eq_after htx
  refine ⟨fun x s hsaved hblind hs => ?_, fun x o hsaved hblind ho hlate => ?_⟩
  · refine RecordKind.shipments.kept_of_moved htx (RecordKind.shipments.isSome_find?_staged hsaved)
      hs fun hread => ?_
    have hunread : (Transaction.after (before ++ a :: late)).readShipment? x = none :=
      Transaction.readShipment?_of_blind hsaved hblind
    exact nomatch hunread.symm.trans hread
  · refine RecordKind.offers.kept_of_moved htx (RecordKind.offers.isSome_find?_staged hsaved)
      ho fun hread => ?_
    have hfound : (Transaction.after (before ++ a :: late)).readOffer? x =
        (late.findSome? (Asked.foundOffer? x)).map (·.version) :=
      Transaction.readOffer?_of_blind hsaved hblind
    obtain ⟨o', ho', hversion⟩ := Option.map_eq_some_iff.mp (hfound.symm.trans hread)
    exact hlate o' ho' hversion

/-! ## A shipment and an offer that are saved blindly -/

/-- The offer after it was accepted. -/
def sampleAccepted : Offer := { Sample.offer with accepted := some true, version := 1 }

/-- A pending copy of an accepted offer is saved, and the offer is found after that. -/
def blindOffer : List Event :=
  [.seedOffer sampleAccepted, .begin 0, .call 0 (.saveOffer Sample.offer),
    .call 0 (.findOffers Sample.offer.providerId Sample.offer.shipmentId)]

/-- It is not so that a stored record is never overwritten blindly: here an
accepted offer is pending again after the commit. -/
theorem a_blind_write_can_overwrite_an_offer :
    ¬ ∀ (start : Store) (events : List Event) (n : Nat),
      ((run start events).transactions n).isSome = true →
      ∀ (before late : List Asked) (a : Asked), history n start events = before ++ a :: late →
      (∀ x s, (a.savedShipment? x).isSome = true → (∀ b ∈ before, b.foundShipment? x = none) →
        (run start events).store.shipment? x = some s →
        (run start events).CommitFails n ∧
          ((run start events).step (.commit n)).store.shipment? x = some s) ∧
      ∀ x o, (a.savedOffer? x).isSome = true → (∀ b ∈ before, b.foundOffer? x = none) →
        (run start events).store.offer? x = some o →
        (run start events).CommitFails n ∧
          ((run start events).step (.commit n)).store.offer? x = some o := by
  intro hclaim
  obtain ⟨-, hoffers⟩ := hclaim {} blindOffer 0 rfl [] _ _ rfl
  obtain ⟨-, hstays⟩ := hoffers Sample.offer.id sampleAccepted rfl (by simp) rfl
  have hpending : ((run {} blindOffer).step (.commit 0)).store.offer? Sample.offer.id =
      some Sample.offer := rfl
  rw [hpending] at hstays
  exact absurd hstays (by decide)

/-- A shipment and an offer are saved blindly and found after that, and then the
offer is stored anew. -/
def blindBoth : List Event :=
  [.seedShipment Sample.shipment, .seedOffer Sample.offer, .begin 0,
    .call 0 (.saveShipment Sample.shipment), .call 0 (.findShipment Sample.shipment.id),
    .call 0 (.saveOffer Sample.offer),
    .call 0 (.findOffers Sample.offer.providerId Sample.offer.shipmentId),
    .seedOffer sampleAccepted]

/-- Neither record is overwritten. -/
theorem blind_writes_are_refused :
    (run {} blindBoth).CommitFails 0 ∧
    ((run {} blindBoth).step (.commit 0)).store.shipment? Sample.shipment.id =
      some Sample.shipment ∧
    ((run {} blindBoth).step (.commit 0)).store.offer? Sample.offer.id = some sampleAccepted := by
  obtain ⟨hshipments, -⟩ := a_blind_write_is_refused_unless_found_later {} blindBoth 0 rfl [] _ _ rfl
  obtain ⟨hfails, hshipment⟩ := hshipments Sample.shipment.id Sample.shipment rfl (by simp) rfl
  have hblind : ∀ b ∈ (history 0 {} blindBoth).take 2, b.foundOffer? Sample.offer.id = none := by
    decide
  have hlater : ((history 0 {} blindBoth).drop 3).findSome?
      (Asked.foundOffer? Sample.offer.id) = some Sample.offer := rfl
  obtain ⟨-, hoffers⟩ := a_blind_write_is_refused_unless_found_later {} blindBoth 0 rfl
    ((history 0 {} blindBoth).take 2) ((history 0 {} blindBoth).drop 3) _ rfl
  obtain ⟨-, hoffer⟩ := hoffers Sample.offer.id sampleAccepted rfl hblind rfl fun o ho => by
    obtain rfl : Sample.offer = o := Option.some.inj (hlater.symm.trans ho)
    decide
  exact ⟨hfails, hshipment, hoffer⟩

end Session

end Relocation
