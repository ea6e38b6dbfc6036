-- Each unit of work in its own words: what it has to read, what it makes of
-- it, and what its transaction holds in the end. The reads are made on stores
-- of different moments, so each is told of the store that it was made on.
import Relocation.Proofs.Reads

namespace Relocation

/-! ## The two reads -/

/-- The stored offers that link the provider to the shipment. -/
def Store.linked (S : Store) (provider : ProviderId) (shipment : ShipmentId) : List Offer :=
  S.offers.entries.filter (Transaction.links provider shipment)

theorem Store.entries_linked (S : Store) (p : ProviderId) (x : ShipmentId) :
    ((Table.empty : Table Offer Offer.id).insertAll (S.linked p x)).entries = S.linked p x := by
  apply Table.entries_insertAll
  exact S.offers.nodup_filter (Transaction.links p x)

namespace Transaction

/-- The transaction that has also read the shipment from the store. -/
def sawShipment (tx : Transaction) (s : Shipment) : Transaction :=
  { tx with shipmentVersions := tx.shipmentVersions.insertNew (s.id, s.version) }

/-- The transaction that has also read the offers from the store. -/
def sawOffers (tx : Transaction) (os : List Offer) : Transaction :=
  { tx with offerVersions := os.foldl (fun t o => t.insertNew (o.id, o.version)) tx.offerVersions }

theorem findShipment_of_unstaged {tx tx' : Transaction} {S : Store} {x : ShipmentId} {s : Shipment}
    (h : tx.shipments = .empty) :
    tx.findShipment S x = .ok (s, tx') ↔ S.shipment? x = some s ∧ tx' = tx.sawShipment s := by
  have hunstaged : tx.shipments.find? x = none := by rw [h, Table.find?_empty]
  unfold findShipment
  rw [hunstaged]
  rcases hs : S.shipment? x with _ | t
  · simp
  · have hid : t.id = x := Table.key_of_find? hs
    subst hid
    constructor
    · rintro ⟨⟩
      exact ⟨rfl, rfl⟩
    · rintro ⟨⟨⟩, rfl⟩
      rfl

theorem findOffers_of_unstaged {tx : Transaction} (S : Store) (p : ProviderId) (x : ShipmentId)
    (h : tx.offers = .empty) :
    tx.findOffers S p x = (S.linked p x, tx.sawOffers (S.linked p x)) := by
  have hunstaged : tx.offers.entries = [] := by rw [h, Table.entries_empty]
  simp only [findOffers, hunstaged, List.filter_nil, Table.insertAll_nil]
  exact Prod.ext (S.entries_linked p x) rfl

/-! ## The three writes -/

/-- The transaction has staged nothing. -/
def Unstaged (tx : Transaction) : Prop :=
  tx.shipments = .empty ∧ tx.offers = .empty ∧ tx.agents = []

def stageShipment (tx : Transaction) (s : Shipment) : Transaction :=
  { tx with shipments := tx.shipments.insert s }

def stageOffer (tx : Transaction) (o : Offer) : Transaction :=
  { tx with offers := tx.offers.insert o }

def stageAgent (tx : Transaction) (a : Agent) : Transaction :=
  { tx with agents := tx.agents ++ [a] }

/-- What is saved is checked and then staged. -/
theorem save_eq_ok {r : Report} {staged tx' : Transaction} {u : Unit} :
    (r.check >>= fun _ => .ok staged : Except Failure Transaction).map (fun tx => ((), tx)) =
      .ok (u, tx') ↔ r.check = .ok () ∧ tx' = staged := by
  rw [map_eq_ok]
  simp [check_bind_eq_ok]

theorem answer_saveShipment {tx tx' : Transaction} {S : Store} {s : Shipment} {u : Unit} :
    tx.answer S (.saveShipment s) = .ok (u, tx') ↔
      s.report.check = .ok () ∧ tx' = tx.stageShipment s := save_eq_ok

theorem answer_saveOffer {tx tx' : Transaction} {S : Store} {o : Offer} {u : Unit} :
    tx.answer S (.saveOffer o) = .ok (u, tx') ↔
      o.report.check = .ok () ∧ tx' = tx.stageOffer o := save_eq_ok

theorem answer_saveAgent {tx tx' : Transaction} {S : Store} {a : Agent} {u : Unit} :
    tx.answer S (.saveAgent a) = .ok (u, tx') ↔
      a.report.check = .ok () ∧ tx' = tx.stageAgent a := save_eq_ok

/-- A shipment that is found is the staged one, or else the stored one. -/
theorem findShipment_cases {tx tx' : Transaction} {S : Store} {x : ShipmentId} {s : Shipment}
    (h : tx.findShipment S x = .ok (s, tx')) :
    (tx.shipments.find? x = some s ∧ tx' = tx) ∨
      (S.shipment? x = some s ∧ tx' = tx.sawShipment s) := by
  unfold findShipment at h
  split at h
  · rename_i hstaged
    cases h
    exact .inl ⟨hstaged, rfl⟩
  · split at h
    · rename_i hs
      cases h
      obtain rfl := Table.key_of_find? hs
      exact .inr ⟨hs, rfl⟩
    · cases h

/-- All that a call does to what is staged: a save adds a record that violates
no constraint, and a find adds nothing. -/
theorem answer_cases {tx tx' : Transaction} {S : Store} {c : Call} {reply : c.Reply}
    (h : tx.answer S c = .ok (reply, tx')) :
    (∃ s, c = .saveShipment s ∧ s.report.check = .ok () ∧ tx' = tx.stageShipment s) ∨
      (∃ o, c = .saveOffer o ∧ o.report.check = .ok () ∧ tx' = tx.stageOffer o) ∨
      (∃ a, c = .saveAgent a ∧ a.report.check = .ok () ∧ tx' = tx.stageAgent a) ∨
      (tx'.shipments = tx.shipments ∧ tx'.offers = tx.offers ∧ tx'.agents = tx.agents) := by
  cases c with
  | saveShipment s =>
    obtain ⟨hvalid, rfl⟩ := answer_saveShipment.mp h
    exact .inl ⟨s, rfl, hvalid, rfl⟩
  | saveOffer o =>
    obtain ⟨hvalid, rfl⟩ := answer_saveOffer.mp h
    exact .inr (.inl ⟨o, rfl, hvalid, rfl⟩)
  | saveAgent a =>
    obtain ⟨hvalid, rfl⟩ := answer_saveAgent.mp h
    exact .inr (.inr (.inl ⟨a, rfl, hvalid, rfl⟩))
  | findShipment x =>
    rcases findShipment_cases h with ⟨-, rfl⟩ | ⟨-, rfl⟩ <;>
      exact .inr (.inr (.inr ⟨rfl, rfl, rfl⟩))
  | findOffers p x =>
    cases h
    exact .inr (.inr (.inr ⟨rfl, rfl, rfl⟩))
  | findAgents x =>
    cases h
    exact .inr (.inr (.inr ⟨rfl, rfl, rfl⟩))

end Transaction

/-! ## The calls as parts of a unit -/

namespace Work

variable {R : Store → Store → Prop} {g : Gateway} {S S' : Store} {tx tx' : Transaction}

theorem ran_findShipment {x : ShipmentId} {s : Shipment} (h : tx.shipments = .empty) :
    Ran R g (ask (.findShipment x)) S tx S' tx' s ↔
      g.fault .findShipment = none ∧ R S S' ∧ S'.shipment? x = some s ∧ tx' = tx.sawShipment s := by
  rw [ran_ask, ← Transaction.findShipment_of_unstaged h]
  rfl

theorem ran_findOffers {p : ProviderId} {x : ShipmentId} {os : List Offer}
    (h : tx.offers = .empty) :
    Ran R g (ask (.findOffers p x)) S tx S' tx' os ↔
      g.fault .findOffers = none ∧ R S S' ∧ os = S'.linked p x ∧ tx' = tx.sawOffers os := by
  rw [ran_ask]
  have hanswer : tx.answer S' (.findOffers p x) =
      .ok (S'.linked p x, tx.sawOffers (S'.linked p x)) :=
    congrArg Except.ok (Transaction.findOffers_of_unstaged S' p x h)
  rw [hanswer]
  constructor
  · rintro ⟨passed, later, ⟨⟩⟩
    exact ⟨passed, later, rfl, rfl⟩
  · rintro ⟨passed, later, rfl, rfl⟩
    exact ⟨passed, later, rfl⟩

/-- A record is staged if it violates no constraint and the gateway takes it. -/
theorem ran_save (c : Call) (stage : Transaction → Transaction) {r : c.Reply} {valid : Prop}
    (hanswer : tx.answer S' c = .ok (r, tx') ↔ valid ∧ tx' = stage tx) :
    Ran R g (ask c) S tx S' tx' r ↔
      (g.fault c.stage = none ∧ valid) ∧ R S S' ∧ tx' = stage tx := by
  rw [ran_ask, hanswer]
  constructor
  · rintro ⟨passed, later, hvalid, rfl⟩
    exact ⟨⟨passed, hvalid⟩, later, rfl⟩
  · rintro ⟨⟨passed, hvalid⟩, later, rfl⟩
    exact ⟨passed, later, hvalid, rfl⟩

theorem ran_saveShipment {s : Shipment} {u : Unit} :
    Ran R g (ask (.saveShipment s)) S tx S' tx' u ↔
      (g.fault .saveShipment = none ∧ s.report.check = .ok ()) ∧ R S S' ∧
        tx' = tx.stageShipment s :=
  ran_save (.saveShipment s) (·.stageShipment s) Transaction.answer_saveShipment

theorem ran_saveOffer {o : Offer} {u : Unit} :
    Ran R g (ask (.saveOffer o)) S tx S' tx' u ↔
      (g.fault .saveOffer = none ∧ o.report.check = .ok ()) ∧ R S S' ∧ tx' = tx.stageOffer o :=
  ran_save (.saveOffer o) (·.stageOffer o) Transaction.answer_saveOffer

theorem ran_saveAgent {a : Agent} {u : Unit} :
    Ran R g (ask (.saveAgent a)) S tx S' tx' u ↔
      (g.fault .saveAgent = none ∧ a.report.check = .ok ()) ∧ R S S' ∧ tx' = tx.stageAgent a :=
  ran_save (.saveAgent a) (·.stageAgent a) Transaction.answer_saveAgent

theorem ran_findAgents {x : ShipmentId} {as : List Agent} :
    Ran R g (ask (.findAgents x)) S tx S' tx' as ↔
      g.fault .findAgents = none ∧ R S S' ∧ as = tx.findAgents S' x ∧ tx' = tx := by
  rw [ran_ask]
  simp [Transaction.answer, Call.stage, eq_comm]

end Work

/-! ## The units of the coordinator -/

namespace Coordinator

open Work (ask ofExcept Ran ran_bind ran_pure ran_ofExcept ran_findShipment ran_findOffers
  ran_saveShipment ran_saveOffer ran_saveAgent ran_findAgents)

variable {R : Store → Store → Prop} {g : Gateway} {S S' : Store} {tx tx' : Transaction}

/-- The transaction that has read a pair. -/
def sawPair (s : Shipment) (o : Offer) : Transaction :=
  (Transaction.begin.sawOffers [o]).sawShipment s

/-- The gateway answers both reads of a pair. -/
def ReadsPair (g : Gateway) : Prop := g.fault .findOffers = none ∧ g.fault .findShipment = none

/-- The pair may be staged: it violates no constraint and the gateway takes it. -/
def StagesPair (g : Gateway) (s : Shipment) (o : Offer) : Prop :=
  ((Report.empty.merge "shipment" s.report).merge "offer" o.report).check = .ok () ∧
    (g.fault .saveShipment = none ∧ s.report.check = .ok ()) ∧
    g.fault .saveOffer = none ∧ o.report.check = .ok ()

theorem ran_loadPair {p : ProviderId} {x : ShipmentId} {s : Shipment} {o : Offer} :
    Ran R g (loadPair p x) S .begin S' tx' (s, o) ↔
      ReadsPair g ∧ ∃ T, R S T ∧ R T S' ∧ T.linked p x = [o] ∧ S'.shipment? x = some s ∧
        tx' = sawPair s o := by
  unfold loadPair
  rw [ran_bind]
  constructor
  · rintro ⟨T, tx₁, os, hos, hrest⟩
    obtain ⟨passed, later, rfl, rfl⟩ := (ran_findOffers rfl).mp hos
    split at hrest
    · rename_i o' hone
      rw [ran_bind] at hrest
      obtain ⟨U, tx₂, s', hread, hdone⟩ := hrest
      obtain ⟨rfl, rfl, ⟨⟩⟩ := ran_pure.mp hdone
      obtain ⟨passed', later', hs, rfl⟩ := (ran_findShipment rfl).mp hread
      exact ⟨⟨passed, passed'⟩, T, later, later', hone, hs, by rw [hone]; rfl⟩
    · exact absurd hrest Work.ran_fail
  · rintro ⟨⟨passed, passed'⟩, T, later, later', hone, hs, rfl⟩
    refine ⟨T, _, _, (ran_findOffers rfl).mpr ⟨passed, later, rfl, rfl⟩, ?_⟩
    rw [hone]
    exact ran_bind.mpr ⟨S', _, s, (ran_findShipment rfl).mpr ⟨passed', later', hs, rfl⟩, .done⟩

theorem ran_savePair {s : Shipment} {o : Offer} {u : Unit} :
    Ran R g (savePair s o) S tx S' tx' u ↔
      StagesPair g s o ∧ (∃ T, R S T ∧ R T S') ∧ tx' = (tx.stageShipment s).stageOffer o := by
  unfold savePair
  rw [ran_bind]
  constructor
  · rintro ⟨T, tx₁, v, hchecked, hrest⟩
    obtain ⟨rfl, rfl, hvalid⟩ := ran_ofExcept.mp hchecked
    obtain ⟨T, tx₂, w, hs, ho⟩ := ran_bind.mp hrest
    obtain ⟨hstage, later, rfl⟩ := ran_saveShipment.mp hs
    obtain ⟨hstage', later', rfl⟩ := ran_saveOffer.mp ho
    exact ⟨⟨hvalid, hstage, hstage'⟩, ⟨T, later, later'⟩, rfl⟩
  · rintro ⟨⟨hvalid, hstage, hstage'⟩, ⟨T, later, later'⟩, rfl⟩
    have hs : Ran R g (ask (.saveShipment s)) S tx T (tx.stageShipment s) () :=
      ran_saveShipment.mpr ⟨hstage, later, rfl⟩
    refine ⟨S, tx, (), ran_ofExcept.mpr ⟨rfl, rfl, hvalid⟩, ran_bind.mpr ⟨T, _, (), hs, ?_⟩⟩
    exact ran_saveOffer.mpr ⟨hstage', later', rfl⟩

/-- The shipment may be staged by the coordinator. -/
def StagesShipment (g : Gateway) (s : Shipment) : Prop :=
  (Report.empty.merge "shipment" s.report).check = .ok () ∧
    g.fault .saveShipment = none ∧ s.report.check = .ok ()

theorem ran_saveShipment_checked {s : Shipment} {u : Unit} :
    Ran R g (saveShipment s) S tx S' tx' u ↔
      StagesShipment g s ∧ R S S' ∧ tx' = tx.stageShipment s := by
  unfold saveShipment
  rw [ran_bind]
  constructor
  · rintro ⟨T, tx₁, v, hchecked, hrest⟩
    obtain ⟨rfl, rfl, hvalid⟩ := ran_ofExcept.mp hchecked
    obtain ⟨hstage, later, rfl⟩ := ran_saveShipment.mp hrest
    exact ⟨⟨hvalid, hstage⟩, later, rfl⟩
  · rintro ⟨⟨hvalid, hstage⟩, later, rfl⟩
    exact ⟨S, tx, (), ran_ofExcept.mpr ⟨rfl, rfl, hvalid⟩,
      ran_saveShipment.mpr ⟨hstage, later, rfl⟩⟩

/-! ### Both records of a pair -/

/-- A change of a pair, as one unit: it is read, changed and staged. -/
def changePair (p : ProviderId) (x : ShipmentId)
    (f : Shipment → Offer → Except Failure (Shipment × Offer)) : Work (Shipment × Offer) := do
  let (s, o) ← loadPair p x
  let (s, o) ← ofExcept (f s o)
  savePair s o
  pure (s, o)

section

variable [Build]

/-- What an acceptance makes of the pair. -/
def acceptPair (fresh : Fresh) (s : Shipment) (o : Offer) :
    Except Failure (Shipment × Offer) := do
  let s ← s.after .accept fresh.shipmentTime
  let o ← afterwards (o.accept fresh.recordTime)
  .ok (s, o)

/-- What a rejection makes of the pair. -/
def rejectPair (fresh : Fresh) (reason : String) (s : Shipment) (o : Offer) :
    Except Failure (Shipment × Offer) := do
  if s.status ≠ .awarded then
    .error (.invalidTransition Shipment.entity s.id.text "reject" s.status.name)
  else
    let s ← s.after .submit fresh.shipmentTime
    let o ← afterwards (o.reject reason fresh.recordTime)
    .ok (s, o)

theorem accept_eq (fresh : Fresh) (p : ProviderId) (x : ShipmentId) :
    accept fresh p x = changePair p x (acceptPair fresh) := by
  unfold accept changePair acceptPair
  congr 1
  funext ⟨s, o⟩
  dsimp only
  rcases s.after .accept fresh.shipmentTime with failure | s'
  · rfl
  · rcases afterwards (o.accept fresh.recordTime) with failure | o' <;> rfl

theorem reject_eq (fresh : Fresh) (p : ProviderId) (x : ShipmentId) (reason : String) :
    reject fresh p x reason = changePair p x (rejectPair fresh reason) := by
  unfold reject changePair rejectPair
  congr 1
  funext ⟨s, o⟩
  dsimp only
  by_cases hawarded : s.status ≠ .awarded
  · rw [if_pos hawarded, if_pos hawarded]
    rfl
  · rw [if_neg hawarded, if_neg hawarded]
    rcases s.after .submit fresh.shipmentTime with failure | s'
    · rfl
    · rcases afterwards (o.reject reason fresh.recordTime) with failure | o' <;> rfl

end

theorem ran_changePair {p : ProviderId} {x : ShipmentId}
    {f : Shipment → Offer → Except Failure (Shipment × Offer)} {s' : Shipment} {o' : Offer} :
    Ran R g (changePair p x f) S .begin S' tx' (s', o') ↔
      ReadsPair g ∧ StagesPair g s' o' ∧ ∃ T U V s o, R S T ∧ R T U ∧ R U V ∧ R V S' ∧
        T.linked p x = [o] ∧ U.shipment? x = some s ∧ f s o = .ok (s', o') ∧
        tx' = ((sawPair s o).stageShipment s').stageOffer o' := by
  unfold changePair
  rw [ran_bind]
  constructor
  · rintro ⟨U, tx₁, ⟨s, o⟩, hread, hrest⟩
    obtain ⟨hreads, T, later, later', hone, hs, rfl⟩ := ran_loadPair.mp hread
    obtain ⟨U, tx₂, ⟨s₁, o₁⟩, hmade, hrest⟩ := ran_bind.mp hrest
    obtain ⟨rfl, rfl, hf⟩ := ran_ofExcept.mp hmade
    obtain ⟨W, tx₃, u, hstage, hdone⟩ := ran_bind.mp hrest
    obtain ⟨hstages, ⟨V, laterV, laterW⟩, rfl⟩ := ran_savePair.mp hstage
    obtain ⟨rfl, rfl, ⟨⟩⟩ := ran_pure.mp hdone
    exact ⟨hreads, hstages, T, U, V, s, o, later, later', laterV, laterW, hone, hs, hf, rfl⟩
  · rintro ⟨hreads, hstages, T, U, V, s, o, later, later', laterV, laterW, hone, hs, hf, rfl⟩
    refine ⟨U, _, (s, o), ran_loadPair.mpr ⟨hreads, T, later, later', hone, hs, rfl⟩, ?_⟩
    refine ran_bind.mpr ⟨U, _, (s', o'), ran_ofExcept.mpr ⟨rfl, rfl, hf⟩, ?_⟩
    exact ran_bind.mpr ⟨S', _, (), ran_savePair.mpr ⟨hstages, ⟨V, laterV, laterW⟩, rfl⟩, .done⟩

theorem ran_awardTo [Build] {fresh : Fresh} {p : ProviderId} {x : ShipmentId} {s' : Shipment}
    {o' : Offer} :
    Ran R g (awardTo fresh x p) S .begin S' tx' (s', o') ↔
      ReadsPair g ∧ StagesPair g s' o' ∧ ∃ T U V s, R S T ∧ R T U ∧ R U V ∧ R V S' ∧
        T.shipment? x = some s ∧ U.linked p x = [] ∧
        s.after .award fresh.shipmentTime = .ok s' ∧
        o' = Offer.new ⟨fresh.uuid⟩ s'.id p fresh.recordTime ∧
        tx' = ((Transaction.begin.sawShipment s).stageShipment s').stageOffer o' := by
  unfold awardTo
  rw [ran_bind]
  constructor
  · rintro ⟨T, tx₁, s, hread, hrest⟩
    obtain ⟨passed, later, hs, rfl⟩ := (ran_findShipment rfl).mp hread
    obtain ⟨U, tx₂, os, hread, hrest⟩ := ran_bind.mp hrest
    obtain ⟨passed', later', rfl, rfl⟩ := (ran_findOffers rfl).mp hread
    split at hrest
    · exact absurd hrest Work.ran_fail
    · rename_i hnone
      rw [ne_eq, Decidable.not_not] at hnone
      rw [hnone] at hrest
      obtain ⟨U, tx₃, s₁, hmade, hrest⟩ := ran_bind.mp hrest
      obtain ⟨rfl, rfl, hafter⟩ := ran_ofExcept.mp hmade
      obtain ⟨W, tx₄, u, hstage, hdone⟩ := ran_bind.mp hrest
      obtain ⟨hstages, ⟨V, laterV, laterW⟩, rfl⟩ := ran_savePair.mp hstage
      obtain ⟨rfl, rfl, ⟨⟩⟩ := ran_pure.mp hdone
      exact ⟨⟨passed', passed⟩, hstages, T, U, V, s, later, later', laterV, laterW, hs, hnone,
        hafter, rfl, rfl⟩
  · rintro ⟨⟨passed', passed⟩, hstages, T, U, V, s, later, later', laterV, laterW, hs, hnone,
      hafter, rfl, rfl⟩
    refine ⟨T, _, s, (ran_findShipment rfl).mpr ⟨passed, later, hs, rfl⟩, ?_⟩
    refine ran_bind.mpr ⟨U, _, [], (ran_findOffers rfl).mpr ⟨passed', later', hnone.symm, rfl⟩, ?_⟩
    rw [if_neg (by simp)]
    refine ran_bind.mpr ⟨U, _, s', ran_ofExcept.mpr ⟨rfl, rfl, hafter⟩, ?_⟩
    exact ran_bind.mpr ⟨S', _, (), ran_savePair.mpr ⟨hstages, ⟨V, laterV, laterW⟩, rfl⟩, .done⟩

/-! ### The shipment alone -/

/-- A change of a shipment, as one unit: it is read, changed and staged. -/
def changeShipment (stage : Shipment → Work Unit) (x : ShipmentId)
    (f : Shipment → Except Failure Shipment) : Work Shipment := do
  let s ← ask (.findShipment x)
  let s ← ofExcept (f s)
  stage s
  pure s

/-- However a shipment is staged, it is staged if `C` holds of it. -/
theorem ran_changeShipment {stage : Shipment → Work Unit} {C : Shipment → Prop} {x : ShipmentId}
    {f : Shipment → Except Failure Shipment} {s' : Shipment}
    (hstage : ∀ s S S' tx tx' u, Ran R g (stage s) S tx S' tx' u ↔
      C s ∧ R S S' ∧ tx' = tx.stageShipment s) :
    Ran R g (changeShipment stage x f) S .begin S' tx' s' ↔
      g.fault .findShipment = none ∧ C s' ∧ ∃ T s, R S T ∧ R T S' ∧ T.shipment? x = some s ∧
        f s = .ok s' ∧ tx' = (Transaction.begin.sawShipment s).stageShipment s' := by
  unfold changeShipment
  rw [ran_bind]
  constructor
  · rintro ⟨T, tx₁, s, hread, hrest⟩
    obtain ⟨passed, later, hs, rfl⟩ := (ran_findShipment rfl).mp hread
    obtain ⟨T, tx₂, s₁, hmade, hrest⟩ := ran_bind.mp hrest
    obtain ⟨rfl, rfl, hf⟩ := ran_ofExcept.mp hmade
    obtain ⟨U, tx₃, u, hstaged, hdone⟩ := ran_bind.mp hrest
    obtain ⟨hC, later', rfl⟩ := (hstage ..).mp hstaged
    obtain ⟨rfl, rfl, rfl⟩ := ran_pure.mp hdone
    exact ⟨passed, hC, T, s, later, later', hs, hf, rfl⟩
  · rintro ⟨passed, hC, T, s, later, later', hs, hf, rfl⟩
    refine ⟨T, _, s, (ran_findShipment rfl).mpr ⟨passed, later, hs, rfl⟩, ?_⟩
    refine ran_bind.mpr ⟨T, _, s', ran_ofExcept.mpr ⟨rfl, rfl, hf⟩, ?_⟩
    exact ran_bind.mpr ⟨S', _, (), (hstage ..).mpr ⟨hC, later', rfl⟩, .done⟩

theorem ran_survey [Build] {fresh : Fresh} {p : ProviderId} {x : ShipmentId} {patch : Survey}
    {s' : Shipment} :
    Ran R g (survey fresh p x patch) S .begin S' tx' s' ↔
      ReadsPair g ∧ StagesShipment g s' ∧ ∃ T U s o, R S T ∧ R T U ∧ R U S' ∧
        T.linked p x = [o] ∧ U.shipment? x = some s ∧
        s.surveyed patch fresh.shipmentTime = .ok s' ∧
        tx' = (sawPair s o).stageShipment s' := by
  unfold survey
  rw [ran_bind]
  constructor
  · rintro ⟨U, tx₁, ⟨s, o⟩, hread, hrest⟩
    obtain ⟨hreads, T, later, later', hone, hs, rfl⟩ := ran_loadPair.mp hread
    obtain ⟨U, tx₂, s₁, hmade, hrest⟩ := ran_bind.mp hrest
    obtain ⟨rfl, rfl, hsurveyed⟩ := ran_ofExcept.mp hmade
    obtain ⟨V, tx₃, u, hstaged, hdone⟩ := ran_bind.mp hrest
    obtain ⟨hstages, laterV, rfl⟩ := ran_saveShipment_checked.mp hstaged
    obtain ⟨rfl, rfl, rfl⟩ := ran_pure.mp hdone
    exact ⟨hreads, hstages, T, U, s, o, later, later', laterV, hone, hs, hsurveyed, rfl⟩
  · rintro ⟨hreads, hstages, T, U, s, o, later, later', laterV, hone, hs, hsurveyed, rfl⟩
    refine ⟨U, _, (s, o), ran_loadPair.mpr ⟨hreads, T, later, later', hone, hs, rfl⟩, ?_⟩
    refine ran_bind.mpr ⟨U, _, s', ran_ofExcept.mpr ⟨rfl, rfl, hsurveyed⟩, ?_⟩
    exact ran_bind.mpr ⟨S', _, (), ran_saveShipment_checked.mpr ⟨hstages, laterV, rfl⟩, .done⟩

/-! ### Agents, and units that only read -/

theorem ran_addAgent {fresh : Fresh} {x : ShipmentId} {request : AgentRequest} {a : Agent} :
    Ran R g (addAgent fresh x request) S .begin S' tx' a ↔
      g.fault .findShipment = none ∧ (g.fault .saveAgent = none ∧ a.report.check = .ok ()) ∧
        ∃ T s, R S T ∧ R T S' ∧ T.shipment? x = some s ∧
          Agent.create ⟨fresh.uuid⟩ s.id request fresh.recordTime = .ok a ∧
          tx' = (Transaction.begin.sawShipment s).stageAgent a := by
  unfold addAgent
  rw [ran_bind]
  constructor
  · rintro ⟨T, tx₁, s, hread, hrest⟩
    obtain ⟨passed, later, hs, rfl⟩ := (ran_findShipment rfl).mp hread
    obtain ⟨T, tx₂, a, hmade, hrest⟩ := ran_bind.mp hrest
    obtain ⟨rfl, rfl, hcreate⟩ := ran_ofExcept.mp hmade
    obtain ⟨U, tx₃, u, hstaged, hdone⟩ := ran_bind.mp hrest
    obtain ⟨hstage, later', rfl⟩ := ran_saveAgent.mp hstaged
    obtain ⟨rfl, rfl, rfl⟩ := ran_pure.mp hdone
    exact ⟨passed, hstage, T, s, later, later', hs, hcreate, rfl⟩
  · rintro ⟨passed, hstage, T, s, later, later', hs, hcreate, rfl⟩
    refine ⟨T, _, s, (ran_findShipment rfl).mpr ⟨passed, later, hs, rfl⟩, ?_⟩
    refine ran_bind.mpr ⟨T, _, a, ran_ofExcept.mpr ⟨rfl, rfl, hcreate⟩, ?_⟩
    exact ran_bind.mpr ⟨S', _, (), ran_saveAgent.mpr ⟨hstage, later', rfl⟩, .done⟩

theorem unstaged_of_fetch {p : ProviderId} {x : ShipmentId} {s : Shipment}
    (h : Ran R g ((·.1) <$> loadPair p x) S .begin S' tx' s) : tx'.Unstaged := by
  obtain ⟨T, tx₁, ⟨t, o⟩, hread, hdone⟩ := ran_bind.mp h
  obtain ⟨-, -, -, -, -, -, rfl⟩ := ran_loadPair.mp hread
  obtain ⟨-, rfl, -⟩ := ran_pure.mp hdone
  exact ⟨rfl, rfl, rfl⟩

theorem unstaged_of_listAgents {x : ShipmentId} {as : List Agent}
    (h : Ran R g (listAgents x) S .begin S' tx' as) : tx'.Unstaged := by
  unfold listAgents at h
  obtain ⟨T, tx₁, s, hread, hlist⟩ := ran_bind.mp h
  obtain ⟨-, -, -, rfl⟩ := (ran_findShipment rfl).mp hread
  obtain ⟨-, -, -, rfl⟩ := ran_findAgents.mp hlist
  exact ⟨rfl, rfl, rfl⟩

end Coordinator

end Relocation
