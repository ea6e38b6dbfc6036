-- What one transaction of a session has been asked. Its calls are made on stores
-- of different moments, and they alone tell what the transaction has staged and
-- which versions it has read.
import Mathlib.Data.List.Induction
import Relocation.Proofs.Edits
import Relocation.Proofs.Sessions

namespace Relocation

/-! ## Calls and their stores -/

/-- A call with the store on which it is made. -/
structure Asked where
  store : Store
  call : Call

namespace Asked

/-- The stored shipment with the id, if the call is to find it. -/
def foundShipment? (x : ShipmentId) (a : Asked) : Option Shipment :=
  match a.call with
  | .findShipment y => if y = x then a.store.shipment? x else none
  | _ => none

/-- The stored offer with the id, if the call is to find offers that link the
same provider and shipment. -/
def foundOffer? (x : OfferId) (a : Asked) : Option Offer :=
  match a.call with
  | .findOffers p y => (a.store.offer? x).filter (Transaction.links p y)
  | _ => none

/-- The shipment that the call saves. -/
def shipmentSaved? (a : Asked) : Option Shipment :=
  match a.call with
  | .saveShipment s => if s.report.isEmpty = true then some s else none
  | _ => none

/-- The offer that the call saves. -/
def offerSaved? (a : Asked) : Option Offer :=
  match a.call with
  | .saveOffer o => if o.report.isEmpty = true then some o else none
  | _ => none

/-- The shipment with the id, if the call saves it. -/
def savedShipment? (x : ShipmentId) (a : Asked) : Option Shipment :=
  a.shipmentSaved?.filter fun s => s.id = x

/-- The offer with the id, if the call saves it. -/
def savedOffer? (x : OfferId) (a : Asked) : Option Offer := a.offerSaved?.filter fun o => o.id = x

/-- The agent that the call saves. -/
def savedAgent? (a : Asked) : Option Agent :=
  match a.call with
  | .saveAgent agent => if agent.report.isEmpty = true then some agent else none
  | _ => none

/-- The calls before the first one that saves the shipment. -/
def beforeSave (x : ShipmentId) (calls : List Asked) : List Asked :=
  calls.takeWhile fun a => (a.savedShipment? x).isNone

theorem beforeSave_append {x : ShipmentId} {before late : List Asked} {a : Asked}
    (h : (a.savedShipment? x).isSome = true) :
    beforeSave x (before ++ a :: late) = beforeSave x before := by
  obtain ⟨s, hs⟩ := Option.isSome_iff_exists.mp h
  unfold beforeSave
  induction before with
  | nil => simp [hs]
  | cons b before ih =>
    rw [List.cons_append, List.takeWhile_cons, List.takeWhile_cons, ih]

/-- A call that saves a record finds none. -/
theorem found?_of_saved (a : Asked) :
    (∀ x, (a.savedShipment? x).isSome = true → a.foundShipment? x = none) ∧
      ∀ x, (a.savedOffer? x).isSome = true → a.foundOffer? x = none := by
  rcases a with ⟨S, c⟩
  cases c with
  | saveShipment s => exact ⟨fun _ _ => rfl, nofun⟩
  | saveOffer o => exact ⟨nofun, fun _ _ => rfl⟩
  | findShipment y | findOffers p y | findAgents y | saveAgent agent => exact ⟨nofun, nofun⟩

end Asked

namespace Transaction

/-- The transaction after a call. A call that fails leaves it as it is. -/
def ask (tx : Transaction) (a : Asked) : Transaction :=
  match tx.answer a.store a.call with
  | .ok (_, tx') => tx'
  | .error _ => tx

/-- The transaction after calls that begin with none. -/
def after (calls : List Asked) : Transaction := calls.foldl ask begin

theorem after_snoc (calls : List Asked) (a : Asked) : after (calls ++ [a]) = (after calls).ask a := by
  simp [after]

/-! ## What one call does -/

section

variable {S : Store} (tx : Transaction)

theorem ask_findShipment (y : ShipmentId) : tx.ask ⟨S, .findShipment y⟩ =
    match tx.shipments.find? y, S.shipment? y with
    | none, some s => tx.sawShipment s
    | _, _ => tx := by
  rcases hstaged : tx.shipments.find? y with _ | s
  · rcases hs : S.shipment? y with _ | s
    · simp [ask, answer, findShipment, hstaged, hs]
    · obtain rfl := Table.key_of_find? hs
      simp [ask, answer, findShipment, hstaged, hs, sawShipment]
  · simp [ask, answer, findShipment, hstaged]

theorem ask_findOffers (p : ProviderId) (y : ShipmentId) :
    tx.ask ⟨S, .findOffers p y⟩ = tx.sawOffers (S.linked p y) := rfl

theorem ask_findAgents (y : ShipmentId) : tx.ask ⟨S, .findAgents y⟩ = tx := rfl

theorem ask_saveShipment (s : Shipment) : tx.ask ⟨S, .saveShipment s⟩ =
    if s.report.isEmpty = true then tx.stageShipment s else tx := by
  by_cases h : s.report.isEmpty = true <;>
    simp [ask, answer, saveShipment, Report.check, h, bind, Except.bind, Except.map, stageShipment]

theorem ask_saveOffer (o : Offer) : tx.ask ⟨S, .saveOffer o⟩ =
    if o.report.isEmpty = true then tx.stageOffer o else tx := by
  by_cases h : o.report.isEmpty = true <;>
    simp [ask, answer, saveOffer, Report.check, h, bind, Except.bind, Except.map, stageOffer]

theorem ask_saveAgent (agent : Agent) : tx.ask ⟨S, .saveAgent agent⟩ =
    if agent.report.isEmpty = true then tx.stageAgent agent else tx := by
  by_cases h : agent.report.isEmpty = true <;>
    simp [ask, answer, saveAgent, Report.check, h, bind, Except.bind, Except.map, stageAgent]

end

/-! ## What one call leaves of each part -/

/-- The version of an offer that was read first stays. -/
theorem readOffer?_sawOffers (tx : Transaction) (os : List Offer) (x : OfferId) :
    (tx.sawOffers os).readOffer? x =
      (tx.readOffer? x).or ((os.find? fun o => o.id = x).map (·.version)) := by
  unfold readOffer? sawOffers
  dsimp only
  generalize tx.offerVersions = versions
  induction os generalizing versions with
  | nil => simp
  | cons o os ih =>
    rw [List.foldl_cons, ih, Table.find?_insertNew, List.find?_cons]
    by_cases h : o.id = x
    · rcases versions.find? x with _ | v <;> simp [h]
    · rcases versions.find? x with _ | v <;> simp [h]

variable (tx : Transaction) (a : Asked)

/-- What a call saves comes in where records of its kind are staged, and the rest stays. -/
theorem staged_ask :
    (tx.ask a).shipments = tx.shipments.insertAll a.shipmentSaved?.toList ∧
      (tx.ask a).offers = tx.offers.insertAll a.offerSaved?.toList ∧
      (tx.ask a).agents = tx.agents ++ a.savedAgent?.toList := by
  rcases a with ⟨S, c⟩
  unfold Asked.shipmentSaved? Asked.offerSaved? Asked.savedAgent?
  cases c with
  | saveShipment s =>
    rw [ask_saveShipment]
    by_cases hvalid : s.report.isEmpty = true <;> simp [hvalid, stageShipment]
  | saveOffer o =>
    rw [ask_saveOffer]
    by_cases hvalid : o.report.isEmpty = true <;> simp [hvalid, stageOffer]
  | saveAgent agent =>
    rw [ask_saveAgent]
    by_cases hvalid : agent.report.isEmpty = true <;> simp [hvalid, stageAgent]
  | findShipment y =>
    rw [ask_findShipment]
    split <;> simp [sawShipment]
  | findOffers p y => simp [ask_findOffers, sawOffers]
  | findAgents y => simp [ask_findAgents]

theorem readOffer?_ask (x : OfferId) :
    (tx.ask a).readOffer? x = (tx.readOffer? x).or ((a.foundOffer? x).map (·.version)) := by
  rcases a with ⟨S, c⟩
  cases c with
  | findOffers p y =>
    rw [ask_findOffers, readOffer?_sawOffers, Store.linked, Table.find?_filter]
    rfl
  | findShipment y =>
    rw [ask_findShipment]
    split <;> simp [Asked.foundOffer?, readOffer?, sawShipment]
  | findAgents y => simp [ask_findAgents, Asked.foundOffer?]
  | saveShipment s =>
    rw [ask_saveShipment]
    split <;> simp [Asked.foundOffer?, readOffer?, stageShipment]
  | saveOffer o =>
    rw [ask_saveOffer]
    split <;> simp [Asked.foundOffer?, readOffer?, stageOffer]
  | saveAgent agent =>
    rw [ask_saveAgent]
    split <;> simp [Asked.foundOffer?, readOffer?, stageAgent]

/-- A shipment that is staged is not read from the store any more. -/
theorem readShipment?_ask (x : ShipmentId) : (tx.ask a).readShipment? x =
    (tx.readShipment? x).or
      (if (tx.shipments.find? x).isSome = true then none
        else (a.foundShipment? x).map (·.version)) := by
  rcases a with ⟨S, c⟩
  cases c with
  | findShipment y =>
    rw [ask_findShipment]
    by_cases hy : y = x
    · subst hy
      rcases hstaged : tx.shipments.find? y with _ | t
      · rcases hs : S.shipment? y with _ | s
        · simp [Asked.foundShipment?, hs]
        · obtain rfl := Table.key_of_find? hs
          simp [Asked.foundShipment?, hs, readShipment?_saw]
      · simp
    · split
      · rename_i hs
        obtain rfl := Table.key_of_find? hs
        simp [Asked.foundShipment?, readShipment?_saw, hy]
      · simp [Asked.foundShipment?, hy]
  | findOffers p y => simp [ask_findOffers, Asked.foundShipment?, readShipment?, sawOffers]
  | findAgents y => simp [ask_findAgents, Asked.foundShipment?]
  | saveShipment s =>
    rw [ask_saveShipment]
    split <;> simp [Asked.foundShipment?, readShipment?, stageShipment]
  | saveOffer o =>
    rw [ask_saveOffer]
    split <;> simp [Asked.foundShipment?, readShipment?, stageOffer]
  | saveAgent agent =>
    rw [ask_saveAgent]
    split <;> simp [Asked.foundShipment?, readShipment?, stageAgent]

end Transaction

/-! ## Kinds of records -/

/-- A kind of records with ids. A transaction stages them in a table, and a call saves one of
them at most. -/
structure RecordKind {α κ : Type} [DecidableEq κ] (key : α → κ) where
  stored : Store → Table α key
  staged : Transaction → Table α key
  /-- The record that the call saves. -/
  saved? : Asked → Option α
  version : α → Nat
  /-- The version that the transaction has read. -/
  read? : Transaction → κ → Option Nat
  staged_begin : staged .begin = .empty
  staged_ask : ∀ tx a, staged (tx.ask a) = (staged tx).insertAll (saved? a).toList
  current : ∀ {tx S}, tx.Current S → ∀ r ∈ (staged tx).entries,
    read? tx (key r) = ((stored S).find? (key r)).map version
  stored_of_calm : ∀ {S S' : Store}, S'.calm = S.calm → stored S' = stored S

namespace RecordKind

def shipments : RecordKind Shipment.id where
  stored := (·.shipments)
  staged := (·.shipments)
  saved? := Asked.shipmentSaved?
  version := (·.version)
  read? := Transaction.readShipment?
  staged_begin := rfl
  staged_ask tx a := (tx.staged_ask a).1
  current h := h.shipments
  stored_of_calm h := (Store.same_of_calm h).1

def offers : RecordKind Offer.id where
  stored := (·.offers)
  staged := (·.offers)
  saved? := Asked.offerSaved?
  version := (·.version)
  read? := Transaction.readOffer?
  staged_begin := rfl
  staged_ask tx a := (tx.staged_ask a).2.1
  current h := h.offers
  stored_of_calm h := (Store.same_of_calm h).2

variable {α κ : Type} [DecidableEq κ] {key : α → κ} (kind : RecordKind key)

/-- The record with the id, if the call saves it. -/
def savedUnder? (x : κ) (a : Asked) : Option α := (kind.saved? a).filter fun r => key r = x

theorem find?_staged_ask (tx : Transaction) (a : Asked) (x : κ) :
    (kind.staged (tx.ask a)).find? x = (kind.savedUnder? x a).or ((kind.staged tx).find? x) := by
  rw [kind.staged_ask, Table.find?_insertAll_toList]
  rfl

/-- What the calls save comes in one after the other. -/
theorem staged_after (calls : List Asked) :
    kind.staged (.after calls) = Table.empty.insertAll (calls.filterMap kind.saved?) := by
  induction calls using List.reverseRecOn with
  | nil => exact kind.staged_begin
  | append_singleton calls a ih =>
    rw [Transaction.after_snoc, kind.staged_ask, ih, List.filterMap_append, Table.insertAll_append]
    cases h : kind.saved? a <;> simp [h]

theorem keys_staged_after (calls : List Asked) :
    (kind.staged (.after calls)).keys = ((calls.filterMap kind.saved?).map key).eraseDups := by
  rw [staged_after, Table.keys_insertAll]
  rfl

/-- What is staged of a record is the copy that was saved last. -/
theorem find?_staged_after (calls : List Asked) (x : κ) :
    (kind.staged (.after calls)).find? x = calls.reverse.findSome? (kind.savedUnder? x) := by
  induction calls using List.reverseRecOn with
  | nil =>
    rw [Transaction.after, List.foldl_nil, kind.staged_begin]
    rfl
  | append_singleton calls a ih =>
    rw [Transaction.after_snoc, kind.find?_staged_ask, ih, List.reverse_append,
      List.findSome?_append]
    cases h : kind.savedUnder? x a <;> simp [h]

/-- What has been saved stays staged. -/
theorem isSome_find?_staged {before late : List Asked} {a : Asked} {x : κ}
    (h : (kind.savedUnder? x a).isSome = true) :
    ((kind.staged (.after (before ++ a :: late))).find? x).isSome = true := by
  rw [kind.find?_staged_after, List.findSome?_isSome_iff]
  exact ⟨a, by simp, h⟩

end RecordKind

namespace Transaction

/-! ## What many calls leave -/

theorem agents_after (calls : List Asked) :
    (after calls).agents = calls.filterMap Asked.savedAgent? := by
  induction calls using List.reverseRecOn with
  | nil => rfl
  | append_singleton calls a ih =>
    rw [after_snoc, ((after calls).staged_ask a).2.2, ih, List.filterMap_append]
    cases h : a.savedAgent? <;> simp [h]

/-- The version of an offer that counts is the one that was found first. -/
theorem readOffer?_after (calls : List Asked) (x : OfferId) :
    (after calls).readOffer? x = (calls.findSome? (Asked.foundOffer? x)).map (·.version) := by
  induction calls using List.reverseRecOn with
  | nil => rfl
  | append_singleton calls a ih =>
    rw [after_snoc, readOffer?_ask, ih, List.findSome?_append]
    rcases calls.findSome? (Asked.foundOffer? x) with _ | o
    · cases h : a.foundOffer? x <;> simp [h]
    · rfl

theorem readShipment?_foldl_ask (tx : Transaction) (calls : List Asked) (x : ShipmentId) :
    (calls.foldl ask tx).readShipment? x = (tx.readShipment? x).or
      (if (tx.shipments.find? x).isSome = true then none
        else ((Asked.beforeSave x calls).findSome? (Asked.foundShipment? x)).map (·.version)) := by
  unfold Asked.beforeSave
  induction calls generalizing tx with
  | nil => simp
  | cons a calls ih =>
    have hasked : (tx.ask a).shipments.find? x =
        (a.savedShipment? x).or (tx.shipments.find? x) := RecordKind.shipments.find?_staged_ask tx a x
    rw [List.foldl_cons, ih, readShipment?_ask, hasked]
    rcases hstaged : tx.shipments.find? x with _ | t
    · rcases hsaved : a.savedShipment? x with _ | s
      · rcases hfound : a.foundShipment? x with _ | s <;>
          simp [hsaved, hfound]
      · simp [hsaved, a.found?_of_saved.1 x (Option.isSome_of_eq_some hsaved)]
    · simp

/-- The version of a shipment that counts is the one that was found first, if it
was found before the shipment was saved. -/
theorem readShipment?_after (calls : List Asked) (x : ShipmentId) :
    (after calls).readShipment? x =
      ((Asked.beforeSave x calls).findSome? (Asked.foundShipment? x)).map (·.version) :=
  readShipment?_foldl_ask begin calls x

end Transaction

/-! ## The calls of a transaction in a session -/

namespace Session

/-- The calls made since the transaction under the number was begun, after an event. -/
def noted (n : Nat) (s : Session) (calls : List Asked) : Event → List Asked
  | .begin m => if m = n then [] else calls
  | .call m c => if m = n then calls ++ [⟨s.store, c⟩] else calls
  | _ => calls

/-- The calls that the transaction under the number has made since it was begun. -/
def history (n : Nat) (start : Store) (events : List Event) : List Asked :=
  (events.foldl (fun (p : Session × List Asked) e => (p.1.step e, noted n p.1 p.2 e))
    ({ store := start }, [])).2

theorem run_snoc (start : Store) (events : List Event) (e : Event) :
    run start (events ++ [e]) = (run start events).step e := by
  simp [run]

theorem history_snoc (n : Nat) (start : Store) (events : List Event) (e : Event) :
    history n start (events ++ [e]) =
      noted n (run start events) (history n start events) e := by
  have hrun : ∀ (s : Session) (calls : List Asked),
      (events.foldl (fun (p : Session × List Asked) e => (p.1.step e, noted n p.1 p.2 e))
        (s, calls)).1 = events.foldl step s := by
    induction events with
    | nil => exact fun _ _ => rfl
    | cons e events ih => exact fun s calls => ih (s.step e) _
  unfold history run
  rw [List.foldl_append, List.foldl_cons, List.foldl_nil, hrun]

theorem transactions_step_call (s : Session) (n m : Nat) (c : Call) :
    (s.step (.call n c)).transactions m =
      if m = n then (s.transactions n).map (·.ask ⟨s.store, c⟩) else s.transactions m := by
  rcases htx : s.transactions n with _ | tx
  · simp only [step, htx, Option.map_none]
    split
    · rename_i h
      rw [h, htx]
    · rfl
  · rcases hanswer : tx.answer s.store c with failure | ⟨reply, tx'⟩
    · simp only [step, htx, hanswer, Option.map_some, Transaction.ask]
      split
      · rename_i h
        rw [h, htx]
      · rfl
    · simp only [step, htx, hanswer, transactions_put, Option.map_some, Transaction.ask]

/-- An open transaction is what its calls have made of it. -/
theorem transaction_eq_after {start : Store} {events : List Event} {n : Nat} {tx : Transaction}
    (h : (run start events).transactions n = some tx) :
    tx = Transaction.after (history n start events) := by
  induction events using List.reverseRecOn generalizing tx with
  | nil => cases h
  | append_singleton events e ih =>
    rw [run_snoc] at h
    rw [history_snoc]
    cases e with
    | begin m =>
      simp only [step, transactions_put] at h
      simp only [noted]
      by_cases hm : n = m
      · rw [if_pos hm] at h
        rw [if_pos hm.symm]
        exact (Option.some.inj h).symm
      · rw [if_neg hm] at h
        rw [if_neg (Ne.symm hm)]
        exact ih h
    | call m c =>
      rw [transactions_step_call] at h
      simp only [noted]
      by_cases hm : n = m
      · subst hm
        rw [if_pos rfl] at h ⊢
        obtain ⟨tx₀, htx, rfl⟩ := Option.map_eq_some_iff.mp h
        rw [Transaction.after_snoc, ← ih htx]
      · rw [if_neg hm] at h
        rw [if_neg (Ne.symm hm)]
        exact ih h
    | commit m =>
      apply ih
      rcases htx : (run start events).transactions m with _ | tx₀
      · simpa only [step, htx] using h
      · simp only [step, htx, transactions_put] at h
        split at h
        · cases h
        · exact h
    | drop m =>
      apply ih
      simp only [step, transactions_put] at h
      split at h
      · cases h
      · exact h
    | seedShipment x | seedOffer o | failNext message => exact ih h

/-! ## What becomes of a commit -/

/-- The transaction under the number is open, and its commit goes through. -/
def Commits (s : Session) (n : Nat) : Prop :=
  ∃ tx, s.transactions n = some tx ∧ (tx.commit s.store).1 = .ok ()

/-- The transaction under the number is open, and its commit fails. -/
def CommitFails (s : Session) (n : Nat) : Prop :=
  ∃ tx failure, s.transactions n = some tx ∧ (tx.commit s.store).1 = .error failure

variable {s : Session} {n : Nat} {tx : Transaction}

theorem of_commits (htx : s.transactions n = some tx) (h : s.Commits n) :
    tx.Current s.store ∧ (s.step (.commit n)).store = tx.apply s.store := by
  obtain ⟨tx', htx', hcommit⟩ := h
  obtain rfl : tx = tx' := Option.some.inj (htx.symm.trans htx')
  obtain ⟨-, hcur, hstore⟩ := Transaction.commit_eq_ok.mp (Prod.ext hcommit rfl)
  refine ⟨hcur, ?_⟩
  simp only [step, htx]
  exact hstore

theorem calm_of_commitFails (h : s.CommitFails n) :
    (s.step (.commit n)).store.calm = s.store.calm := by
  obtain ⟨tx, failure, htx, hcommit⟩ := h
  simp only [step, htx]
  exact Transaction.calm_of_commit_error (Prod.ext hcommit rfl)

/-- A transaction fails to commit if something that it has staged has moved on. -/
theorem commitFails_of_not_current (htx : s.transactions n = some tx)
    (h : ¬ tx.Current s.store) : s.CommitFails n := by
  rcases hcommit : (tx.commit s.store).1 with failure | u
  · exact ⟨tx, failure, htx, hcommit⟩
  · exact absurd (of_commits htx ⟨tx, htx, hcommit⟩).1 h

end Session

end Relocation
