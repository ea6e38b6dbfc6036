-- What comes of a commit, told by the calls of its transaction and the store that it
-- meets. Each record that is staged has to be stored with the version that was read of it
-- first, or has to be new. Then everything is written, and otherwise nothing is, and the
-- first record with which it is not so says why.
import Relocation.Proofs.Growth
import Relocation.Proofs.OwnWrites

namespace Relocation

/-! ## The records that are staged -/

/-- A record that a transaction has staged, by its id. -/
inductive Staged where
  | shipment (id : ShipmentId)
  | offer (id : OfferId)
  | agent (id : AgentId)
deriving DecidableEq

namespace Staged

def text : Staged → String
  | .shipment x => x.text
  | .offer x => x.text
  | .agent x => x.text

/-- The version in which the calls found the record first in the store. A shipment that is
saved already is found as it is staged, and this does not count. Offers are looked for in the
store even then, and agents have no version. -/
def read (calls : List Asked) : Staged → Option Nat
  | .shipment x =>
    ((Asked.beforeSave x calls).findSome? (Asked.foundShipment? x)).map (·.version)
  | .offer x => (calls.findSome? (Asked.foundOffer? x)).map (·.version)
  | .agent _ => none

/-- The version in which the record is stored, which is always 0 with an agent. -/
def stored (S : Store) : Staged → Option Nat
  | .shipment x => (S.shipment? x).map (·.version)
  | .offer x => (S.offer? x).map (·.version)
  | .agent x => (S.agents.find? fun a => a.id = x).map fun _ => 0

/-- The records that the calls have saved, each once and where it was saved first: the
shipments, after them the offers, and then each agent. -/
def all (calls : List Asked) : List Staged :=
  ((calls.filterMap Asked.shipmentSaved?).map Shipment.id).eraseDups.map .shipment ++
    ((calls.filterMap Asked.offerSaved?).map Offer.id).eraseDups.map .offer ++
    (calls.filterMap Asked.savedAgent?).map fun a => .agent a.id

variable {calls : List Asked} {S : Store} {r : Staged}

/-- The record may be written: it is stored as it was read, or it is new. -/
def Free (calls : List Asked) (S : Store) (r : Staged) : Prop :=
  (∃ v, r.read calls = some v ∧ r.stored S = some v) ∨
    (r.read calls = none ∧ r.stored S = none)

theorem free_iff : r.Free calls S ↔ r.read calls = r.stored S := by
  unfold Free
  rcases r.read calls with _ | v <;> rcases r.stored S with _ | w <;> simp [eq_comm]

instance : Decidable (r.Free calls S) := decidable_of_iff _ free_iff.symm

/-- The first of the staged records that may not be written. -/
def blocking? (calls : List Asked) (S : Store) : Option Staged :=
  (all calls).find? fun r => ¬ r.Free calls S

/-- Why the record may not be written. -/
def obstacle (calls : List Asked) (S : Store) (r : Staged) : Option Failure :=
  Transaction.obstacle r.text (r.read calls) (r.stored S)

theorem obstacle_eq_none_iff : r.obstacle calls S = none ↔ r.Free calls S :=
  Transaction.obstacle_eq_none.trans free_iff.symm

theorem not_free_of_blocking (h : blocking? calls S = some r) : ¬ r.Free calls S := by
  unfold blocking? at h
  simpa using List.find?_some h

theorem blocking?_eq_none_iff :
    blocking? calls S = none ↔ ∀ r ∈ all calls, r.Free calls S := by
  unfold blocking?
  rw [List.find?_eq_none]
  simp

/-- The failure of a commit is that of the first record that may not be written. -/
theorem findSome?_obstacle (calls : List Asked) (S : Store) :
    (all calls).findSome? (obstacle calls S) = (blocking? calls S).bind (obstacle calls S) := by
  unfold blocking?
  induction all calls with
  | nil => rfl
  | cons r rs ih =>
    rw [List.findSome?_cons, List.find?_cons]
    by_cases hfree : r.Free calls S
    · rw [obstacle_eq_none_iff.mpr hfree, ih]
      simp [hfree]
    · obtain ⟨failure, hfailure⟩ :=
        Option.ne_none_iff_exists'.mp (mt obstacle_eq_none_iff.mp hfree)
      simp [hfree, hfailure]

/-- A record that was read and is still stored stands against the commit only with another
version. -/
theorem obstacle_of_read {v : Nat} (hread : r.read calls = some v)
    (hstored : (r.stored S).isSome = true) (h : ¬ r.Free calls S) :
    ∃ w, r.stored S = some w ∧ v ≠ w ∧ r.obstacle calls S = some (.conflict r.text v w) := by
  obtain ⟨w, hw⟩ := Option.isSome_iff_exists.mp hstored
  have hne : v ≠ w := by
    rintro rfl
    exact h (.inl ⟨v, hread, hw⟩)
  refine ⟨w, hw, hne, ?_⟩
  rw [obstacle, hread, hw]
  exact if_neg hne

/-- A record that was not read stands against it only if it is stored. -/
theorem obstacle_of_unread (hread : r.read calls = none) (h : ¬ r.Free calls S) :
    r.obstacle calls S = some (.storage s!"record {r.text} already exists" false) := by
  rcases hw : r.stored S with _ | w
  · exact absurd (.inr ⟨hread, hw⟩) h
  · rw [obstacle, hread, hw]
    rfl

end Staged

/-- What stands against a commit is looked for record by record. -/
theorem Transaction.firstObstacle_after (calls : List Asked) (S : Store) :
    (after calls).firstObstacle S = (Staged.all calls).findSome? (Staged.obstacle calls S) := by
  have hshipments : (after calls).shipments.keys =
      ((calls.filterMap Asked.shipmentSaved?).map Shipment.id).eraseDups :=
    RecordKind.shipments.keys_staged_after calls
  have hoffers : (after calls).offers.keys =
      ((calls.filterMap Asked.offerSaved?).map Offer.id).eraseDups :=
    RecordKind.offers.keys_staged_after calls
  have hshipment (s : Shipment) : (after calls).shipmentObstacle S s =
      (Staged.shipment s.id).obstacle calls S :=
    congrArg (obstacle s.id.text · _) (readShipment?_after calls s.id)
  have hoffer (o : Offer) : (after calls).offerObstacle S o =
      (Staged.offer o.id).obstacle calls S :=
    congrArg (obstacle o.id.text · _) (readOffer?_after calls o.id)
  unfold firstObstacle Staged.all
  rw [List.findSome?_append, List.findSome?_append, ← hshipments, ← hoffers, agents_after,
    Table.keys, Table.keys, List.map_map, List.map_map, List.findSome?_map, List.findSome?_map,
    List.findSome?_map, funext hshipment, funext hoffer]
  rfl

/-! ## Records that were read -/

namespace Session

/-- A transaction has made its calls on stores that the session has come through. -/
theorem store_of_mem_history {start : Store} {events : List Event} {n : Nat} {a : Asked}
    (h : a ∈ history n start events) :
    ∃ early late, events = early ++ late ∧ a.store = (run start early).store := by
  induction events using List.reverseRecOn with
  | nil => cases h
  | append_singleton events e ih =>
    have hearlier : a ∈ history n start events →
        ∃ early late, events ++ [e] = early ++ late ∧ a.store = (run start early).store := by
      intro hmem
      obtain ⟨early, late, hevents, hstore⟩ := ih hmem
      exact ⟨early, late ++ [e], by rw [hevents, List.append_assoc], hstore⟩
    rw [history_snoc] at h
    cases e with
    | begin m =>
      simp only [noted] at h
      split at h
      · cases h
      · exact hearlier h
    | call m c =>
      simp only [noted] at h
      split at h
      · rcases List.mem_append.mp h with h | h
        · exact hearlier h
        · obtain rfl := List.mem_singleton.mp h
          exact ⟨events, [.call m c], rfl, rfl⟩
      · exact hearlier h
    | commit m | drop m | seedShipment x | seedOffer o | failNext message => exact hearlier h

/-- No record goes away, so one that was found is still stored. -/
theorem stored_of_found {start : Store} {events : List Event} {n : Nat} {a : Asked}
    (h : a ∈ history n start events) :
    (∀ x, (a.foundShipment? x).isSome = true →
      ((run start events).store.shipment? x).isSome = true) ∧
    ∀ x, (a.foundOffer? x).isSome = true → ((run start events).store.offer? x).isSome = true := by
  obtain ⟨early, late, rfl, hstore⟩ := store_of_mem_history h
  obtain ⟨hshipments, hoffers, -⟩ := grows_run start early late
  rcases a with ⟨S, c⟩
  obtain rfl : S = (run start early).store := hstore
  constructor
  · intro x hfound
    cases c with
    | findShipment y =>
      simp only [Asked.foundShipment?] at hfound
      split at hfound
      · rw [Store.shipment?, Table.isSome_find?] at hfound ⊢
        exact hshipments hfound
      · cases hfound
    | findOffers p y | findAgents y | saveShipment s | saveOffer o | saveAgent agent => cases hfound
  · intro x hfound
    cases c with
    | findOffers p y =>
      have hthen := Option.isSome_of_isSome_filter _ _ hfound
      rw [Store.offer?, Table.isSome_find?] at hthen ⊢
      exact hoffers.subset hthen
    | findShipment y | findAgents y | saveShipment s | saveOffer o | saveAgent agent => cases hfound

theorem isSome_stored_of_read {start : Store} {events : List Event} {n : Nat} {r : Staged}
    (h : (r.read (history n start events)).isSome = true) :
    (r.stored (run start events).store).isSome = true := by
  cases r with
  | shipment x =>
    rw [Staged.read, Option.isSome_map, List.findSome?_isSome_iff] at h
    obtain ⟨a, ha, hfound⟩ := h
    have hmem : a ∈ history n start events := (List.takeWhile_sublist _).subset ha
    rw [Staged.stored, Option.isSome_map]
    exact (stored_of_found hmem).1 x hfound
  | offer x =>
    rw [Staged.read, Option.isSome_map, List.findSome?_isSome_iff] at h
    obtain ⟨a, hmem, hfound⟩ := h
    rw [Staged.stored, Option.isSome_map]
    exact (stored_of_found hmem).2 x hfound
  | agent x => cases h

end Session

/-! ## What comes of a commit -/

/-- The agent with the id that came into the store last. -/
def Store.newestAgent? (S : Store) (x : AgentId) : Option Agent :=
  S.agents.reverse.find? fun a => a.id = x

/-- Everything that the calls have saved stands in the store as it was saved last, and all
else is as it was. -/
structure Store.Written (S : Store) (calls : List Asked) (S' : Store) : Prop where
  shipments : ∀ x, S'.shipment? x =
    (calls.reverse.findSome? (Asked.savedShipment? x)).or (S.shipment? x)
  offers : ∀ x, S'.offer? x = (calls.reverse.findSome? (Asked.savedOffer? x)).or (S.offer? x)
  agents : S'.agents = S.agents ++ calls.filterMap Asked.savedAgent?
  newestAgents : ∀ x, S'.newestAgent? x =
    ((calls.filterMap Asked.savedAgent?).reverse.find? fun a => a.id = x).or (S.newestAgent? x)
  nextFailure : S'.nextFailure = S.nextFailure

theorem Store.written_apply (S : Store) (calls : List Asked) :
    S.Written calls ((Transaction.after calls).apply S) where
  shipments x := (Transaction.shipment?_apply _ S x).trans
    (congrArg (Option.or · _) (RecordKind.shipments.find?_staged_after calls x))
  offers x := (Transaction.offer?_apply _ S x).trans
    (congrArg (Option.or · _) (RecordKind.offers.find?_staged_after calls x))
  agents := congrArg (S.agents ++ ·) (Transaction.agents_after calls)
  newestAgents x := by
    have hagents : ((Transaction.after calls).apply S).agents =
        S.agents ++ calls.filterMap Asked.savedAgent? :=
      congrArg (S.agents ++ ·) (Transaction.agents_after calls)
    rw [newestAgent?, hagents, List.reverse_append, List.find?_append]
    rfl
  nextFailure := rfl

/-- What comes of the commit of a transaction with the calls. -/
structure CommitOutcome (calls : List Asked) (S : Store) (outcome : Except Failure Unit × Store) :
    Prop where
  /-- The failure that was set for the commit comes before all else and is used up. -/
  injected : ∀ message, S.nextFailure = some message →
    outcome = (.error (.storage message true), { S with nextFailure := none })
  succeeds : S.nextFailure = none →
    (outcome.1 = .ok () ↔ ∀ r ∈ Staged.all calls, r.Free calls S)
  /-- A record that was read has moved on. -/
  moved : S.nextFailure = none → ∀ r v, Staged.blocking? calls S = some r →
    r.read calls = some v →
    ∃ w, r.stored S = some w ∧ v ≠ w ∧ outcome = (.error (.conflict r.text v w), S)
  /-- A record that was not read is there. -/
  known : S.nextFailure = none → ∀ r, Staged.blocking? calls S = some r → r.read calls = none →
    outcome = (.error (.storage s!"record {r.text} already exists" false), S)
  retryable : ∀ failure, outcome.1 = .error failure → (failure.isRetryable = true ↔
    S.nextFailure.isSome = true ∨
      ∃ r v, Staged.blocking? calls S = some r ∧ r.read calls = some v)
  written : outcome.1 = .ok () → S.Written calls outcome.2
  unchanged : ∀ failure, outcome.1 = .error failure → outcome.2.shipments = S.shipments ∧
    outcome.2.offers = S.offers ∧ outcome.2.agents = S.agents

namespace Transaction

variable {calls : List Asked} {S : Store}

theorem commit_after_of_blocking {r : Staged} {failure : Failure} (hnext : S.nextFailure = none)
    (h : Staged.blocking? calls S = some r) (hobstacle : r.obstacle calls S = some failure) :
    (after calls).commit S = (.error failure, S) := by
  have hfirst : (after calls).firstObstacle S = some failure := by
    rw [firstObstacle_after, Staged.findSome?_obstacle, h]
    exact hobstacle
  unfold commit
  rw [hnext, hfirst]

theorem commit_after_eq_ok (hnext : S.nextFailure = none) :
    ((after calls).commit S).1 = .ok () ↔ ∀ r ∈ Staged.all calls, r.Free calls S := by
  have hfree : (after calls).firstObstacle S = none ↔ ∀ r ∈ Staged.all calls, r.Free calls S := by
    rw [firstObstacle_after, List.findSome?_eq_none_iff]
    exact forall₂_congr fun r _ => Staged.obstacle_eq_none_iff
  rw [← hfree]
  unfold commit
  rw [hnext]
  rcases (after calls).firstObstacle S with _ | failure <;> simp

/-- Where whatever the calls have read is still stored, this comes of the commit. -/
theorem commitOutcome_after (hkept : ∀ r : Staged, (r.read calls).isSome = true →
    (r.stored S).isSome = true) : CommitOutcome calls S ((after calls).commit S) := by
  have hinjected : ∀ message, S.nextFailure = some message →
      (after calls).commit S = (.error (.storage message true), S.calm) := by
    intro message hnext
    simp [commit, hnext, Store.calm]
  have hmoved : S.nextFailure = none → ∀ r v, Staged.blocking? calls S = some r →
      r.read calls = some v → ∃ w, r.stored S = some w ∧ v ≠ w ∧
        (after calls).commit S = (.error (.conflict r.text v w), S) := by
    intro hnext r v h hread
    obtain ⟨w, hw, hne, hobstacle⟩ := Staged.obstacle_of_read hread
      (hkept r (by rw [hread]; rfl)) (Staged.not_free_of_blocking h)
    exact ⟨w, hw, hne, commit_after_of_blocking hnext h hobstacle⟩
  have hknown : S.nextFailure = none → ∀ r, Staged.blocking? calls S = some r →
      r.read calls = none → (after calls).commit S =
        (.error (.storage s!"record {r.text} already exists" false), S) := by
    intro hnext r h hread
    exact commit_after_of_blocking hnext h
      (Staged.obstacle_of_unread hread (Staged.not_free_of_blocking h))
  constructor
  case injected => exact hinjected
  case succeeds => exact commit_after_eq_ok
  case moved => exact hmoved
  case known => exact hknown
  case retryable =>
    intro failure herror
    rcases hnext : S.nextFailure with _ | message
    · rcases hblocking : Staged.blocking? calls S with _ | r
      · rw [(commit_after_eq_ok hnext).mpr (Staged.blocking?_eq_none_iff.mp hblocking)] at herror
        cases herror
      · rcases hread : r.read calls with _ | v
        · rw [hknown hnext r hblocking hread] at herror
          cases herror
          simp [Failure.isRetryable, hread]
        · obtain ⟨w, -, -, hconflict⟩ := hmoved hnext r v hblocking hread
          rw [hconflict] at herror
          cases herror
          simp [Failure.isRetryable, hread]
    · rw [hinjected message hnext] at herror
      cases herror
      simp [Failure.isRetryable]
  case written =>
    intro hok
    have hstore : ((after calls).commit S).2 = (after calls).apply S :=
      (commit_eq_ok.mp (Prod.ext hok rfl)).2.2
    rw [hstore]
    exact S.written_apply calls
  case unchanged =>
    intro failure herror
    have hcalm := calm_of_commit_error (Prod.ext herror rfl)
    exact ⟨(Store.same_of_calm hcalm).1, (Store.same_of_calm hcalm).2, Store.agents_of_calm hcalm⟩

end Transaction

/-- What comes of the commit of a transaction, whatever it was asked and whatever was committed
in the meantime. A failure that was set for it comes first. Without one, the commit succeeds
exactly if each record that is staged is stored with the version that was read of it first,
or was not read and is not stored. The first one with which it is not so decides the failure.
A commit that succeeds writes what was saved last and nothing else, and one that fails writes
nothing. -/
theorem Session.commits_are_all_or_nothing (start : Store) (events : List Event) (n : Nat)
    (tx : Transaction) (hopen : (run start events).transactions n = some tx) :
    CommitOutcome (history n start events) (run start events).store
      (tx.commit (run start events).store) := by
  obtain rfl := transaction_eq_after hopen
  exact Transaction.commitOutcome_after fun r hread => isSome_stored_of_read hread

/-- Two transactions read a shipment and save it. The first one saves an agent too, and the
second one is about to commit. -/
def Session.sampleRivals : List Event :=
  let saved : Shipment := { Sample.shipment with version := 1 }
  [.begin 0, .call 0 (.findShipment saved.id), .call 0 (.saveAgent sampleAgent),
    .call 0 (.saveShipment saved), .begin 1, .call 1 (.findShipment saved.id),
    .call 1 (.saveShipment saved)]

/-- The second transaction commits. After that the first one meets its version and writes
nothing, not even the agent. -/
theorem Session.the_second_rival_commits :
    (∃ tx, (run Sample.store sampleRivals).transactions 1 = some tx ∧
      (tx.commit (run Sample.store sampleRivals).store).1 = .ok ()) ∧
    ∃ tx, (run Sample.store (sampleRivals ++ [.commit 1])).transactions 0 = some tx ∧
      tx.commit (run Sample.store (sampleRivals ++ [.commit 1])).store =
        (.error (.conflict Sample.shipment.id.text 0 1),
          (run Sample.store (sampleRivals ++ [.commit 1])).store) := by
  have hopen : ∃ tx, (run Sample.store sampleRivals).transactions 1 = some tx := ⟨_, rfl⟩
  have hopen' : ∃ tx,
      (run Sample.store (sampleRivals ++ [.commit 1])).transactions 0 = some tx := ⟨_, rfl⟩
  obtain ⟨tx, htx⟩ := hopen
  obtain ⟨tx', htx'⟩ := hopen'
  have hfirst := commits_are_all_or_nothing Sample.store sampleRivals 1 tx htx
  have hsecond := commits_are_all_or_nothing Sample.store (sampleRivals ++ [.commit 1]) 0 tx' htx'
  refine ⟨⟨tx, htx, (hfirst.succeeds rfl).mpr (by decide)⟩, tx', htx', ?_⟩
  obtain ⟨w, hw, -, hcommit⟩ := hsecond.moved rfl (.shipment Sample.shipment.id) 0 rfl rfl
  obtain rfl : 1 = w := Option.some.inj hw
  exact hcommit

end Relocation
