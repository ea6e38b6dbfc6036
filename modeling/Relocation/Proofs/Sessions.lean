-- Transactions in any hands. Callers begin transactions, ask them for anything
-- in any order, commit them or drop them, and records are put into the store
-- beside them. Every call is one step, and the steps of all callers mix.
import Relocation.Proofs.System

namespace Relocation

/-! ## Sessions and events -/

/-- A store with the transactions that are open, each under a number. -/
structure Session where
  store : Store
  transactions : Nat → Option Transaction := fun _ => none

namespace Session

inductive Event where
  /-- A transaction is begun under the number, in place of the one there. -/
  | begin (n : Nat)
  /-- The transaction makes a call. A call that fails leaves it as it is. -/
  | call (n : Nat) (c : Call)
  /-- The transaction commits, and is over whatever comes of it. -/
  | commit (n : Nat)
  /-- The transaction is dropped. -/
  | drop (n : Nat)
  /-- A shipment is stored outside the transactions. -/
  | seedShipment (s : Shipment)
  /-- An offer is stored outside the transactions. -/
  | seedOffer (o : Offer)
  /-- The next commit is made to fail. -/
  | failNext (message : String)

/-- The session with another transaction, or none, under the number. -/
def put (s : Session) (n : Nat) (tx : Option Transaction) : Session :=
  { s with transactions := fun m => if m = n then tx else s.transactions m }

@[simp] theorem store_put (s : Session) (n : Nat) (tx : Option Transaction) :
    (s.put n tx).store = s.store := rfl

@[simp] theorem transactions_put (s : Session) (n m : Nat) (tx : Option Transaction) :
    (s.put n tx).transactions m = if m = n then tx else s.transactions m := rfl

def step (s : Session) : Event → Session
  | .begin n => s.put n (some .begin)
  | .call n c =>
    match s.transactions n with
    | none => s
    | some tx =>
      match tx.answer s.store c with
      | .ok (_, tx) => s.put n (some tx)
      | .error _ => s
  | .commit n =>
    match s.transactions n with
    | none => s
    | some tx => { s.put n none with store := (tx.commit s.store).2 }
  | .drop n => s.put n none
  | .seedShipment x => { s with store := s.store.putShipment x }
  | .seedOffer o => { s with store := s.store.putOffer o }
  | .failNext message => { s with store := s.store.failNextCommit message }

/-- The session after events that start with nothing but a store. -/
def run (start : Store) (events : List Event) : Session := events.foldl step { store := start }

/-! ## What an event can do -/

variable {s : Session} {e : Event} {n : Nat} {tx' : Transaction}

/-- The records change only by a commit that succeeds or from outside. -/
theorem store_cases (s : Session) (e : Event) :
    (s.step e).store.calm = s.store.calm ∨
    (∃ n tx, e = .commit n ∧ s.transactions n = some tx ∧
      tx.commit s.store = (.ok (), (s.step e).store)) ∨
    (∃ x, e = .seedShipment x ∧ (s.step e).store = s.store.putShipment x) ∨
    ∃ o, e = .seedOffer o ∧ (s.step e).store = s.store.putOffer o := by
  cases e with
  | begin n => exact .inl rfl
  | call n c =>
    refine .inl ?_
    rcases htx : s.transactions n with _ | tx
    · simp only [step, htx]
    · rcases hanswer : tx.answer s.store c with _ | _ <;> simp only [step, htx, hanswer, store_put]
  | commit n =>
    rcases htx : s.transactions n with _ | tx
    · exact .inl (by simp only [step, htx])
    · rcases hcommit : tx.commit s.store with ⟨failure | u, S'⟩
      · refine .inl ?_
        simp only [step, htx, hcommit]
        exact Transaction.calm_of_commit_error hcommit
      · exact .inr (.inl ⟨n, tx, rfl, htx, by simp only [step, htx, hcommit]⟩)
  | drop n => exact .inl rfl
  | seedShipment x => exact .inr (.inr (.inl ⟨x, rfl, rfl⟩))
  | seedOffer o => exact .inr (.inr (.inr ⟨o, rfl, rfl⟩))
  | failNext message => exact .inl rfl

/-- A transaction that is open was open before, or has just been begun or made a call. -/
theorem transaction_cases (h : (s.step e).transactions n = some tx') :
    s.transactions n = some tx' ∨ (e = .begin n ∧ tx' = .begin) ∨
    ∃ tx c reply, e = .call n c ∧ s.transactions n = some tx ∧
      tx.answer s.store c = .ok (reply, tx') := by
  cases e with
  | begin m =>
    simp only [step, transactions_put] at h
    split at h
    · subst m
      exact .inr (.inl ⟨rfl, (Option.some.inj h).symm⟩)
    · exact .inl h
  | call m c =>
    rcases htx : s.transactions m with _ | tx
    · exact .inl (by simpa only [step, htx] using h)
    · rcases hanswer : tx.answer s.store c with failure | ⟨reply, after⟩
      · exact .inl (by simpa only [step, htx, hanswer] using h)
      · simp only [step, htx, hanswer, transactions_put] at h
        split at h
        · subst m
          cases h
          exact .inr (.inr ⟨tx, c, reply, rfl, htx, hanswer⟩)
        · exact .inl h
  | commit m =>
    rcases htx : s.transactions m with _ | tx
    · exact .inl (by simpa only [step, htx] using h)
    · simp only [step, htx, transactions_put] at h
      split at h
      · cases h
      · exact .inl h
  | drop m =>
    simp only [step, transactions_put] at h
    split at h
    · cases h
    · exact .inl h
  | seedShipment x | seedOffer o | failNext message => exact .inl h

/-! ## Whole runs -/

/-- What holds at the start, and every event that is allowed preserves, holds at the end. -/
theorem run_preserves {I : Session → Prop} {P : Event → Prop} {start : Store}
    (hstart : I { store := start }) (hstep : ∀ s e, P e → I s → I (s.step e))
    {events : List Event} (hevents : ∀ e ∈ events, P e) : I (run start events) := by
  unfold run
  generalize ({ store := start } : Session) = s at hstart ⊢
  induction events generalizing s with
  | nil => exact hstart
  | cons e events ih =>
    obtain ⟨he, hrest⟩ := List.forall_mem_cons.mp hevents
    exact ih hrest (s.step e) (hstep s e he hstart)

end Session

end Relocation
