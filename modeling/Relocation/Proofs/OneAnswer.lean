-- Answers to one offer. However often a provider answers, an offer that is pending takes
-- the first answer and no other one. The answer decides the flag and the reason together,
-- so they agree from then on, whatever the offer held before. Only where the version is the
-- last and sums are checked, no answer is taken.
import Relocation.Proofs.Answers

namespace Relocation

/-! ## Answers -/

/-- What a provider answers, with the reason if it does not take the shipment. -/
inductive OfferAnswer where
  | accept
  | reject (reason : String)

namespace OfferAnswer

def operation : OfferAnswer → OfferOperation
  | .accept => .accept
  | .reject _ => .reject

def reason? : OfferAnswer → Option String
  | .accept => none
  | .reject reason => some reason

end OfferAnswer

namespace Offer

/-- The offer after an answer that goes through. -/
def taking (o : Offer) (call : OfferAnswer × Timestamp) : Offer :=
  o.withAnswer call.1.operation call.1.reason? call.2

/-- The offer after an answer that could not be counted. -/
def interrupted (o : Offer) (call : OfferAnswer × Timestamp) : Offer :=
  { o with accepted := some (call.1.operation = .accept), updatedAt := call.2 }

/-- Whatever the answer was, the offer takes no other one. -/
theorem state_taking (o : Offer) (call : OfferAnswer × Timestamp) :
    (o.taking call).state ≠ .pending := by
  rcases call with ⟨answer, now⟩
  cases answer <;> exact fun h => by cases h

/-- A reason that is given is all that can be wrong with an answered offer. -/
theorem entries_report_taking (o : Offer) (call : OfferAnswer × Timestamp) :
    (o.taking call).report.fields.entries =
      if call.1.reason?.any Text.blank = true then [("rejection_reason", ["can not be blank"])]
      else [] := by
  rcases call with ⟨answer, now⟩
  cases answer with
  | accept => rfl
  | reject reason =>
    change (if Text.blank reason = true then
      Report.empty.add "rejection_reason" "can not be blank" else .empty).fields.entries =
        if Text.blank reason = true then [("rejection_reason", ["can not be blank"])] else []
    split <;> rfl

theorem state_interrupted (o : Offer) (call : OfferAnswer × Timestamp) :
    (o.interrupted call).state ≠ .pending := by
  rcases call with ⟨answer, now⟩
  cases answer <;> exact fun h => by cases h

section

variable [Build] {o : Offer} {call : OfferAnswer × Timestamp}
  {calls : List (OfferAnswer × Timestamp)}

/-- The answer in place, with the change it makes. -/
def take (o : Offer) : OfferAnswer × Timestamp → Except Failure (Change OfferState) × Offer
  | (.accept, now) => o.accept now
  | (.reject reason, now) => o.reject reason now

theorem take_eq (o : Offer) (call : OfferAnswer × Timestamp) :
    o.take call = o.answer call.1.operation call.1.reason? call.2 := by
  rcases call with ⟨answer, now⟩
  cases answer <;> rfl

theorem take_of_pending (h : o.state = .pending) (hnext : Version.HasNext o.version)
    (call : OfferAnswer × Timestamp) : ∃ change, o.take call = (.ok change, o.taking call) := by
  rw [take_eq, answer_of_pending h hnext]
  rcases call with ⟨answer, now⟩
  cases answer <;> exact ⟨_, rfl⟩

/-- A refused answer leaves the offer as it is. -/
theorem take_of_not_pending (h : o.state ≠ .pending) (call : OfferAnswer × Timestamp) :
    o.take call =
      (.error (.invalidTransition entity o.id.text call.1.operation.name o.state.name), o) := by
  rw [take_eq, answer_of_not_pending h]

theorem take_of_overflow (h : o.state = .pending) (hlast : ¬ Version.HasNext o.version)
    (call : OfferAnswer × Timestamp) : o.take call = (.error .overflow, o.interrupted call) := by
  rw [take_eq, answer_of_overflow h hlast]
  rcases call with ⟨answer, now⟩
  cases answer <;> rfl

/-! ## Tries -/

/-- The offer after an answer is tried. -/
def given (o : Offer) (call : OfferAnswer × Timestamp) : Offer := (o.take call).2

/-- The offer after answers are tried one after the other. -/
def tried (o : Offer) (calls : List (OfferAnswer × Timestamp)) : Offer := calls.foldl given o

/-- Those of the answers tried that go through. -/
def taken (o : Offer) : List (OfferAnswer × Timestamp) → List (OfferAnswer × Timestamp)
  | [] => []
  | call :: calls =>
    if (o.take call).1.isOk then call :: (o.given call).taken calls else (o.given call).taken calls

theorem given_of_not_pending (h : o.state ≠ .pending) (call : OfferAnswer × Timestamp) :
    o.given call = o := by
  rw [given, take_of_not_pending h]

theorem tried_cons : o.tried (call :: calls) = (o.given call).tried calls := rfl

theorem tried_snoc : o.tried (calls ++ [call]) = (o.tried calls).given call := by
  simp [tried]

theorem tried_of_not_pending (h : o.state ≠ .pending) : o.tried calls = o := by
  induction calls with
  | nil => rfl
  | cons call calls ih => rw [tried_cons, given_of_not_pending h, ih]

theorem taken_of_not_pending (h : o.state ≠ .pending) : o.taken calls = [] := by
  induction calls with
  | nil => rfl
  | cons call calls ih =>
    rw [taken, given_of_not_pending h, take_of_not_pending h, ih]
    rfl

/-- After the first answer to a pending offer none goes through, whether or not that one could
be counted. -/
theorem first_of_pending (h : o.state = .pending) :
    o.taken (call :: calls) = (if Version.HasNext o.version then [call] else []) ∧
      o.tried (call :: calls) =
        if Version.HasNext o.version then o.taking call else o.interrupted call := by
  by_cases hnext : Version.HasNext o.version
  · obtain ⟨change, htake⟩ := take_of_pending h hnext call
    simp [taken, tried_cons, given, htake, hnext, taken_of_not_pending (o.state_taking call),
      tried_of_not_pending (o.state_taking call), Except.isOk, Except.toBool]
  · simp [taken, tried_cons, given, take_of_overflow h hnext, hnext,
      taken_of_not_pending (o.state_interrupted call),
      tried_of_not_pending (o.state_interrupted call), Except.isOk, Except.toBool]

/-- Only the first answer to a pending offer is taken. -/
theorem taken_eq (o : Offer) (calls : List (OfferAnswer × Timestamp)) : o.taken calls =
    if o.state = .pending ∧ Version.HasNext o.version then calls.take 1 else [] := by
  by_cases h : o.state = .pending
  · cases calls with
    | nil => simp [taken]
    | cons call calls => simp [first_of_pending h, h]
  · rw [taken_of_not_pending h, if_neg fun hboth => h hboth.1]

/-- At most one answer makes the offer what it is in the end, and it is taken if there is a
next version. -/
theorem tried_cases (o : Offer) (calls : List (OfferAnswer × Timestamp)) :
    o.taken calls = [] ∧ o.tried calls = o ∨
      (∃ call, Version.HasNext o.version ∧ o.taken calls = [call] ∧
        o.tried calls = o.taking call) ∨
      ∃ call, o.taken calls = [] ∧ o.tried calls = o.interrupted call := by
  by_cases h : o.state = .pending
  · cases calls with
    | nil => exact .inl ⟨rfl, rfl⟩
    | cons call calls =>
      by_cases hnext : Version.HasNext o.version
      · exact .inr (.inl ⟨call, hnext, by simp [first_of_pending h, hnext]⟩)
      · exact .inr (.inr ⟨call, by simp [first_of_pending h, hnext]⟩)
  · exact .inl ⟨taken_of_not_pending h, tried_of_not_pending h⟩

theorem id_tried (o : Offer) (calls : List (OfferAnswer × Timestamp)) :
    (o.tried calls).id = o.id := by
  obtain ⟨-, htried⟩ | ⟨call, -, -, htried⟩ | ⟨call, -, htried⟩ := o.tried_cases calls
  · rw [htried]
  · rw [htried]
    rfl
  · rw [htried]
    rfl

theorem version_tried (o : Offer) (calls : List (OfferAnswer × Timestamp))
    (h : o.version < Version.count) :
    (o.tried calls).version = Version.ofCount (o.version + (o.taken calls).length) := by
  have hself := Version.ofCount_of_lt h
  obtain ⟨htaken, htried⟩ | ⟨call, hnext, htaken, htried⟩ | ⟨call, htaken, htried⟩ :=
    o.tried_cases calls
  · rw [htaken, htried]
    exact hself.symm
  · have hsucc := Version.ofCount_succ o.version
    rw [hself, if_pos hnext] at hsucc
    rw [htaken, htried]
    exact hsucc.symm
  · rw [htaken, htried]
    exact hself.symm

theorem tried_of_mem_taken (h : call ∈ o.taken calls) : o.tried calls = o.taking call := by
  obtain ⟨htaken, -⟩ | ⟨first, -, htaken, htried⟩ | ⟨first, htaken, -⟩ := o.tried_cases calls
  · rw [htaken] at h
    cases h
  · rw [htaken, List.mem_singleton] at h
    rw [htried, h]
  · rw [htaken] at h
    cases h

end

end Offer

/-- An offer that has been changed as often as can be counted. -/
def Sample.lastOffer : Offer := { offer with version := 18446744073709551615 }

end Relocation
