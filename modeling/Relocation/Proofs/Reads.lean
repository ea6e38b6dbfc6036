-- What a unit of work reads. Its calls are answered one after the other, each
-- on the store of its own moment, and between two of them other units may
-- commit. `R` relates the store of one moment to the store of a later one:
-- with `Eq` nothing happens in between, and the unit runs alone.
import Relocation.Coordinator

namespace Relocation

namespace Work

variable {α β : Type}

/-! ## A unit that comes to its answer -/

/-- From the transaction `tx` on, last used on the store `S`, the unit comes
to its answer with the transaction `tx'`, last used on `S'`. -/
inductive Ran (R : Store → Store → Prop) (g : Gateway) :
    Work α → Store → Transaction → Store → Transaction → α → Prop
  | done {a : α} {S : Store} {tx : Transaction} : Ran R g (.done a) S tx S tx a
  | call {c : Call} {next : c.Reply → Work α} {reply : c.Reply} {S T S' : Store}
      {tx tx₁ tx' : Transaction} {a : α} (later : R S T) (passed : g.fault c.stage = none)
      (answered : tx.answer T c = .ok (reply, tx₁)) (rest : Ran R g (next reply) T tx₁ S' tx' a) :
      Ran R g (.call c next) S tx S' tx' a

section

variable {R : Store → Store → Prop} {g : Gateway} {S S' : Store} {tx tx' : Transaction}

@[simp] theorem ran_done {a b : α} :
    Ran R g (.done b) S tx S' tx' a ↔ S' = S ∧ tx' = tx ∧ a = b := by
  constructor
  · rintro ⟨⟩
    exact ⟨rfl, rfl, rfl⟩
  · rintro ⟨rfl, rfl, rfl⟩
    exact .done

@[simp] theorem ran_pure {a b : α} :
    Ran R g (pure b) S tx S' tx' a ↔ S' = S ∧ tx' = tx ∧ a = b := ran_done

@[simp] theorem ran_fail {failure : Failure} {a : α} :
    ¬ Ran R g (.fail failure) S tx S' tx' a := by
  rintro ⟨⟩

theorem ran_call {c : Call} {next : c.Reply → Work α} {a : α} :
    Ran R g (.call c next) S tx S' tx' a ↔
      g.fault c.stage = none ∧ ∃ T reply tx₁, R S T ∧ tx.answer T c = .ok (reply, tx₁) ∧
        Ran R g (next reply) T tx₁ S' tx' a := by
  constructor
  · intro h
    cases h with
    | call later passed answered rest => exact ⟨passed, _, _, _, later, answered, rest⟩
  · rintro ⟨passed, T, reply, tx₁, later, answered, rest⟩
    exact .call later passed answered rest

@[simp] theorem ran_ask {c : Call} {reply : c.Reply} :
    Ran R g (ask c) S tx S' tx' reply ↔
      g.fault c.stage = none ∧ R S S' ∧ tx.answer S' c = .ok (reply, tx') := by
  unfold ask
  rw [ran_call]
  constructor
  · rintro ⟨passed, T, r, tx₁, later, answered, rest⟩
    obtain ⟨rfl, rfl, rfl⟩ := ran_done.mp rest
    exact ⟨passed, later, answered⟩
  · rintro ⟨passed, later, answered⟩
    exact ⟨passed, S', reply, tx', later, answered, .done⟩

@[simp] theorem ran_ofExcept {e : Except Failure α} {a : α} :
    Ran R g (ofExcept e) S tx S' tx' a ↔ S' = S ∧ tx' = tx ∧ e = .ok a := by
  cases e with
  | error failure => simp [ofExcept]
  | ok b => simp [ofExcept, eq_comm]

/-- A unit in two parts: the second goes on where the first ends. -/
@[simp] theorem ran_bind {x : Work α} {f : α → Work β} {b : β} :
    Ran R g (x >>= f) S tx S' tx' b ↔
      ∃ T tx₁ a, Ran R g x S tx T tx₁ a ∧ Ran R g (f a) T tx₁ S' tx' b := by
  induction x generalizing S tx with
  | done a =>
    constructor
    · intro h
      exact ⟨S, tx, a, .done, h⟩
    · rintro ⟨T, tx₁, a', ha, hf⟩
      obtain ⟨rfl, rfl, rfl⟩ := ran_done.mp ha
      exact hf
  | fail failure =>
    constructor
    · exact fun h => absurd h ran_fail
    · rintro ⟨T, tx₁, a, ha, -⟩
      exact absurd ha ran_fail
  | call c next ih =>
    change Ran R g (.call c fun reply => next reply >>= f) S tx S' tx' b ↔ _
    rw [ran_call]
    constructor
    · rintro ⟨passed, T, reply, tx₁, later, answered, rest⟩
      obtain ⟨T', tx₂, a, ha, hf⟩ := (ih reply).mp rest
      exact ⟨T', tx₂, a, .call later passed answered ha, hf⟩
    · rintro ⟨T', tx₂, a, ha, hf⟩
      obtain ⟨passed, T, reply, tx₁, later, answered, rest⟩ := ran_call.mp ha
      exact ⟨passed, T, reply, tx₁, later, answered, (ih reply).mpr ⟨T', tx₂, a, rest, hf⟩⟩

end

end Work

end Relocation
