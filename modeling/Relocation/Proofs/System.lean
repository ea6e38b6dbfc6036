-- Many units of work over one store. The units take turns, one call to the
-- gateway at a time and in any order. A unit may be dropped at any moment, and
-- a failure may be set for the next commit at any moment.
import Relocation.Proofs.Effects

namespace Relocation

open Work (Ran)
open Gateway (Progress)

/-! ## Jobs, units and events -/

/-- A unit of work to be done, with the gateway that it goes through. -/
structure Job where
  Answer : Type
  gateway : Gateway
  work : Work Answer

variable {ι : Type}

/-- A unit of work that has been started. -/
structure Started (job : ι → Job) where
  kind : ι
  progress : Progress (job kind).Answer

/-- A unit of work that has committed, with its answer. -/
structure Receipt (job : ι → Job) where
  kind : ι
  answer : (job kind).Answer

/-- The store, the units in the order in which they were started, and those
that have committed in the order in which they did. -/
structure System (job : ι → Job) where
  store : Store
  units : List (Started job) := []
  log : List (Receipt job) := []

inductive Event (ι : Type) where
  /-- A unit is started. -/
  | start (kind : ι)
  /-- The unit at the place `n` makes one call. -/
  | call (n : Nat)
  /-- The unit at the place `n` is dropped. -/
  | drop (n : Nat)
  /-- The next commit is made to fail. -/
  | failNext (message : String)

def Gateway.answered {α : Type} : (before after : Progress α) → Option α
  | .running _ _, .ended (.ok a) => some a
  | _, _ => none

section

variable {job : ι → Job}

def Started.step (u : Started job) (S : Store) : Started job × Store :=
  let after := (job u.kind).gateway.step S u.progress
  (⟨u.kind, after.1⟩, after.2)

def Started.receipts (u : Started job) (S : Store) : List (Receipt job) :=
  (Gateway.answered u.progress ((job u.kind).gateway.step S u.progress).1).toList.map
    fun a => ⟨u.kind, a⟩

namespace System

def step (sys : System job) : Event ι → System job
  | .start k => { sys with units := sys.units ++ [⟨k, .waiting (job k).work⟩] }
  | .call n =>
    match sys.units[n]? with
    | none => sys
    | some u =>
      { store := (u.step sys.store).2
        units := sys.units.set n (u.step sys.store).1
        log := sys.log ++ u.receipts sys.store }
  | .drop n => { sys with units := sys.units.eraseIdx n }
  | .failNext message => { sys with store := sys.store.failNextCommit message }

/-- The system after events that start with nothing but a store. -/
def run (job : ι → Job) (start : Store) (events : List (Event ι)) : System job :=
  events.foldl step { store := start }

end System

/-! ## A failed commit -/

/-- The store without the failure that may be set. -/
def Store.calm (S : Store) : Store := { S with nextFailure := none }

theorem Store.same_of_calm {S S' : Store} (h : S'.calm = S.calm) :
    S'.shipments = S.shipments ∧ S'.offers = S.offers := by
  have hs : S'.calm.shipments = S.calm.shipments := by rw [h]
  have ho : S'.calm.offers = S.calm.offers := by rw [h]
  exact ⟨hs, ho⟩

theorem Store.agents_of_calm {S S' : Store} (h : S'.calm = S.calm) : S'.agents = S.agents := by
  have hagents : S'.calm.agents = S.calm.agents := by rw [h]
  exact hagents

theorem Store.calm_of_none {S : Store} (h : S.nextFailure = none) : S.calm = S := by
  unfold calm
  rw [← h]

theorem Transaction.calm_of_commit_error {tx : Transaction} {S S' : Store} {failure : Failure}
    (h : tx.commit S = (.error failure, S')) : S'.calm = S.calm := by
  unfold commit at h
  split at h
  · cases h
    rfl
  · split at h
    · cases h
      rfl
    · cases h

/-! ## How a unit under way came to where it is -/

/-- From its begin on, the unit has come to `w` with the transaction `tx`,
last used on the given store. -/
inductive Work.Reached {α : Type} (R : Store → Store → Prop) (g : Gateway) (w₀ : Work α) :
    Store → Transaction → Work α → Prop
  | start {S : Store} (passed : g.fault .begin = none) : Reached R g w₀ S .begin w₀
  | call {T S : Store} {tx tx' : Transaction} {c : Call} {next : c.Reply → Work α}
      {reply : c.Reply} (before : Reached R g w₀ T tx (.call c next)) (later : R T S)
      (passed : g.fault c.stage = none) (answered : tx.answer S c = .ok (reply, tx')) :
      Reached R g w₀ S tx' (next reply)

/-- What may be said of a unit at any moment, `S` being the store: it has only
made the calls of its work, each on a store of an earlier moment. -/
inductive Gateway.Traced {α : Type} (R : Store → Store → Prop) (g : Gateway) (w₀ : Work α)
    (S : Store) : Progress α → Prop
  | waiting : Traced R g w₀ S (.waiting w₀)
  | running {T : Store} {tx : Transaction} {w : Work α} (reached : Work.Reached R g w₀ T tx w)
      (later : R T S) : Traced R g w₀ S (.running tx w)
  | failed {tx : Transaction} {failure : Failure} : Traced R g w₀ S (.running tx (.fail failure))
  | ended {outcome : Except Failure α} : Traced R g w₀ S (.ended outcome)

section

variable {α : Type} {R : Store → Store → Prop} {g : Gateway} {w₀ w : Work α} {S S' T : Store}
  {tx : Transaction} {p : Progress α}

theorem Work.Reached.passed (h : Work.Reached R g w₀ T tx w) : g.fault .begin = none := by
  induction h with
  | start passed => exact passed
  | call _ _ _ _ ih => exact ih

/-- However the unit goes on from here, it could go on from its begin. -/
theorem Work.Reached.ran (h : Work.Reached R g w₀ T tx w) :
    ∃ S₀, ∀ {S' tx' a}, Ran R g w T tx S' tx' a → Ran R g w₀ S₀ .begin S' tx' a := by
  induction h with
  | start passed => exact ⟨_, fun h => h⟩
  | call _ later passed answered ih =>
    obtain ⟨S₀, hran⟩ := ih
    exact ⟨S₀, fun h => hran (.call later passed answered h)⟩

theorem Gateway.Traced.mono (trans : ∀ {S T U}, R S T → R T U → R S U) (later : R S S')
    (h : Gateway.Traced R g w₀ S p) : Gateway.Traced R g w₀ S' p := by
  cases h with
  | waiting => exact .waiting
  | running reached later' => exact .running reached (trans later' later)
  | failed => exact .failed
  | ended => exact .ended

theorem Gateway.Traced.step (refl : R S S) (h : Gateway.Traced R g w₀ S p) :
    Gateway.Traced R g w₀ S (g.step S p).1 := by
  cases h with
  | waiting =>
    rcases hbegin : g.fault .begin with _ | _ | _
    · simp only [Gateway.step, hbegin]
      exact .running (.start hbegin) refl
    · simp only [Gateway.step, hbegin]
      exact .ended
    · simp only [Gateway.step, hbegin]
      exact .ended
  | failed => exact .ended
  | ended => exact .ended
  | @running T tx w reached later =>
    cases w with
    | done a => exact .ended
    | fail failure => exact .ended
    | call c next =>
      rcases hcall : g.fault c.stage with _ | _ | _
      · rcases hanswer : tx.answer S c with failure | ⟨reply, tx'⟩
        · simp only [Gateway.step, hcall, hanswer]
          exact .failed
        · simp only [Gateway.step, hcall, hanswer]
          exact .running (.call reached later hcall hanswer) refl
      · simp only [Gateway.step, hcall]
        exact .ended
      · simp only [Gateway.step, hcall]
        exact .failed

/-- All that a step of a unit can do: it commits, or it leaves the records alone. -/
theorem Gateway.step_cases (g : Gateway) (S : Store) (p : Progress α) :
    (∃ tx a, p = .running tx (.done a) ∧ g.fault .commit = none ∧
      tx.commit S = (.ok (), (g.step S p).2) ∧ Gateway.answered p (g.step S p).1 = some a) ∨
    (Gateway.answered p (g.step S p).1 = none ∧ (g.step S p).2.calm = S.calm) := by
  cases p with
  | waiting w =>
    rcases h : g.fault .begin with _ | _ | _ <;> exact .inr (by simp [step, answered, h])
  | ended outcome => exact .inr ⟨rfl, rfl⟩
  | running tx w =>
    cases w with
    | fail failure =>
      refine .inr ⟨?_, rfl⟩
      rcases h : g.fault .rollback with _ | _ | _ <;> simp [step, answered, abort, h]
    | call c next =>
      rcases h : g.fault c.stage with _ | _ | _
      · rcases ha : tx.answer S c with _ | _ <;> exact .inr (by simp [step, answered, h, ha])
      · exact .inr (by simp [step, answered, h])
      · exact .inr (by simp [step, answered, h])
    | done a =>
      rcases h : g.fault .commit with _ | _ | _
      · rcases hcommit : tx.commit S with ⟨failure | u, S'⟩
        · refine .inr ⟨by simp [step, answered, finish, h, hcommit], ?_⟩
          have hcalm := Transaction.calm_of_commit_error hcommit
          simpa [step, finish, h, hcommit] using hcalm
        · refine .inl ⟨tx, a, rfl, rfl, ?_, ?_⟩ <;> simp [step, answered, finish, h, hcommit]
      · exact .inr (by simp [step, answered, finish, h])
      · exact .inr (by simp [step, answered, finish, h])

end

/-! ## What an event comes to -/

namespace System

variable {R : Store → Store → Prop} {sys sys' : System job} {start : Store}

/-- Each unit has only made the calls of its work. -/
def Sound (R : Store → Store → Prop) (sys : System job) : Prop :=
  ∀ u ∈ sys.units, Gateway.Traced R (job u.kind).gateway (job u.kind).work sys.store u.progress

/-- An event leaves the records alone, or it is the commit of one unit, which
made its calls in the midst of the others. -/
inductive Leads (R : Store → Store → Prop) (sys sys' : System job) : Prop
  | quiet (store : sys'.store.calm = sys.store.calm) (log : sys'.log = sys.log)
  | commit {k : ι} {S₀ T : Store} {tx : Transaction} {a : (job k).Answer}
      (begins : (job k).gateway.fault .begin = none)
      (ran : Ran R (job k).gateway (job k).work S₀ .begin T tx a) (later : R T sys.store)
      (commits : (job k).gateway.fault .commit = none)
      (committed : tx.commit sys.store = (.ok (), sys'.store))
      (log : sys'.log = sys.log ++ [⟨k, a⟩])

theorem Sound.leads (h : sys.Sound R) (e : Event ι) : sys.Leads R (sys.step e) := by
  cases e with
  | start k => exact .quiet rfl rfl
  | drop n => exact .quiet rfl rfl
  | failNext message => exact .quiet rfl rfl
  | call n =>
    rcases hu : sys.units[n]? with _ | u
    · rw [step, hu]
      exact .quiet rfl rfl
    · have htraced := h u (List.mem_of_getElem? hu)
      rcases Gateway.step_cases (job u.kind).gateway sys.store u.progress with
        ⟨tx, a, hdone, hcommits, hcommitted, hanswer⟩ | ⟨hanswer, hcalm⟩
      · rw [hdone] at htraced
        obtain ⟨reached, later⟩ : ∃ T, Work.Reached R (job u.kind).gateway (job u.kind).work T tx
            (.done a) ∧ R T sys.store := by
          cases htraced with
          | running reached later => exact ⟨_, reached, later⟩
        obtain ⟨reached, later⟩ := later
        obtain ⟨S₀, hran⟩ := reached.ran
        refine .commit reached.passed (hran .done) later hcommits (a := a) ?_ ?_
        · simpa [step, hu, Started.step] using hcommitted
        · simp [step, hu, Started.receipts, hanswer]
      · refine .quiet ?_ ?_
        · simpa [step, hu, Started.step] using hcalm
        · simp [step, hu, Started.receipts, hanswer]

end System

/-! ## Who has committed -/

theorem Gateway.answered_of_ended {α : Type} {g : Gateway} {S : Store} {p : Progress α} {a : α}
    (h : (g.step S p).1 = .ended (.ok a)) :
    p = .ended (.ok a) ∨ Gateway.answered p (g.step S p).1 = some a := by
  cases p with
  | waiting w => rcases hbegin : g.fault .begin with _ | _ | _ <;> simp [step, hbegin] at h
  | running tx w => exact .inr (by rw [h]; rfl)
  | ended outcome => exact .inl h

namespace System

/-- Each unit that has ended with an answer is in the log. -/
def Logged (sys : System job) : Prop :=
  ∀ u ∈ sys.units, ∀ a, u.progress = .ended (.ok a) → ⟨u.kind, a⟩ ∈ sys.log

theorem Logged.step {sys : System job} (h : sys.Logged) (e : Event ι) : (sys.step e).Logged := by
  cases e with
  | start k =>
    intro u hu a ha
    rcases List.mem_append.mp hu with hu | hu
    · exact h u hu a ha
    · obtain rfl := List.mem_singleton.mp hu
      cases ha
  | drop n => exact fun u hu => h u (List.mem_of_mem_eraseIdx hu)
  | failNext message => exact h
  | call n =>
    rcases hn : sys.units[n]? with _ | v
    · rwa [System.step, hn]
    · intro u hu a ha
      simp only [System.step, hn] at hu ⊢
      rw [List.mem_append]
      rcases List.mem_or_eq_of_mem_set hu with hu | rfl
      · exact .inl (h u hu a ha)
      · rcases Gateway.answered_of_ended ha with hbefore | hanswer
        · exact .inl (h v (List.mem_of_getElem? hn) a hbefore)
        · refine .inr ?_
          unfold Started.receipts
          rw [hanswer]
          exact List.mem_singleton_self _

theorem logged_run (start : Store) (events : List (Event ι)) : (run job start events).Logged := by
  unfold run
  have hstart : ({ store := start } : System job).Logged := by simp [Logged]
  generalize ({ store := start } : System job) = sys at hstart
  induction events generalizing sys with
  | nil => exact hstart
  | cons e events ih => exact ih _ (hstart.step e)

end System

/-! ## What all jobs keep to -/

/-- However the units of the jobs mix, the store only moves on along `R`. -/
structure Guarantee (job : ι → Job) (R : Store → Store → Prop) : Prop where
  calm : ∀ {S S' : Store}, S'.calm = S.calm → R S S'
  trans : ∀ {S T U : Store}, R S T → R T U → R S U
  commit : ∀ {k : ι} {S₀ T S : Store} {tx : Transaction} {a : (job k).Answer},
    Ran R (job k).gateway (job k).work S₀ .begin T tx a → R T S → tx.Current S → R S (tx.apply S)

namespace System

variable {R : Store → Store → Prop} {sys sys' : System job}

theorem Leads.later (G : Guarantee job R) (h : sys.Leads R sys') : R sys.store sys'.store := by
  cases h with
  | quiet store => exact G.calm store
  | commit begins ran later commits committed log =>
    obtain ⟨-, hcur, hstore⟩ := Transaction.commit_eq_ok.mp committed
    rw [hstore]
    exact G.commit ran later hcur

/-- An event that leads to a later store leaves each unit with the calls of its work. -/
theorem Sound.step_of_later (h : sys.Sound R) (trans : ∀ {S T U}, R S T → R T U → R S U)
    (e : Event ι) (hself : R sys.store sys.store) (hlater : R sys.store (sys.step e).store) :
    (sys.step e).Sound R := by
  have hold : ∀ u ∈ sys.units, Gateway.Traced R (job u.kind).gateway (job u.kind).work
      (sys.step e).store u.progress := fun u hu => (h u hu).mono trans hlater
  cases e with
  | start k =>
    intro u hu
    rcases List.mem_append.mp hu with hu | hu
    · exact hold u hu
    · obtain rfl := List.mem_singleton.mp hu
      exact .waiting
  | drop n => exact fun u hu => hold u (List.mem_of_mem_eraseIdx hu)
  | failNext message => exact hold
  | call n =>
    rcases hn : sys.units[n]? with _ | v
    · rwa [System.step, hn]
    · intro u hu
      have htraced := h v (List.mem_of_getElem? hn)
      simp only [System.step, hn] at hu hlater ⊢
      rcases List.mem_or_eq_of_mem_set hu with hu | rfl
      · exact (h u hu).mono trans hlater
      · exact (htraced.step hself).mono trans hlater

theorem Sound.step (G : Guarantee job R) (h : sys.Sound R) (e : Event ι) :
    (sys.step e).Sound R :=
  h.step_of_later G.trans e (G.calm rfl) ((h.leads e).later G)

theorem sound_run (G : Guarantee job R) (start : Store) (events : List (Event ι)) :
    (run job start events).Sound R := by
  unfold run
  have hstart : ({ store := start } : System job).Sound R := by simp [Sound]
  generalize ({ store := start } : System job) = sys at hstart
  induction events generalizing sys with
  | nil => exact hstart
  | cons e events ih => exact ih _ (hstart.step G e)

/-- What each of the events keeps holds in the end, whatever happened before. -/
theorem Sound.preserves_along (G : Guarantee job R) {I : System job → Prop} (hsound : sys.Sound R)
    (hI : I sys) (events : List (Event ι))
    (hstep : ∀ {sys} e, e ∈ events → sys.Sound R → I sys → I (sys.step e)) :
    I (events.foldl System.step sys) := by
  induction events generalizing sys with
  | nil => exact hI
  | cons e events ih =>
    refine ih (hsound.step G e) (hstep e List.mem_cons_self hsound hI) ?_
    exact fun e' he' => hstep e' (List.mem_cons_of_mem e he')

theorem Sound.preserves (G : Guarantee job R) {I : System job → Prop} (hsound : sys.Sound R)
    (hI : I sys) (events : List (Event ι))
    (hstep : ∀ {sys sys'}, I sys → sys.Leads R sys' → I sys') : I (events.foldl System.step sys) :=
  hsound.preserves_along G hI events fun e _ hs h => hstep h (hs.leads e)

/-- What every event keeps holds in the end. -/
theorem run_preserves (G : Guarantee job R) {I : System job → Prop} {start : Store}
    (events : List (Event ι)) (hstart : I { store := start })
    (hstep : ∀ {sys sys'}, I sys → sys.Leads R sys' → I sys') : I (run job start events) := by
  have hsound : ({ store := start } : System job).Sound R := by simp [Sound]
  exact hsound.preserves G hstart events hstep

theorem run_append (job : ι → Job) (start : Store) (before after : List (Event ι)) :
    run job start (before ++ after) = after.foldl System.step (run job start before) :=
  List.foldl_append

theorem later_run (G : Guarantee job R) (start : Store) (events : List (Event ι)) :
    R start (run job start events).store :=
  run_preserves G (I := fun sys => R start sys.store) events (G.calm rfl)
    fun h hleads => G.trans h (hleads.later G)

end System

end

/-! ## The tasks as jobs -/

/-- The task, to be run by a system. -/
def Task.job (t : Task) : Job := ⟨t.Answer, t.gateway, t.work⟩

/-- However tasks mix, the store only grows later. -/
theorem Task.guarantee : Guarantee Task.job Store.Later where
  calm h := Store.later_of_same (Store.same_of_calm h).1 (Store.same_of_calm h).2
  trans h h' := h.trans h'
  commit {k} _ _ _ _ _ hran later hcur := Task.later_of_effect (k.effect hran later hcur)

/-! ## A store to run them on -/

namespace Sample

def uuid (n : Nat) : Uuid := ⟨n % 0x100000000000000000000000000000000, Nat.mod_lt _ (by decide)⟩

/-- A shipment that waits for award. -/
def shipment : Shipment :=
  { Shipment.new ⟨uuid 1⟩ ⟨uuid 2⟩ default with
    status := .submitted
    pickupAddress := some ⟨"1 Main St", none, "Town", "CA", "90210", none⟩ }

def store : Store := { shipments := Table.empty.insert shipment }

/-- The request through a gateway that passes every call on. -/
def task (r : Request) (n : Uuid := uuid 0) : Task :=
  .request ⟨r.name, 1000, fun _ => none⟩ ⟨default, default, n⟩ r

/-- An offer of the shipment without an answer. -/
def offer : Offer := .new ⟨uuid 4⟩ shipment.id ⟨uuid 3⟩ default

/-- The store after the shipment was awarded, with an offer. -/
def awarded : Store :=
  let award := task (.awardTo shipment.id ⟨uuid 3⟩) (uuid 4)
  (award.gateway.run store award.work).2

end Sample

end Relocation
