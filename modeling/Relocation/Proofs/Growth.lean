-- A store only grows. Whatever transactions do and whatever is stored beside them,
-- no record goes away, and new ones come after those that are there. So lists
-- of offers and agents are answered in the order in which these came in first.
import Relocation.Proofs.AgentIds

namespace Relocation

/-! ## Many writes -/

namespace Table

variable {α κ : Type} {key : α → κ} [DecidableEq κ]

/-- The keys that are there stay in front. -/
theorem keys_prefix_insertAll (t : Table α key) (xs : List α) :
    t.keys <+: (t.insertAll xs).keys := by
  rw [keys_insertAll, List.eraseDups_append, eraseDups_of_nodup (l := t.keys) t.distinct]
  exact List.prefix_append _ _

/-- The entries are what is found under the keys, in their order. -/
theorem filterMap_find?_keys (t : Table α key) : t.keys.filterMap t.find? = t.entries := by
  have hfound : ∀ xs : List α, xs ⊆ t.entries → (xs.map key).filterMap t.find? = xs := by
    intro xs hxs
    induction xs with
    | nil => rfl
    | cons x xs ih =>
      rw [List.cons_subset] at hxs
      have hx : t.find? (key x) = some x := (t.find?_eq_some_iff (key x) x).mpr ⟨hxs.1, rfl⟩
      rw [List.map_cons, List.filterMap_cons_some hx, ih hxs.2]
  exact hfound t.entries (List.Subset.refl _)

end Table

/-- The offers of a shipment stand in the order of all offers. -/
theorem Store.offersOf_eq (S : Store) (x : ShipmentId) :
    S.offersOf x = (S.offers.keys.filterMap S.offer?).filter fun o => o.shipmentId = x := by
  rw [offersOf, ← Table.filterMap_find?_keys]
  rfl

/-! ## What comes in with events -/

namespace Session

variable {s : Session} {start : Store}

/-- What comes into the store with an event, told as a transaction that stages it. -/
def landed? (s : Session) : Event → Option Transaction
  | .commit n => (s.transactions n).filter fun tx => (tx.commit s.store).1.isOk
  | .seedShipment x => some (Transaction.begin.stageShipment x)
  | .seedOffer o => some (Transaction.begin.stageOffer o)
  | _ => none

theorem calm_step (s : Session) (e : Event) :
    (s.step e).store.calm = ((s.landed? e).elim s.store (·.apply s.store)).calm := by
  cases e with
  | commit n =>
    rcases htx : s.transactions n with _ | tx
    · simp [step, landed?, htx]
    · rcases hcommit : tx.commit s.store with ⟨failure | u, S'⟩
      · have hnone : s.landed? (.commit n) = none := by
          simp only [landed?, htx, Option.filter_some, hcommit]
          rfl
        rw [hnone]
        simp only [step, htx, hcommit]
        exact Transaction.calm_of_commit_error hcommit
      · have hsome : s.landed? (.commit n) = some tx := by
          simp only [landed?, htx, Option.filter_some, hcommit]
          rfl
        obtain ⟨-, -, rfl⟩ := Transaction.commit_eq_ok.mp hcommit
        rw [hsome]
        simp only [step, htx, hcommit]
        rfl
  | call n c =>
    rcases htx : s.transactions n with _ | tx
    · simp [step, landed?, htx]
    · rcases hanswer : tx.answer s.store c with _ | _ <;> simp [step, landed?, htx, hanswer]
  | seedShipment x =>
    have happly : (Transaction.begin.stageShipment x).apply s.store = s.store.putShipment x :=
      Transaction.apply_stageShipment ⟨rfl, rfl, rfl⟩
    exact congrArg Store.calm happly.symm
  | seedOffer o =>
    have happly : (Transaction.begin.stageOffer o).apply s.store = s.store.putOffer o := by
      simp [Transaction.apply, Transaction.stageOffer, Transaction.begin, Store.putOffer]
    exact congrArg Store.calm happly.symm
  | begin n | drop n | failNext message => rfl

/-- What comes into the store with events, in their order. -/
def landingsFrom (s : Session) : List Event → List Transaction
  | [] => []
  | e :: events => (s.landed? e).toList ++ landingsFrom (s.step e) events

/-- What has come into the store with the events since the start. -/
def landings (start : Store) (events : List Event) : List Transaction :=
  landingsFrom { store := start } events

theorem landings_append (start : Store) (events more : List Event) :
    landings start (events ++ more) =
      landings start events ++ landingsFrom (run start events) more := by
  unfold landings run
  generalize ({ store := start } : Session) = s
  induction events generalizing s with
  | nil => rfl
  | cons e events ih =>
    rw [List.cons_append, landingsFrom, ih, landingsFrom, List.append_assoc, List.foldl_cons]

/-- The records are those of the start with all that has come in. -/
theorem calm_run (start : Store) (events : List Event) : (run start events).store.calm =
    ((landings start events).foldl (fun S tx => tx.apply S) start).calm := by
  induction events using List.reverseRecOn with
  | nil => rfl
  | append_singleton events e ih =>
    rw [run_snoc, calm_step, landings_append, List.foldl_append]
    rcases he : (run start events).landed? e with _ | tx
    · rw [landingsFrom, he]
      exact ih
    · rw [landingsFrom, he]
      exact congrArg tx.apply ih

end Session

/-- What many transactions write, one after the other. -/
theorem Transaction.foldl_apply (txs : List Transaction) (S : Store) :
    txs.foldl (fun S tx => tx.apply S) S =
      { S with
        shipments := S.shipments.insertAll (txs.flatMap (·.shipments.entries))
        offers := S.offers.insertAll (txs.flatMap (·.offers.entries))
        agents := S.agents ++ txs.flatMap (·.agents) } := by
  induction txs generalizing S with
  | nil => simp
  | cons tx txs ih =>
    rw [List.foldl_cons, ih]
    simp [apply, Table.insertAll_append]

namespace Session

variable (start : Store) (events more : List Event)

/-- What is stored is what was there and what has come in. -/
theorem stored_run :
    (run start events).store.shipments =
      start.shipments.insertAll ((landings start events).flatMap (·.shipments.entries)) ∧
    (run start events).store.offers =
      start.offers.insertAll ((landings start events).flatMap (·.offers.entries)) ∧
    (run start events).store.agents =
      start.agents ++ (landings start events).flatMap (·.agents) := by
  have hcalm := calm_run start events
  rw [Transaction.foldl_apply] at hcalm
  exact ⟨congrArg Store.shipments hcalm, congrArg Store.offers hcalm, congrArg Store.agents hcalm⟩

/-- The offers stand in the order in which their ids came in first. -/
theorem keys_offers_run : (run start events).store.offers.keys =
    (start.offers.keys ++ (landings start events).flatMap (·.offers.keys)).eraseDups := by
  rw [(stored_run start events).2.1, Table.keys_insertAll, List.map_flatMap]
  rfl

/-- No record goes away, and the order of offers and agents stays. -/
theorem grows_run :
    (run start events).store.shipments.keys ⊆ (run start (events ++ more)).store.shipments.keys ∧
    (run start events).store.offers.keys <+: (run start (events ++ more)).store.offers.keys ∧
    (run start events).store.agents <+: (run start (events ++ more)).store.agents := by
  obtain ⟨hshipments, hoffers, hagents⟩ := stored_run start events
  obtain ⟨hshipments', hoffers', hagents'⟩ := stored_run start (events ++ more)
  rw [landings_append, List.flatMap_append] at hshipments' hoffers' hagents'
  rw [Table.insertAll_append, ← hshipments] at hshipments'
  rw [Table.insertAll_append, ← hoffers] at hoffers'
  rw [← List.append_assoc, ← hagents] at hagents'
  rw [hshipments', hoffers', hagents']
  exact ⟨(Table.keys_prefix_insertAll _ _).subset, Table.keys_prefix_insertAll _ _,
    List.prefix_append _ _⟩

end Session

/-! ## The moments of a run -/

section

open Work (Ran)

variable {ι : Type} {job : ι → Job}

/-- The store is one that the run of the events comes to. -/
def System.Passes (job : ι → Job) (start : Store) (events : List (Event ι)) (S : Store) : Prop :=
  ∃ early, early <+: events ∧ (System.run job start early).store = S

/-- A unit that has committed made its calls on stores of the run. -/
theorem System.ran_of_mem_log {start : Store} {events : List (Event ι)} {r : Receipt job}
    (hr : r ∈ (System.run job start events).log) :
    ∃ S₀ T tx, Ran (fun _ S => System.Passes job start events S) (job r.kind).gateway
      (job r.kind).work S₀ .begin T tx r.answer := by
  -- The stores of the whole run stay the same while the induction goes through its events.
  have hall : ∀ early, early <+: events →
      (System.run job start early).Sound (fun _ S => System.Passes job start events S) ∧
      ∀ r ∈ (System.run job start early).log, ∃ S₀ T tx,
        Ran (fun _ S => System.Passes job start events S) (job r.kind).gateway (job r.kind).work
          S₀ .begin T tx r.answer := by
    intro early hearly
    induction early using List.reverseRecOn with
    | nil => exact ⟨by simp [System.Sound, System.run], by simp [System.run]⟩
    | append_singleton early e ih =>
      have hbefore : early <+: events := (List.prefix_append _ _).trans hearly
      obtain ⟨hsound, hlog⟩ := ih hbefore
      have hrun : System.run job start (early ++ [e]) = (System.run job start early).step e :=
        System.run_append job start early [e]
      have hnext : System.Passes job start events ((System.run job start early).step e).store :=
        ⟨early ++ [e], hearly, by rw [hrun]⟩
      rw [hrun]
      refine ⟨hsound.step_of_later (fun _ h => h) e ⟨early, hbefore, rfl⟩ hnext, ?_⟩
      cases hsound.leads e with
      | quiet store log =>
        rw [log]
        exact hlog
      | commit begins ran later commits committed log =>
        rw [log]
        intro r hr
        rcases List.mem_append.mp hr with hr | hr
        · exact hlog r hr
        · obtain rfl := List.mem_singleton.mp hr
          exact ⟨_, _, _, ran⟩
  exact (hall events List.prefix_rfl).2 r hr

end

/-! ## Agents that the coordinator creates -/

open Work (Ran)
open Coordinator

/-- The agent that the task creates for the shipment. -/
def Task.createdFor? (x : ShipmentId) : (t : Task) → t.Answer → Option Agent
  | .request _ _ (.addAgent y _), a => if y = x then some a else none
  | _, _ => none

/-- The agents that were created for the shipment, as they were answered, in the
order of the commits. -/
def System.createdFor (x : ShipmentId) (sys : System Task.job) : List Agent :=
  sys.log.filterMap fun r => r.kind.createdFor? x r.answer

theorem Agent.shipmentId_of_create {id : AgentId} {x : ShipmentId} {request : AgentRequest}
    {now : Timestamp} {a : Agent} (h : Agent.create id x request now = .ok a) :
    a.shipmentId = x := by
  unfold create at h
  split at h
  · cases h
  · obtain ⟨u, -, hmade⟩ := bind_eq_ok.mp h
    obtain rfl := Except.ok.inj hmade
    rfl

section

variable {R : Store → Store → Prop} {g : Gateway} {w : Work (List Agent)} {S S₀ S' T : Store}
  {tx : Transaction} {x : ShipmentId}

/-- An agent that is created for a shipment comes after all others, and nothing
else touches the agents of the shipment. -/
theorem Task.agentsOf_of_effect (t : Task) {a : t.Answer}
    (h : Ran R t.gateway t.work S₀ .begin T tx a) (heffect : t.Effect S S' a) (x : ShipmentId) :
    S'.agentsOf x = S.agentsOf x ++ (t.createdFor? x a).toList := by
  cases t with
  | advance g y steps =>
    obtain ⟨s, -, -, rfl⟩ := heffect
    exact (List.append_nil _).symm
  | request g fresh r =>
    cases r with
    | addAgent y request =>
      obtain ⟨-, -, U, s, -, -, hs, hcreate, -⟩ := ran_addAgent.mp h
      obtain ⟨-, -, rfl⟩ := heffect
      have hshipment : a.shipmentId = y :=
        (Agent.shipmentId_of_create hcreate).trans (Table.key_of_find? hs)
      by_cases hx : y = x <;>
        simp [Store.agentsOf, List.filter_append, Task.createdFor?, hshipment, hx]
    | fetch p y | listAgents y =>
      obtain rfl : S' = S := heffect
      exact (List.append_nil _).symm
    | award y | submit y =>
      obtain ⟨s, -, -, rfl⟩ := heffect
      exact (List.append_nil _).symm
    | accept p y | reject p y reason =>
      obtain ⟨s', o'⟩ := a
      obtain ⟨s, o, -, -, -, rfl⟩ := heffect
      exact (List.append_nil _).symm
    | awardTo y p =>
      obtain ⟨s', o'⟩ := a
      obtain ⟨s, -, -, -, -, -, rfl⟩ := heffect
      exact (List.append_nil _).symm
    | survey p y patch =>
      obtain ⟨s, o, -, -, -, rfl⟩ := heffect
      exact (List.append_nil _).symm

/-- After any events, the agents of a shipment are those that were stored and those
that were created for it. -/
theorem System.agentsOf_run (start : Store) (events : List (Event Task)) (x : ShipmentId) :
    (System.run Task.job start events).store.agentsOf x =
      start.agentsOf x ++ (System.run Task.job start events).createdFor x := by
  refine System.run_preserves Task.guarantee
    (I := fun sys => sys.store.agentsOf x = start.agentsOf x ++ sys.createdFor x) events
    (List.append_nil _).symm ?_
  intro sys sys' h hleads
  cases hleads with
  | quiet store log =>
    unfold Store.agentsOf System.createdFor at *
    rw [Store.agents_of_calm store, log, h]
  | @commit k S₀ T tx a begins ran later commits committed log =>
    obtain ⟨-, hcur, hstore⟩ := Transaction.commit_eq_ok.mp committed
    have heffect : k.Effect sys.store sys'.store a := hstore ▸ k.effect ran later hcur
    rw [k.agentsOf_of_effect ran heffect x, h, List.append_assoc]
    unfold System.createdFor
    rw [log, List.filterMap_append]
    rcases hcreated : k.createdFor? x a with _ | agent <;> simp [hcreated]

/-- A unit that lists agents stages nothing, and it looks for them once. -/
theorem Coordinator.listAgents_cases (h : Work.Reached R g (listAgents x) S tx w) :
    tx.Unstaged ∧ (w = listAgents x ∨ w = Work.ask (.findAgents x) ∨ ∃ as, w = .done as) := by
  induction h with
  | start passed => exact ⟨⟨rfl, rfl, rfl⟩, .inl rfl⟩
  | @call T S tx tx' c next reply before later passed answered ih =>
    obtain ⟨hunstaged, hlists | hlooks | ⟨as, hdone⟩⟩ := ih
    · have hcall : Work.call c next =
          .call (.findShipment x) fun _ => Work.ask (.findAgents x) := hlists
      cases hcall
      obtain ⟨-, rfl⟩ := (Transaction.findShipment_of_unstaged hunstaged.1).mp answered
      exact ⟨hunstaged, .inr (.inl rfl)⟩
    · have hcall : Work.call c next = .call (.findAgents x) .done := hlooks
      cases hcall
      cases answered
      exact ⟨hunstaged, .inr (.inr ⟨_, rfl⟩)⟩
    · cases hdone

/-- A unit that lists agents answers those of the store that it looked at last. -/
theorem Coordinator.agentsOf_of_ran {as : List Agent} {tx' : Transaction}
    (h : Ran R g (listAgents x) S .begin S' tx' as) : ∃ U, R U S' ∧ as = S'.agentsOf x := by
  unfold listAgents at h
  obtain ⟨U, tx₁, s, hread, hlist⟩ := Work.ran_bind.mp h
  obtain ⟨-, -, -, rfl⟩ := (Work.ran_findShipment rfl).mp hread
  obtain ⟨-, later, rfl, -⟩ := Work.ran_findAgents.mp hlist
  refine ⟨U, later, ?_⟩
  simp [Transaction.findAgents, Transaction.sawShipment, Transaction.begin, Store.agentsOf]

end

theorem Transaction.findAgents_eq (tx : Transaction) (S : Store) (x : ShipmentId) :
    tx.findAgents S x = S.agentsOf x ++ tx.agents.filter fun a => a.shipmentId = x :=
  List.filter_append ..

/-! ## The order of lists -/

/-- Whatever comes in, no record goes away, and offers and agents stay in the order
in which they came in first. So they are listed in that order. Among the tasks of
the coordinator, the agents of a shipment are those that were stored at the start
and then those that were created for it, in the order of the commits. Each unit
that lists them finds those of the moment at which it looks. -/
theorem the_store_grows_in_order (start : Store) (events more : List Session.Event)
    (tasks : List (Event Task)) (x : ShipmentId) :
    ((Session.run start events).store.shipments.keys ⊆
        (Session.run start (events ++ more)).store.shipments.keys ∧
      (Session.run start events).store.offers.keys <+:
        (Session.run start (events ++ more)).store.offers.keys ∧
      (Session.run start events).store.agents <+:
        (Session.run start (events ++ more)).store.agents) ∧
    ((Session.run start events).store.offersOf x =
        ((start.offers.keys ++
            (Session.landings start events).flatMap (·.offers.keys)).eraseDups.filterMap
          (Session.run start events).store.offer?).filter (fun o => o.shipmentId = x) ∧
      ∀ n tx, (Session.run start events).transactions n = some tx →
        tx.findAgents (Session.run start events).store x =
          (start.agents ++ (Session.landings start events).flatMap (·.agents) ++
            Session.savedAgents n start events).filter fun a => a.shipmentId = x) ∧
    (System.run Task.job start tasks).store.agentsOf x =
      start.agentsOf x ++ (System.run Task.job start tasks).createdFor x ∧
    (∀ g fresh tx next, ⟨.request g fresh (.listAgents x), .running tx (.call (.findAgents x) next)⟩ ∈
        (System.run Task.job start tasks).units →
      tx.findAgents (System.run Task.job start tasks).store x =
        start.agentsOf x ++ (System.run Task.job start tasks).createdFor x) ∧
    ∀ g fresh as, ⟨.request g fresh (.listAgents x), as⟩ ∈ (System.run Task.job start tasks).log →
      ∃ early, early <+: tasks ∧
        as = start.agentsOf x ++ (System.run Task.job start early).createdFor x := by
  refine ⟨Session.grows_run start events more, ⟨?_, fun n tx htx => ?_⟩,
    System.agentsOf_run start tasks x, fun g fresh tx next hunit => ?_, fun g fresh as hr => ?_⟩
  · rw [Store.offersOf_eq, Session.keys_offers_run]
  · have hsaved : tx.agents = Session.savedAgents n start events := by
      rw [Session.transaction_eq_after htx, Transaction.agents_after]
      rfl
    unfold Transaction.findAgents
    rw [(Session.stored_run start events).2.2, hsaved]
  · have htraced := System.sound_run Task.guarantee start tasks _ hunit
    cases htraced with
    | running reached later =>
      have hunstaged := (Coordinator.listAgents_cases reached).1
      rw [Transaction.findAgents_eq, hunstaged.2.2, System.agentsOf_run]
      exact List.append_nil _
  · obtain ⟨S₀, T, tx, hran⟩ := System.ran_of_mem_log hr
    obtain ⟨-, ⟨early, hearly, rfl⟩, rfl⟩ := Coordinator.agentsOf_of_ran hran
    exact ⟨early, hearly, System.agentsOf_run start early x⟩

/-! ### Lists in order -/

/-- An agent of the shipment is asked for. -/
def Sample.addAgent (n : Nat) : Task :=
  let request : AgentRequest :=
    { role := some .origin, pointOfContact := some "Jenny at ACME Movers" }
  task (.addAgent shipment.id request) (uuid n)

/-- Two agents are created, the second first, and one unit lists the agents in
between. Another is about to. -/
def Sample.listing : List (Event Task) :=
  [.start (addAgent 5), .start (addAgent 6), .start (task (.listAgents shipment.id)),
    .start (task (.listAgents shipment.id))] ++
    List.replicate 4 (.call 1) ++ List.replicate 4 (.call 2) ++ List.replicate 4 (.call 0) ++
    List.replicate 2 (.call 3)

/-- Two offers are stored. A transaction saves an agent, and the first offer again. -/
def Sample.saving : List Session.Event :=
  [.seedOffer offer, .seedOffer { offer with id := ⟨uuid 7⟩ }, .begin 0,
    .call 0 (.findOffers offer.providerId offer.shipmentId),
    .call 0 (.saveAgent Session.sampleAgent), .call 0 (.saveOffer offer)]

/-- The first offer keeps its place, the transaction sees its own agent, and the
units see the agents that were created before they looked. -/
theorem lists_keep_their_order :
    (Session.run Sample.store Sample.saving).store.offers.keys <+:
      (Session.run Sample.store (Sample.saving ++ [.commit 0])).store.offers.keys ∧
    (∃ tx, (Session.run Sample.store Sample.saving).transactions 0 = some tx ∧
      tx.findAgents (Session.run Sample.store Sample.saving).store Sample.shipment.id =
        [Session.sampleAgent]) ∧
    (∃ tx next, ⟨Sample.task (.listAgents Sample.shipment.id),
        .running tx (.call (.findAgents Sample.shipment.id) next)⟩ ∈
          (System.run Task.job Sample.store Sample.listing).units ∧
      (tx.findAgents (System.run Task.job Sample.store Sample.listing).store
        Sample.shipment.id).map Agent.id = [⟨Sample.uuid 6⟩, ⟨Sample.uuid 5⟩]) ∧
    ∃ as early, ⟨Sample.task (.listAgents Sample.shipment.id), as⟩ ∈
        (System.run Task.job Sample.store Sample.listing).log ∧
      early <+: Sample.listing ∧
      as = (System.run Task.job Sample.store early).createdFor Sample.shipment.id := by
  obtain ⟨⟨-, hoffers, -⟩, ⟨-, hown⟩, -, hlook, hlist⟩ := the_store_grows_in_order Sample.store
    Sample.saving [.commit 0] Sample.listing Sample.shipment.id
  have hunit : ∃ tx next, (System.run Task.job Sample.store Sample.listing).units[3]? =
      some ⟨Sample.task (.listAgents Sample.shipment.id),
        .running tx (.call (.findAgents Sample.shipment.id) next)⟩ := ⟨_, _, rfl⟩
  have hreceipt : ∃ as, (System.run Task.job Sample.store Sample.listing).log[1]? =
      some ⟨Sample.task (.listAgents Sample.shipment.id), as⟩ := ⟨_, rfl⟩
  obtain ⟨tx, next, hunit⟩ := hunit
  obtain ⟨as, hreceipt⟩ := hreceipt
  have hmem := List.mem_of_getElem? hunit
  have hmem' := List.mem_of_getElem? hreceipt
  obtain ⟨early, hearly, has⟩ := hlist _ _ as hmem'
  refine ⟨hoffers, ⟨_, rfl, (hown 0 _ rfl).trans rfl⟩, ⟨tx, next, hmem, ?_⟩,
    as, early, hmem', hearly, has⟩
  rw [hlook _ _ tx next hmem]
  rfl

end Relocation
