-- Ids of agents. Agents are kept in a plain list, and a commit looks for the ids of
-- those that it brings among the stored ones, but not among each other. So agents
-- with one id have always come together, from one transaction.
import Relocation.Proofs.Histories

namespace Relocation

/-- The stored agents with the id. -/
def Store.agentsWith (S : Store) (x : AgentId) : List Agent := S.agents.filter fun a => a.id = x

/-! ## What a commit brings -/

namespace Transaction

variable {tx : Transaction} {S : Store}

theorem agentsWith_apply (tx : Transaction) (S : Store) (x : AgentId) :
    (tx.apply S).agentsWith x = S.agentsWith x ++ tx.agents.filter fun a => a.id = x :=
  List.filter_append ..

/-- An id that is stored is not brought again. -/
theorem Current.agentsWith_eq (h : tx.Current S) {x : AgentId} (hx : S.agentsWith x ≠ []) :
    (tx.apply S).agentsWith x = S.agentsWith x := by
  obtain ⟨b, hb⟩ := List.exists_mem_of_ne_nil _ hx
  obtain ⟨hmem, hid⟩ := List.mem_filter.mp hb
  have hnone : (tx.agents.filter fun a => a.id = x) = [] := by
    rw [List.filter_eq_nil_iff]
    intro a ha hax
    exact h.agents a ha b hmem ((of_decide_eq_true hid).trans (of_decide_eq_true hax).symm)
  rw [agentsWith_apply, hnone, List.append_nil]

/-- Ids stay distinct exactly if those that are brought are distinct. -/
theorem Current.nodup_agents_iff (h : tx.Current S) :
    ((tx.apply S).agents.map Agent.id).Nodup ↔
      (S.agents.map Agent.id).Nodup ∧ (tx.agents.map Agent.id).Nodup := by
  have hagents : (tx.apply S).agents = S.agents ++ tx.agents := rfl
  rw [hagents, List.map_append, List.nodup_append]
  constructor
  · exact fun ⟨hstored, hnew, _⟩ => ⟨hstored, hnew⟩
  · refine fun ⟨hstored, hnew⟩ => ⟨hstored, hnew, fun x hx z hz => ?_⟩
    obtain ⟨b, hb, rfl⟩ := List.mem_map.mp hx
    obtain ⟨a, ha, rfl⟩ := List.mem_map.mp hz
    exact h.agents a ha b hb

end Transaction

/-! ## The commits of a session -/

namespace Session

variable {start : Store} {events early : List Event} {e : Event} {n : Nat}

/-- The transaction under the number commits right after the first events, and
its commit goes through. -/
def CommitsAfter (start : Store) (events early : List Event) (n : Nat) : Prop :=
  early ++ [.commit n] <+: events ∧ (run start early).Commits n

theorem commitsAfter_snoc : CommitsAfter start (events ++ [e]) early n ↔
    CommitsAfter start events early n ∨
      early = events ∧ e = .commit n ∧ (run start events).Commits n := by
  unfold CommitsAfter
  rw [List.prefix_concat_iff]
  constructor
  · rintro ⟨heq | hbefore, hcommits⟩
    · obtain ⟨rfl, he⟩ := List.append_inj' heq rfl
      exact .inr ⟨rfl, (List.singleton_inj.mp he).symm, hcommits⟩
    · exact .inl ⟨hbefore, hcommits⟩
  · rintro (⟨hbefore, hcommits⟩ | ⟨rfl, rfl, hcommits⟩)
    · exact ⟨.inr hbefore, hcommits⟩
    · exact ⟨.inl rfl, hcommits⟩

theorem not_commitsAfter_nil : ¬ CommitsAfter start [] early n := by
  rintro ⟨hbefore, -⟩
  simpa using List.prefix_nil.mp hbefore

/-- What holds at each commit held at each earlier one, and holds at the last event
if that is one. -/
theorem forall_commitsAfter_snoc {P : List Event → Nat → Prop} :
    (∀ early n, CommitsAfter start (events ++ [e]) early n → P early n) ↔
      (∀ early n, CommitsAfter start events early n → P early n) ∧
        ∀ n, e = .commit n → (run start events).Commits n → P events n := by
  constructor
  · exact fun h => ⟨fun early n hearly => h early n (commitsAfter_snoc.mpr (.inl hearly)),
      fun n he hn => h events n (commitsAfter_snoc.mpr (.inr ⟨rfl, he, hn⟩))⟩
  · rintro ⟨hearlier, hlast⟩ early n h
    rcases commitsAfter_snoc.mp h with hearly | ⟨rfl, he, hn⟩
    · exact hearlier early n hearly
    · exact hlast n he hn

/-- The agents that the transaction under the number has saved since it was begun. -/
def savedAgents (n : Nat) (start : Store) (events : List Event) : List Agent :=
  (history n start events).filterMap Asked.savedAgent?

/-- A commit that goes through brings what its transaction has saved. -/
theorem store_of_commits (h : (run start events).Commits n) :
    ∃ tx : Transaction, tx.Current (run start events).store ∧ tx.agents = savedAgents n start events ∧
      (run start (events ++ [.commit n])).store = tx.apply (run start events).store := by
  obtain ⟨tx, htx, hcommit⟩ := h
  obtain ⟨hcur, hstore⟩ := of_commits htx ⟨tx, htx, hcommit⟩
  refine ⟨tx, hcur, ?_, ?_⟩
  · rw [transaction_eq_after htx, Transaction.agents_after]
    rfl
  · rw [run_snoc, hstore]

/-- Nothing else touches the agents. -/
theorem agents_of_not_commits (h : ∀ n, e = .commit n → ¬ (run start events).Commits n) :
    (run start (events ++ [e])).store.agents = (run start events).store.agents := by
  rw [run_snoc]
  rcases store_cases (run start events) e with
    hcalm | ⟨n, tx, rfl, htx, hcommit⟩ | ⟨x, rfl, hstore⟩ | ⟨o, rfl, hstore⟩
  · exact Store.agents_of_calm hcalm
  · exact absurd ⟨tx, htx, congrArg Prod.fst hcommit⟩ (h n rfl)
  · rw [hstore]
    rfl
  · rw [hstore]
    rfl

/-- The agents with one id are those that one transaction has saved with it. -/
theorem agentsWith_run (events : List Event) (x : AgentId) :
    (run {} events).store.agentsWith x = [] ∨
    ∃ early n, CommitsAfter {} events early n ∧
      (run {} events).store.agentsWith x =
        (savedAgents n {} early).filter fun a => a.id = x := by
  induction events using List.reverseRecOn with
  | nil => exact .inl rfl
  | append_singleton events e ih =>
    by_cases hcommits : ∃ n, e = .commit n ∧ (run {} events).Commits n
    · obtain ⟨n, rfl, hcommits⟩ := hcommits
      obtain ⟨tx, hcur, hagents, hstore⟩ := store_of_commits hcommits
      rw [hstore]
      by_cases hx : (run {} events).store.agentsWith x = []
      · -- If any agent has the id now, this commit has brought all of them.
        refine .inr ⟨events, n, commitsAfter_snoc.mpr (.inr ⟨rfl, rfl, hcommits⟩), ?_⟩
        rw [Transaction.agentsWith_apply, hx, hagents, List.nil_append]
      · obtain ⟨early, m, hearly, hsaved⟩ := ih.resolve_left hx
        refine .inr ⟨early, m, commitsAfter_snoc.mpr (.inl hearly), ?_⟩
        rw [hcur.agentsWith_eq hx, hsaved]
    · have hsame : (run {} (events ++ [e])).store.agentsWith x =
          (run {} events).store.agentsWith x :=
        congrArg (List.filter _) (agents_of_not_commits fun n he hn => hcommits ⟨n, he, hn⟩)
      rw [hsame]
      exact ih.imp_right fun ⟨early, n, hearly, hsaved⟩ =>
        ⟨early, n, commitsAfter_snoc.mpr (.inl hearly), hsaved⟩

theorem nodup_agents_run_iff (events : List Event) :
    ((run {} events).store.agents.map Agent.id).Nodup ↔
      ∀ early n, CommitsAfter {} events early n →
        ((savedAgents n {} early).map Agent.id).Nodup := by
  induction events using List.reverseRecOn with
  | nil =>
    refine ⟨fun _ _ _ h => absurd h not_commitsAfter_nil, fun _ => ?_⟩
    exact List.nodup_nil
  | append_singleton events e ih =>
    rw [forall_commitsAfter_snoc, ← ih]
    by_cases hcommits : ∃ n, e = .commit n ∧ (run {} events).Commits n
    · obtain ⟨n, rfl, hcommits⟩ := hcommits
      obtain ⟨tx, hcur, hagents, hstore⟩ := store_of_commits hcommits
      rw [hstore, hcur.nodup_agents_iff, hagents]
      refine and_congr_right fun _ => ⟨fun hnew m he _ => ?_, fun h => h n rfl hcommits⟩
      cases he
      exact hnew
    · rw [agents_of_not_commits fun n he hn => hcommits ⟨n, he, hn⟩]
      exact (and_iff_left fun n he hn => absurd ⟨n, he, hn⟩ hcommits).symm

/-- No two transactions bring agents with one id: those that are stored with it are
all that one transaction has saved with it. So the ids are distinct exactly if
those in each transaction that has committed are. -/
theorem agents_with_one_id_come_together (events : List Event) :
    (∀ x, (run {} events).store.agentsWith x = [] ∨
      ∃ early n, CommitsAfter {} events early n ∧
        (run {} events).store.agentsWith x =
          (savedAgents n {} early).filter fun a => a.id = x) ∧
    (((run {} events).store.agents.map Agent.id).Nodup ↔
      ∀ early n, CommitsAfter {} events early n →
        ((savedAgents n {} early).map Agent.id).Nodup) :=
  ⟨agentsWith_run events, nodup_agents_run_iff events⟩

/-! ## An agent that is saved twice -/

/-- An agent at the origin of the shipment. -/
def sampleAgent : Agent where
  id := ⟨Sample.uuid 5⟩
  shipmentId := Sample.shipment.id
  role := .origin
  pointOfContact := "Jenny at ACME Movers"
  email := none
  phone := none
  fax := none
  prefersEmail := none
  prefersPhone := none
  notes := none
  createdAt := default

/-- It is not so that the ids of the stored agents are distinct: here one
transaction has saved an agent twice. -/
theorem an_agent_can_be_stored_twice :
    ¬ ∀ events : List Event, ((run {} events).store.agents.map Agent.id).Nodup := by
  intro hclaim
  have htwice := hclaim [.begin 0, .call 0 (.saveAgent sampleAgent),
    .call 0 (.saveAgent sampleAgent), .commit 0]
  have hagents : (run {} [.begin 0, .call 0 (.saveAgent sampleAgent),
      .call 0 (.saveAgent sampleAgent), .commit 0]).store.agents =
    [sampleAgent, sampleAgent] := rfl
  rw [hagents] at htwice
  exact absurd htwice (by decide)

/-- Another transaction saves an agent with the id of one that is stored. -/
def repeatedAgent : List Event :=
  [.begin 0, .call 0 (.saveAgent sampleAgent),
    .call 0 (.saveAgent { sampleAgent with id := ⟨Sample.uuid 6⟩ }),
    .commit 0, .begin 1,
    .call 1 (.saveAgent { sampleAgent with role := .destination }), .commit 1]

/-- It does not commit, and the one that does has saved distinct ids. -/
theorem a_repeated_agent_is_refused :
    (run {} repeatedAgent).store.agentsWith sampleAgent.id = [sampleAgent] ∧
    ∀ early n, CommitsAfter {} repeatedAgent early n →
      ((savedAgents n {} early).map Agent.id).Nodup := by
  obtain ⟨-, hdistinct⟩ := agents_with_one_id_come_together repeatedAgent
  exact ⟨rfl, hdistinct.mp (by decide)⟩

end Session

end Relocation
