-- Whose change is kept where two units edit one shipment. The unit that
-- commits second has read an older version, so its commit is refused, if the
-- first one counted the version up. A change of an address does not, and is
-- overwritten.
import Relocation.Proofs.Edits

namespace Relocation

open Gateway (Progress)

variable {ι : Type} {job : ι → Job} {x : ShipmentId} {v : Nat}

/-! ## One call of a unit under way -/

/-- The version that was read first stays. -/
theorem Transaction.readShipment?_answer {tx tx' : Transaction} {S : Store} {c : Call}
    {reply : c.Reply} (h : tx.answer S c = .ok (reply, tx'))
    (hread : tx.readShipment? x = some v) : tx'.readShipment? x = some v := by
  cases c with
  | findShipment y =>
    rcases findShipment_cases h with ⟨-, rfl⟩ | ⟨-, rfl⟩
    · exact hread
    · rw [readShipment?_saw, hread, Option.some_or]
  | findOffers p y =>
    cases h
    exact hread
  | findAgents y =>
    cases h
    exact hread
  | saveShipment s =>
    obtain ⟨-, rfl⟩ := answer_saveShipment.mp h
    exact hread
  | saveOffer o =>
    obtain ⟨-, rfl⟩ := answer_saveOffer.mp h
    exact hread
  | saveAgent a =>
    obtain ⟨-, rfl⟩ := answer_saveAgent.mp h
    exact hread

/-- The unit fails, or it has failed. -/
def Gateway.Failing {α : Type} : Progress α → Prop
  | .running _ (.fail _) => True
  | .ended (.error _) => True
  | _ => False

theorem Gateway.failing_step {α : Type} (g : Gateway) (S : Store) {p : Progress α}
    (h : Failing p) : Failing (g.step S p).1 := by
  cases p with
  | waiting w => exact h.elim
  | ended outcome => exact h
  | running tx w =>
    cases w with
    | done a => exact h.elim
    | call c next => exact h.elim
    | fail failure =>
      rcases hrollback : g.fault .rollback with _ | _ | _ <;>
        simp [step, abort, hrollback, Failing]

/-- A unit under way goes on with what it has read, or it fails, or it commits. -/
theorem Gateway.step_running {α : Type} (g : Gateway) (S : Store) {tx : Transaction} (w : Work α)
    (hread : tx.readShipment? x = some v) :
    (∃ tx' w', (g.step S (.running tx w)).1 = .running tx' w' ∧ tx'.readShipment? x = some v) ∨
    Failing (g.step S (.running tx w)).1 ∨
    ∃ a, w = .done a ∧ (g.step S (.running tx w)).1 = .ended (.ok a) ∧
      tx.commit S = (.ok (), (g.step S (.running tx w)).2) := by
  cases w with
  | fail failure => exact .inr (.inl (g.failing_step S trivial))
  | call c next =>
    rcases hcall : g.fault c.stage with _ | _ | _
    · rcases hanswer : tx.answer S c with failure | ⟨reply, tx'⟩
      · exact .inr (.inl (by simp [step, hcall, hanswer, Failing]))
      · exact .inl ⟨tx', next reply, by simp [step, hcall, hanswer],
          Transaction.readShipment?_answer hanswer hread⟩
    · exact .inr (.inl (by simp [step, hcall, Failing]))
    · exact .inr (.inl (by simp [step, hcall, Failing]))
  | done a =>
    rcases hfault : g.fault .commit with _ | _ | _
    · rcases hcommit : tx.commit S with ⟨failure | u, S'⟩
      · exact .inr (.inl (by simp [step, finish, hfault, hcommit, Failing]))
      · exact .inr (.inr ⟨a, rfl, by simp [step, finish, hfault, hcommit]⟩)
    · exact .inr (.inl (by simp [step, finish, hfault, Failing]))
    · exact .inr (.inl (by simp [step, finish, hfault, Failing]))

namespace System

/-- The unit at the place `n` is under way, and it has read the shipment `x`. -/
def HasRead (sys : System job) (n : Nat) (k : ι) (x : ShipmentId) : Prop :=
  ∃ tx w, sys.units[n]? = some ⟨k, .running tx w⟩ ∧ (tx.readShipment? x).isSome = true

/-- The unit at the place `n` has committed. -/
def Committed (sys : System job) (n : Nat) (k : ι) : Prop :=
  ∃ a, sys.units[n]? = some ⟨k, .ended (.ok a)⟩

/-! ## What an event does to one unit -/

/-- Where no unit is dropped, a unit keeps its place. Only its own calls move it. -/
theorem unit_step {sys : System job} {e : Event ι} (hdrop : ∀ n, e ≠ .drop n) {n : Nat}
    {u : Started job} (hu : sys.units[n]? = some u) :
    (sys.step e).units[n]? = some u ∨
      (sys.step e).units[n]? = some (u.step sys.store).1 ∧
        (sys.step e).store = (u.step sys.store).2 := by
  cases e with
  | start k =>
    refine .inl ?_
    rw [step, List.getElem?_append_left (List.getElem?_eq_some_iff.mp hu).1]
    exact hu
  | drop n => exact absurd rfl (hdrop n)
  | failNext message => exact .inl hu
  | call m =>
    by_cases hm : m = n
    · subst hm
      have hstep : sys.step (.call m) =
          { store := (u.step sys.store).2
            units := sys.units.set m (u.step sys.store).1
            log := sys.log ++ u.receipts sys.store } := by
        rw [step, hu]
      rw [hstep]
      exact .inr ⟨List.getElem?_set_self (List.getElem?_eq_some_iff.mp hu).1, rfl⟩
    · refine .inl ?_
      rcases hother : sys.units[m]? with _ | t
      · simp [step, hother, hu]
      · simp [step, hother, hu, hm]

/-! ## Two units that have read one shipment -/

variable {sys : System job} {e : Event ι} {n : Nat} {l : ι}

/-- The unit is under way, and it has read version `v` of the shipment first. -/
def HasReadVersion (sys : System job) (n : Nat) (k : ι) (x : ShipmentId) (v : Nat) : Prop :=
  ∃ tx w, sys.units[n]? = some ⟨k, .running tx w⟩ ∧ tx.readShipment? x = some v

def HasFailed (sys : System job) (n : Nat) (k : ι) : Prop :=
  ∃ p, sys.units[n]? = some ⟨k, p⟩ ∧ Gateway.Failing p

theorem HasRead.version (h : sys.HasRead n l x) : ∃ v, sys.HasReadVersion n l x v := by
  obtain ⟨tx, w, hu, hread⟩ := h
  obtain ⟨v, hv⟩ := Option.isSome_iff_exists.mp hread
  exact ⟨v, tx, w, hu, hv⟩

/-- A unit that has ended stays so. -/
theorem ended_step (hdrop : ∀ n, e ≠ .drop n) {outcome : Except Failure (job l).Answer}
    (h : sys.units[n]? = some ⟨l, .ended outcome⟩) :
    (sys.step e).units[n]? = some ⟨l, .ended outcome⟩ := by
  rcases unit_step hdrop h with hsame | ⟨hstep, -⟩
  · exact hsame
  · exact hstep

theorem HasFailed.step (hdrop : ∀ n, e ≠ .drop n) (h : sys.HasFailed n l) :
    (sys.step e).HasFailed n l := by
  obtain ⟨p, hu, hp⟩ := h
  rcases unit_step hdrop hu with hsame | ⟨hunit, -⟩
  · exact ⟨p, hsame, hp⟩
  · exact ⟨_, hunit, (job l).gateway.failing_step sys.store hp⟩

theorem HasFailed.not_committed (h : sys.HasFailed n l) : ¬ sys.Committed n l := by
  rintro ⟨a, ha⟩
  obtain ⟨p, hu, hp⟩ := h
  cases hu.symm.trans ha
  exact hp

theorem HasReadVersion.not_committed (h : sys.HasReadVersion n l x v) : ¬ sys.Committed n l := by
  rintro ⟨a, ha⟩
  obtain ⟨tx, w, hu, -⟩ := h
  cases hu.symm.trans ha

theorem HasReadVersion.step (hdrop : ∀ n, e ≠ .drop n) (h : sys.HasReadVersion n l x v) :
    (sys.step e).HasReadVersion n l x v ∨ (sys.step e).HasFailed n l ∨
      (sys.step e).Committed n l ∧ ∃ tx a, sys.units[n]? = some ⟨l, .running tx (.done a)⟩ ∧
        tx.readShipment? x = some v ∧ tx.commit sys.store = (.ok (), (sys.step e).store) := by
  obtain ⟨tx, w, hu, hread⟩ := h
  rcases unit_step hdrop hu with hsame | ⟨hunit, hstore⟩
  · exact .inl ⟨tx, w, hsame, hread⟩
  · rcases Gateway.step_running (job l).gateway sys.store w hread with
      ⟨tx', w', hgo, hread'⟩ | hfails | ⟨a, rfl, hends, hcommit⟩
    · exact .inl ⟨tx', w', by rw [hunit, Started.step, hgo], hread'⟩
    · exact .inr (.inl ⟨_, hunit, hfails⟩)
    · refine .inr (.inr ⟨⟨a, by rw [hunit, Started.step, hends]⟩, tx, a, hu, hread, ?_⟩)
      rw [hstore]
      exact hcommit

/-- A unit that edits and saves the shipment and commits has read it as it is stored,
and stores a version higher by `d`. -/
theorem Sound.of_commit {P : Shipment → Shipment → Prop} {d : Nat} (h : sys.Sound (Store.Upward x))
    (hP : ∀ {s t}, P s t → s.version + d ≤ t.version)
    (hl : (job l).work.SavesBy P x []) (hsaves : (job l).work.Saves x false)
    {tx : Transaction} {a : (job l).Answer}
    (hu : sys.units[n]? = some ⟨l, .running tx (.done a)⟩) {S' : Store}
    (hcommit : tx.commit sys.store = (.ok (), S')) :
    ∃ s t, sys.store.shipment? x = some s ∧ tx.readShipment? x = some s.version ∧
      S'.shipment? x = some t ∧ s.version + d ≤ t.version := by
  obtain ⟨-, hcur, rfl⟩ := Transaction.commit_eq_ok.mp hcommit
  cases h _ (List.mem_of_getElem? hu) with
  | running reached later =>
    obtain ⟨held, -, hk⟩ := reached.keeps hP hl
    obtain ⟨t, ht⟩ := Option.isSome_iff_exists.mp (reached.saves hsaves)
    obtain ⟨s, hs, hread, hle⟩ := (hk.later later).of_current hcur ht
    exact ⟨s, t, hs, hread, by rw [Transaction.shipment?_apply, ht, Option.some_or], hle⟩

/-- The stored version of the shipment is above `v`. -/
def StoredAbove (sys : System job) (x : ShipmentId) (v : Nat) : Prop :=
  ∃ s, sys.store.shipment? x = some s ∧ v < s.version

theorem StoredAbove.step (G : Guarantee job (Store.Upward x)) (hsound : sys.Sound (Store.Upward x))
    (h : sys.StoredAbove x v) (e : Event ι) : (sys.step e).StoredAbove x v := by
  obtain ⟨s, hs, hlt⟩ := h
  obtain ⟨s', hs', hle⟩ := (hsound.leads e).later G hs
  exact ⟨s', hs', Nat.lt_of_lt_of_le hlt hle⟩

/-- The unit at `n` has read version `v` of the shipment, or it is through. The
unit at `m` may be the first to commit, and then the version is above `v`. -/
structure Race (sys : System job) (x : ShipmentId) (m : Nat) (k : ι) (n : Nat) (l : ι) (v : Nat) :
    Prop where
  stored : ∃ s, sys.store.shipment? x = some s ∧ v ≤ s.version
  first : (∃ w, sys.HasReadVersion m k x w) ∨ sys.HasFailed m k ∨
    sys.Committed m k ∧ sys.StoredAbove x v
  second : sys.HasReadVersion n l x v ∨ sys.HasFailed n l ∨ sys.Committed n l

theorem Race.step {m : Nat} {k : ι} (G : Guarantee job (Store.Upward x))
    (hcounted : (job k).work.SavesBy Shipment.CountedChange x [])
    (hsaves : (job k).work.Saves x false) (hsound : sys.Sound (Store.Upward x))
    (hdrop : ∀ n, e ≠ .drop n) (h : sys.Race x m k n l v) : (sys.step e).Race x m k n l v := by
  obtain ⟨⟨s, hs, hle⟩, hfirst, hsecond⟩ := h
  refine ⟨?_, ?_, ?_⟩
  · obtain ⟨s', hs', hle'⟩ := (hsound.leads e).later G hs
    exact ⟨s', hs', Nat.le_trans hle hle'⟩
  · rcases hfirst with ⟨w, hread⟩ | hfailed | ⟨⟨a, hdone⟩, habove⟩
    · rcases hread.step hdrop with hread' | hfailed | ⟨hdone, tx, a, hu, -, hcommit⟩
      · exact .inl ⟨w, hread'⟩
      · exact .inr (.inl hfailed)
      · obtain ⟨s', t, hs', -, ht, hlt⟩ := hsound.of_commit (d := 1)
          Shipment.CountedChange.version_lt hcounted hsaves hu hcommit
        obtain rfl : s = s' := Option.some.inj (hs.symm.trans hs')
        exact .inr (.inr ⟨hdone, t, ht, by omega⟩)
    · exact .inr (.inl (hfailed.step hdrop))
    · exact .inr (.inr ⟨⟨a, ended_step hdrop hdone⟩, habove.step G hsound e⟩)
  · rcases hsecond with hread | hfailed | ⟨a, hdone⟩
    · exact (hread.step hdrop).imp_right fun h => h.imp_right And.left
    · exact .inr (.inl (hfailed.step hdrop))
    · exact .inr (.inr ⟨a, ended_step hdrop hdone⟩)

/-- The unit at `n` comes too late: what it has read is no longer stored. -/
structure TooLate (sys : System job) (x : ShipmentId) (n : Nat) (l : ι) (v : Nat) : Prop where
  stored : sys.StoredAbove x v
  unit : sys.HasReadVersion n l x v ∨ sys.HasFailed n l

theorem Race.tooLate {m : Nat} {k : ι} (h : sys.Race x m k n l v) (hfirst : sys.Committed m k)
    (hopen : ¬ sys.Committed n l) : sys.TooLate x n l v where
  stored := by
    rcases h.first with ⟨w, hread⟩ | hfailed | ⟨-, habove⟩
    · exact absurd hfirst hread.not_committed
    · exact absurd hfirst hfailed.not_committed
    · exact habove
  unit := by
    rcases h.second with hread | hfailed | hdone
    · exact .inl hread
    · exact .inr hfailed
    · exact absurd hdone hopen

theorem TooLate.step (G : Guarantee job (Store.Upward x))
    (hl : (job l).work.SavesBy Shipment.EditedTo x []) (hsaves : (job l).work.Saves x false)
    (hsound : sys.Sound (Store.Upward x)) (hdrop : ∀ n, e ≠ .drop n) (h : sys.TooLate x n l v) :
    (sys.step e).TooLate x n l v := by
  refine ⟨h.stored.step G hsound e, ?_⟩
  rcases h.unit with hread | hfailed
  · rcases hread.step hdrop with hread' | hfailed | ⟨-, tx, a, hu, hread', hcommit⟩
    · exact .inl hread'
    · exact .inr hfailed
    · -- Its commit would need the version that it has read.
      obtain ⟨s, t, hs, hread'', -, -⟩ := hsound.of_commit (d := 0)
        Shipment.EditedTo.version_le hl hsaves hu hcommit
      obtain ⟨s', hs', hlt⟩ := h.stored
      obtain rfl : s = s' := Option.some.inj (hs.symm.trans hs')
      obtain rfl : s.version = v := Option.some.inj (hread''.symm.trans hread')
      omega
  · exact .inr (hfailed.step hdrop)

/-- A unit that has come too late, or has failed, never commits. -/
theorem Sound.never_commits (G : Guarantee job (Store.Upward x))
    (hl : (job l).work.SavesBy Shipment.EditedTo x []) (hsaves : (job l).work.Saves x false)
    (hsound : sys.Sound (Store.Upward x)) (h : sys.TooLate x n l v ∨ sys.HasFailed n l)
    {events : List (Event ι)} (hdrop : ∀ e ∈ events, ∀ n, e ≠ .drop n) :
    ¬ (events.foldl System.step sys).Committed n l := by
  have hend := hsound.preserves_along G (I := fun sys => sys.TooLate x n l v ∨ sys.HasFailed n l)
    h events fun e he hs h => h.imp (·.step G hl hsaves hs (hdrop e he)) (·.step (hdrop e he))
  rcases hend with ⟨-, hread | hfailed⟩ | hfailed
  · exact hread.not_committed
  · exact hfailed.not_committed
  · exact hfailed.not_committed

/-- A unit has not read a version above the stored one. -/
theorem Sound.stored_of_read (hsound : sys.Sound (Store.Upward x))
    (hl : (job l).work.SavesBy Shipment.EditedTo x []) (h : sys.HasReadVersion n l x v) :
    sys.HasFailed n l ∨ ∃ s, sys.store.shipment? x = some s ∧ v ≤ s.version := by
  obtain ⟨tx, w, hu, hread⟩ := h
  have htraced : Gateway.Traced (Store.Upward x) (job l).gateway (job l).work sys.store
      (.running tx w) := hsound _ (List.mem_of_getElem? hu)
  cases htraced with
  | failed => exact .inl ⟨_, hu, trivial⟩
  | running reached later =>
    obtain ⟨held, -, hk⟩ := reached.keeps (d := 0) Shipment.EditedTo.version_le hl
    exact .inr ((hk.later later).stored hread)

end System

/-- Two units have read one shipment and save it, and no unit saves anything of it but
edits. If the one that commits first makes an edit that counts, the other one never
commits. No unit is dropped, so that each keeps its place; one that is never called again
does as well. -/
theorem a_counted_edit_is_not_overwritten (job : ι → Job) (x : ShipmentId)
    (hjobs : ∀ k, (job k).work.SavesBy Shipment.EditedTo x []) (start : Store)
    (early mid late : List (Event ι)) (hdrop : ∀ e ∈ early ++ mid ++ late, ∀ n, e ≠ .drop n)
    (m n : Nat) (k l : ι) (hm : (System.run job start early).HasRead m k x)
    (hn : (System.run job start early).HasRead n l x)
    (hfirst : (System.run job start (early ++ mid)).Committed m k)
    (hopen : ¬ (System.run job start (early ++ mid)).Committed n l)
    (hcounted : (job k).work.SavesBy Shipment.CountedChange x [])
    (hk : (job k).work.Saves x false) (hl : (job l).work.Saves x false) :
    ¬ (System.run job start (early ++ mid ++ late)).Committed n l := by
  have G : Guarantee job (Store.Upward x) := guarantee_of_edits hjobs
  have hsound : ∀ events, (System.run job start events).Sound (Store.Upward x) :=
    System.sound_run G start
  have hmid : ∀ e ∈ mid, ∀ n, e ≠ .drop n :=
    fun e he => hdrop e (List.mem_append_left _ (List.mem_append_right _ he))
  have hlate : ∀ e ∈ late, ∀ n, e ≠ .drop n := fun e he => hdrop e (List.mem_append_right _ he)
  obtain ⟨v, hv⟩ := hn.version
  rcases (hsound early).stored_of_read (hjobs l) hv with hfailed | hstored
  · rw [List.append_assoc, System.run_append]
    refine (hsound early).never_commits (v := v) G (hjobs l) hl (.inr hfailed) fun e he => ?_
    exact (List.mem_append.mp he).elim (hmid e) (hlate e)
  · have hrace : (System.run job start (early ++ mid)).Race x m k n l v := by
      rw [System.run_append]
      exact (hsound early).preserves_along G (I := fun sys => sys.Race x m k n l v)
        ⟨hstored, .inl hm.version, .inl hv⟩ mid fun e he hs h =>
          h.step G hcounted hk hs (hmid e he)
    rw [System.run_append]
    have hlost := hrace.tooLate hfirst hopen
    exact (hsound (early ++ mid)).never_commits G (hjobs l) hl (.inl hlost) hlate

/-! ## One edit at a time -/

/-- The copy that was found is edited once and saved, if the edit goes through and
changes it. -/
def saveEdited (e : Shipment.Edit) (s : Shipment) : Work Unit := do
  let s' ← Work.ofExcept (afterwards (s.applyEdit e))
  if s' = s then .fail (.onField "shipment" "is unchanged")
  else Work.ask (.saveShipment s')

/-- The shipment is found, edited once and saved. -/
def editShipment (x : ShipmentId) (e : Shipment.Edit) : Work Unit := do
  let s ← Work.ask (.findShipment x)
  saveEdited e s

theorem saveEdited_cases (e : Shipment.Edit) (s : Shipment) :
    (∃ failure, saveEdited e s = .fail failure) ∨
    (s.applyEdit e).1 = .ok () ∧ s.edit e ≠ s ∧
      saveEdited e s = Work.ask (.saveShipment (s.edit e)) := by
  unfold saveEdited Shipment.edit
  rcases s.applyEdit e with ⟨failure | u, t⟩
  · exact .inl ⟨failure, rfl⟩
  · by_cases hsame : t = s
    · exact .inl ⟨_, if_pos hsame⟩
    · exact .inr ⟨rfl, hsame, if_neg hsame⟩

theorem savesBy_editShipment {P : Shipment → Shipment → Prop} {e : Shipment.Edit}
    (hP : ∀ s, (s.applyEdit e).1 = .ok () → s.edit e ≠ s → P s (s.edit e)) :
    (editShipment x e).SavesBy P x [] := by
  have hnone : (Call.findShipment x).saved? x = none := rfl
  refine ⟨fun t ht => absurd (hnone.symm.trans ht) (by simp), fun s hid => ?_⟩
  have hgiven : (Call.findShipment x).given? x s = some s := if_pos rfl
  rw [hgiven]
  change Work.SavesBy P x [s] (saveEdited e s)
  rcases saveEdited_cases e s with ⟨failure, hfail⟩ | ⟨hgone, hchanged, hsave⟩
  · rw [hfail]
    trivial
  · rw [hsave]
    refine ⟨fun t ht => ?_, fun _ _ => trivial⟩
    have hsaved : (Call.saveShipment (s.edit e)).saved? x = some (s.edit e) :=
      if_pos ((s.id_edit e).trans hid)
    obtain rfl : s.edit e = t := Option.some.inj (hsaved.symm.trans ht)
    exact ⟨s, List.mem_singleton_self s, hP s hgone hchanged⟩

theorem saves_editShipment (x : ShipmentId) (e : Shipment.Edit) :
    (editShipment x e).Saves x false := by
  intro s hid
  change Work.Saves x false (saveEdited e s)
  rcases saveEdited_cases e s with ⟨failure, hfail⟩ | ⟨-, -, hsave⟩
  · rw [hfail]
    trivial
  · rw [hsave]
    intro _ _
    have hsaved : (Call.saveShipment (s.edit e)).saved? x = some (s.edit e) :=
      if_pos ((s.id_edit e).trans hid)
    rw [hsaved]
    rfl

namespace Sample

/-- The shipment gets one edit through a gateway that passes every call on. -/
def editor (e : Shipment.Edit) : Job :=
  ⟨Unit, ⟨"edit_shipment", 1000, fun _ => none⟩, editShipment shipment.id e⟩

def address : Address := ⟨"2 Elm St", none, "Town", "CA", "90210", none⟩

def survey : Shipment.Edit := .survey {} default

def delivery : Shipment.Edit := .delivery true (some address)

def secondaryPickup : Shipment.Edit := .secondaryPickup true (some address)

/-- Both editors read the shipment. -/
def bothRead (e e' : Shipment.Edit) : List (Event Shipment.Edit) :=
  [.start e, .start e', .call 0, .call 1, .call 0, .call 1]

end Sample

/-- It is not so that of two edits at the same time at most one goes through:
here both do, and the second takes the address of the first away. -/
theorem an_address_can_be_overwritten :
    ¬ ∀ (ι : Type) (job : ι → Job) (x : ShipmentId),
      (∀ k, (job k).work.SavesBy (fun s t => s.EditedTo t ∧ t ≠ s) x [] ∧
        (job k).work.Saves x false) →
      ∀ (start : Store) (early late : List (Event ι)), (∀ e ∈ early ++ late, ∀ n, e ≠ .drop n) →
      ∀ (m n : Nat) (k l : ι), m ≠ n → (System.run job start early).HasRead m k x →
      (System.run job start early).HasRead n l x →
      ¬ ((System.run job start (early ++ late)).Committed m k ∧
        (System.run job start (early ++ late)).Committed n l) := by
  intro hclaim
  refine hclaim Shipment.Edit Sample.editor Sample.shipment.id ?_ Sample.store
    (Sample.bothRead Sample.delivery Sample.secondaryPickup)
    [.call 0, .call 0, .call 1, .call 1] ?_ 0 1 _ _ (by decide) ⟨_, _, rfl, rfl⟩ ⟨_, _, rfl, rfl⟩
    ⟨⟨(), rfl⟩, ⟨(), rfl⟩⟩
  · exact fun e => ⟨savesBy_editShipment fun s _ hchanged => ⟨⟨[e], rfl⟩, hchanged⟩,
      saves_editShipment _ e⟩
  · simp [Sample.bothRead]

/-- An address that comes at the same time as a survey is refused. -/
theorem an_address_is_refused_after_a_survey :
    (System.run Sample.editor Sample.store (Sample.bothRead Sample.survey Sample.delivery ++
        [.call 0, .call 0])).Committed 0 Sample.survey ∧
    ¬ (System.run Sample.editor Sample.store (Sample.bothRead Sample.survey Sample.delivery ++
        [.call 0, .call 0] ++ [.call 1, .call 1])).Committed 1 Sample.delivery := by
  have hfirst : (System.run Sample.editor Sample.store (Sample.bothRead Sample.survey
      Sample.delivery ++ [.call 0, .call 0])).Committed 0 Sample.survey := ⟨(), rfl⟩
  have hread : (System.run Sample.editor Sample.store (Sample.bothRead Sample.survey
      Sample.delivery ++ [.call 0, .call 0])).HasReadVersion 1 Sample.delivery
      Sample.shipment.id 0 := ⟨_, _, rfl, rfl⟩
  refine ⟨hfirst, a_counted_edit_is_not_overwritten Sample.editor Sample.shipment.id ?_ Sample.store
    _ _ _ ?_ 0 1 _ _ ⟨_, _, rfl, rfl⟩ ⟨_, _, rfl, rfl⟩ hfirst hread.not_committed ?_
    (saves_editShipment _ _) (saves_editShipment _ _)⟩
  · exact fun e => savesBy_editShipment fun s _ _ => ⟨[e], rfl⟩
  · simp [Sample.bothRead]
  · refine savesBy_editShipment fun s hgone _ => ⟨[], Sample.survey, [], ?_, rfl⟩
    exact congrArg Except.isOk hgone

end Relocation
