-- Units of work that find a shipment, edit it and save it. An accepted
-- operation and a survey count the version up, but a new address does not. So
-- a saved copy is never older than what was read first, and it is newer if
-- some edit counts.
import Relocation.Proofs.System

namespace Relocation

open Work (Ran)

/-! ## Edits of a shipment -/

namespace Shipment

/-- What may be done with a shipment that was found. -/
inductive Edit where
  | operation (op : ShipmentOperation) (now : Timestamp)
  | survey (patch : Survey) (now : Timestamp)
  | secondaryPickup (expected : Bool) (address : Option Address)
  | delivery (expected : Bool) (address : Option Address)
  | partialSitDelivery (expected : Bool) (address : Option Address)

section

variable [Build]

/-- The edit in place. -/
def applyEdit (s : Shipment) : Edit → Except Failure Unit × Shipment
  | .operation op now => ((s.perform op now).1.map fun _ => (), (s.perform op now).2)
  | .survey patch now => s.applySurvey patch now
  | .secondaryPickup expected address => (.ok (), s.setSecondaryPickup expected address)
  | .delivery expected address => (.ok (), s.setDelivery expected address)
  | .partialSitDelivery expected address => (.ok (), s.setPartialSitDelivery expected address)

/-- The shipment after an edit, also after one that fails. -/
def edit (s : Shipment) (e : Edit) : Shipment := (s.applyEdit e).2

def edits (s : Shipment) (es : List Edit) : Shipment := es.foldl edit s

/-- The edit is a survey or an operation, and it goes through. -/
def counts (s : Shipment) : Edit → Bool
  | .operation op now => (s.applyEdit (.operation op now)).1.isOk
  | .survey patch now => (s.applyEdit (.survey patch now)).1.isOk
  | .secondaryPickup _ _ => false
  | .delivery _ _ => false
  | .partialSitDelivery _ _ => false

variable {s : Shipment}

/-- An operation counts and changes what it is said to do in place. -/
theorem edit_of_perform {op : ShipmentOperation} {now : Timestamp} {t : Shipment}
    {result : Except Failure (Change ShipmentStatus)} (h : s.perform op now = (result, t)) :
    s.counts (.operation op now) = result.isOk ∧ s.edit (.operation op now) = t := by
  change ((s.perform op now).1.map fun _ => ()).isOk = _ ∧ (s.perform op now).2 = t
  rw [h]
  cases result <;> exact ⟨rfl, rfl⟩

/-- An operation that is refused leaves the shipment as it is. -/
theorem edit_of_refused {op : ShipmentOperation} (h : s.status ∉ op.starts) (now : Timestamp) :
    s.counts (.operation op now) = false ∧ s.edit (.operation op now) = s :=
  edit_of_perform (perform_of_notMem h)

theorem edit_of_performed {op : ShipmentOperation} (h : s.status ∈ op.starts)
    (hnext : Version.HasNext s.version) (now : Timestamp) :
    s.counts (.operation op now) = true ∧
      s.edit (.operation op now) = { s with
        status := op.target
        version := (s.version + 1) % Version.count
        updatedAt := now
        bookDate := if op = .award then s.bookDate.or (some now.date) else s.bookDate } :=
  edit_of_perform (perform_of_mem h hnext)

theorem edit_of_overflow {op : ShipmentOperation} (h : s.status ∈ op.starts)
    (hlast : ¬ Version.HasNext s.version) (now : Timestamp) :
    s.counts (.operation op now) = false ∧
      s.edit (.operation op now) = { s with status := op.target, updatedAt := now } :=
  edit_of_perform (perform_of_overflow h hlast)

theorem edit_of_after {s' : Shipment} {op : ShipmentOperation} {now : Timestamp}
    (h : s.after op now = .ok s') : s.edit (.operation op now) = s' := by
  obtain ⟨hstarts, hnext, rfl⟩ := after_eq_ok.mp h
  exact (edit_of_performed hstarts hnext now).2

/-- A survey is recorded, whether or not the version can be counted up. -/
theorem edit_survey (s : Shipment) (patch : Survey) (now : Timestamp) :
    s.counts (.survey patch now) = decide (Version.HasNext s.version) ∧
      s.edit (.survey patch now) = { s with
        survey := s.survey.update patch
        version := if Version.HasNext s.version then (s.version + 1) % Version.count else s.version
        updatedAt := now } := by
  change (s.applySurvey patch now).1.isOk = _ ∧ (s.applySurvey patch now).2 = _
  by_cases h : Version.HasNext s.version
  · rw [applySurvey_of_hasNext h, if_pos h, decide_eq_true h]
    exact ⟨rfl, rfl⟩
  · rw [applySurvey_of_overflow h, if_neg h, decide_eq_false h]
    exact ⟨rfl, rfl⟩

theorem id_edit (s : Shipment) (e : Edit) : (s.edit e).id = s.id := by
  cases e with
  | operation op now =>
    by_cases hstarts : s.status ∈ op.starts
    · by_cases hnext : Version.HasNext s.version
      · rw [(edit_of_performed hstarts hnext now).2]
      · rw [(edit_of_overflow hstarts hnext now).2]
    · rw [(edit_of_refused hstarts now).2]
  | survey patch now => rw [(edit_survey s patch now).2]
  | secondaryPickup expected address => rfl
  | delivery expected address => rfl
  | partialSitDelivery expected address => rfl

/-- Only where there is a next version, an edit counts. -/
theorem hasNext_of_counts {e : Edit} (h : s.counts e = true) : Version.HasNext s.version := by
  refine Decidable.byContradiction fun hlast => ?_
  cases e with
  | operation op now =>
    by_cases hstarts : s.status ∈ op.starts
    · rw [(edit_of_overflow hstarts hlast now).1] at h
      cases h
    · rw [(edit_of_refused hstarts now).1] at h
      cases h
  | survey patch now =>
    rw [(edit_survey s patch now).1, decide_eq_false hlast] at h
    cases h
  | secondaryPickup expected address => cases h
  | delivery expected address => cases h
  | partialSitDelivery expected address => cases h

/-- Exactly the edits that count change the version. -/
theorem version_edit (s : Shipment) (e : Edit) : (s.edit e).version =
    if s.counts e then (s.version + 1) % Version.count else s.version := by
  cases e with
  | operation op now =>
    by_cases hstarts : s.status ∈ op.starts
    · by_cases hnext : Version.HasNext s.version
      · obtain ⟨hcounts, hedit⟩ := edit_of_performed hstarts hnext now
        rw [hcounts, hedit, if_pos rfl]
      · obtain ⟨hcounts, hedit⟩ := edit_of_overflow hstarts hnext now
        rw [hcounts, hedit]
        rfl
    · obtain ⟨hcounts, hedit⟩ := edit_of_refused hstarts now
      rw [hcounts, hedit]
      rfl
  | survey patch now =>
    obtain ⟨hcounts, hedit⟩ := edit_survey s patch now
    rw [hcounts, hedit]
    simp
  | secondaryPickup expected address => rfl
  | delivery expected address => rfl
  | partialSitDelivery expected address => rfl

end

/-! ### With checks -/

/-- Exactly the edits that count raise the version. -/
theorem version_edit_eq_add (s : Shipment) (e : Edit) :
    (s.edit e).version = s.version + (s.counts e).toNat := by
  rw [version_edit]
  rcases hcounts : s.counts e
  · rfl
  · exact Version.succ_eq_of_hasNext (hasNext_of_counts hcounts)

/-- `t` is what edits make of `s`. -/
def EditedTo (s t : Shipment) : Prop := ∃ es, t = s.edits es

/-- `t` is what edits make of `s`, and one of them counts. -/
def CountedChange (s t : Shipment) : Prop :=
  ∃ es e es', (s.edits es).counts e = true ∧ t = s.edits (es ++ e :: es')

theorem EditedTo.version_le {s t : Shipment} (h : s.EditedTo t) : s.version ≤ t.version := by
  obtain ⟨es, rfl⟩ := h
  induction es generalizing s with
  | nil => exact Nat.le_refl _
  | cons e es ih =>
    have hedit : s.version ≤ (s.edit e).version := by rw [version_edit_eq_add]; omega
    exact Nat.le_trans hedit (ih (s := s.edit e))

theorem CountedChange.version_lt {s t : Shipment} (h : s.CountedChange t) :
    s.version < t.version := by
  obtain ⟨es, e, es', hcounts, rfl⟩ := h
  have hbefore : s.version ≤ (s.edits es).version := EditedTo.version_le ⟨es, rfl⟩
  have hat : ((s.edits es).edit e).version = (s.edits es).version + 1 := by
    rw [version_edit_eq_add, hcounts]
    rfl
  have hafter : ((s.edits es).edit e).version ≤ (((s.edits es).edit e).edits es').version :=
    EditedTo.version_le ⟨es', rfl⟩
  have hsplit : s.edits (es ++ e :: es') = ((s.edits es).edit e).edits es' := by
    simp [edits]
  rw [hsplit]
  omega

end Shipment

/-! ## Units that edit one shipment -/

/-- The copy of the shipment `x` that a reply gives. -/
def Call.given? (x : ShipmentId) : (c : Call) → c.Reply → Option Shipment
  | .findShipment y, s => if y = x then some s else none
  | _, _ => none

/-- A shipment that is found has the id that was asked for. -/
def Call.MayGive : (c : Call) → c.Reply → Prop
  | .findShipment y, s => s.id = y
  | _, _ => True

/-- The copy of the shipment `x` that a call is to save. -/
def Call.saved? (x : ShipmentId) : Call → Option Shipment
  | .saveShipment s => if s.id = x then some s else none
  | _ => none

/-- The unit only saves what `P` relates to a copy of the shipment `x` that it
has found. `held` are the copies it has found so far. -/
def Work.SavesBy {α : Type} (P : Shipment → Shipment → Prop) (x : ShipmentId) :
    List Shipment → Work α → Prop
  | _, .done _ => True
  | _, .fail _ => True
  | held, .call c next =>
    (∀ t, c.saved? x = some t → ∃ s ∈ held, P s t) ∧
      ∀ reply, c.MayGive reply → SavesBy P x ((c.given? x reply).toList ++ held) (next reply)

/-- The unit has saved the shipment `x` when it is done. `saved` says if it has
done so already. -/
def Work.Saves {α : Type} (x : ShipmentId) : Bool → Work α → Prop
  | saved, .done _ => saved = true
  | _, .fail _ => True
  | saved, .call c next =>
    ∀ reply, c.MayGive reply → Saves x (saved || (c.saved? x).isSome) (next reply)

/-- The version of the shipment `x` does not go down. -/
def Store.Upward (x : ShipmentId) (S S' : Store) : Prop :=
  ∀ {s}, S.shipment? x = some s → ∃ s', S'.shipment? x = some s' ∧ s.version ≤ s'.version

theorem Store.Upward.trans {x : ShipmentId} {S T S' : Store} (h : S.Upward x T)
    (h' : T.Upward x S') : S.Upward x S' := by
  intro s hs
  obtain ⟨t, ht, hle⟩ := h hs
  obtain ⟨s', hs', hle'⟩ := h' ht
  exact ⟨s', hs', Nat.le_trans hle hle'⟩

theorem Store.upward_of_calm {x : ShipmentId} {S S' : Store} (h : S'.calm = S.calm) :
    S.Upward x S' := by
  intro s hs
  refine ⟨s, ?_, Nat.le_refl _⟩
  rw [shipment?, (same_of_calm h).1]
  exact hs

/-! ## What a transaction has read and staged -/

namespace Transaction

variable {tx tx' : Transaction} {S T : Store} {x : ShipmentId} {d : Nat} {held : List Shipment}

/-- The version that was read first stays. -/
theorem readShipment?_saw (tx : Transaction) (s : Shipment) (x : ShipmentId) :
    (tx.sawShipment s).readShipment? x =
      (tx.readShipment? x).or (if s.id = x then some s.version else none) := by
  unfold readShipment? sawShipment
  rw [Table.find?_insertNew]
  rcases tx.shipmentVersions.find? x with _ | v
  · by_cases hid : s.id = x <;> simp [hid]
  · rfl

theorem find?_stageShipment (tx : Transaction) (s : Shipment) (x : ShipmentId) :
    (tx.stageShipment s).shipments.find? x =
      if s.id = x then some s else tx.shipments.find? x :=
  Table.find?_insert tx.shipments s x

/-- What a transaction holds of the shipment `x` is not older than what it
read first, and what it has staged has a version higher by `d` at least. -/
structure Keeps (tx : Transaction) (x : ShipmentId) (d : Nat) (S : Store) (held : List Shipment) :
    Prop where
  stored : ∀ {v}, tx.readShipment? x = some v → ∃ s, S.shipment? x = some s ∧ v ≤ s.version
  held : ∀ {s}, s ∈ held → ∃ v, tx.readShipment? x = some v ∧ v ≤ s.version
  staged : ∀ {t}, tx.shipments.find? x = some t →
    ∃ v, tx.readShipment? x = some v ∧ v + d ≤ t.version

theorem keeps_begin : begin.Keeps x d S [] where
  stored h := by cases h
  held h := by cases h
  staged h := by cases h

theorem Keeps.later (h : tx.Keeps x d S held) (later : S.Upward x T) :
    tx.Keeps x d T held where
  stored hv := by
    obtain ⟨s, hs, hle⟩ := h.stored hv
    obtain ⟨t, ht, hle'⟩ := later hs
    exact ⟨t, ht, Nat.le_trans hle hle'⟩
  held := h.held
  staged := h.staged

/-- A call that is not about shipments. -/
theorem Keeps.of_same (h : tx.Keeps x d S held) (hs : tx'.shipments = tx.shipments)
    (hv : tx'.shipmentVersions = tx.shipmentVersions) : tx'.Keeps x d S held := by
  obtain ⟨hstored, hheld, hstaged⟩ := h
  unfold readShipment? at hstored hheld hstaged
  rw [← hv] at hstored hheld hstaged
  rw [← hs] at hstaged
  exact ⟨hstored, hheld, hstaged⟩

/-- A copy that is found is the staged one or the stored one. -/
theorem Keeps.found (h : tx.Keeps x d S held) {y : ShipmentId} {s : Shipment}
    (hfind : tx.findShipment S y = .ok (s, tx')) {held' : List Shipment}
    (hheld' : ∀ t ∈ held', (y = x ∧ t = s) ∨ t ∈ held) : tx'.Keeps x d S held' := by
  rcases findShipment_cases hfind with ⟨hstaged, rfl⟩ | ⟨hs, rfl⟩
  · refine ⟨h.stored, ?_, h.staged⟩
    intro t ht
    rcases hheld' t ht with ⟨rfl, rfl⟩ | ht
    · obtain ⟨v, hv, hle⟩ := h.staged hstaged
      exact ⟨v, hv, by omega⟩
    · exact h.held ht
  · obtain rfl : s.id = y := Table.key_of_find? hs
    have hread : ∀ {v}, tx.readShipment? x = some v →
        (tx.sawShipment s).readShipment? x = some v := by
      intro v hv
      rw [readShipment?_saw, hv, Option.some_or]
    refine ⟨?_, ?_, ?_⟩
    · intro v hv
      rcases hold : tx.readShipment? x with _ | w
      · rw [readShipment?_saw, hold, Option.none_or] at hv
        obtain ⟨rfl, rfl⟩ : s.id = x ∧ s.version = v := by simpa using hv
        exact ⟨s, hs, Nat.le_refl _⟩
      · obtain rfl : w = v := Option.some.inj ((hread hold).symm.trans hv)
        exact h.stored hold
    · intro t ht
      rcases hheld' t ht with ⟨rfl, rfl⟩ | ht
      · rcases hold : tx.readShipment? t.id with _ | w
        · exact ⟨t.version, by simp [readShipment?_saw, hold], Nat.le_refl _⟩
        · obtain ⟨u, hu, hle⟩ := h.stored hold
          obtain rfl : u = t := Option.some.inj (hu.symm.trans hs)
          exact ⟨w, hread hold, hle⟩
      · obtain ⟨v, hv, hle⟩ := h.held ht
        exact ⟨v, hread hv, hle⟩
    · intro t ht
      obtain ⟨v, hv, hle⟩ := h.staged ht
      exact ⟨v, hread hv, hle⟩

/-- What is saved is higher by `d` than a copy that was found. -/
theorem Keeps.saves (h : tx.Keeps x d S held) {t : Shipment}
    (ht : t.id = x → ∃ s ∈ held, s.version + d ≤ t.version) :
    (tx.stageShipment t).Keeps x d S held where
  stored := h.stored
  held := h.held
  staged {u} hu := by
    rw [find?_stageShipment] at hu
    by_cases hid : t.id = x
    · rw [if_pos hid, Option.some.injEq] at hu
      subst hu
      obtain ⟨s, hs, hd⟩ := ht hid
      obtain ⟨v, hv, hle⟩ := h.held hs
      exact ⟨v, hv, by omega⟩
    · rw [if_neg hid] at hu
      exact h.staged hu

/-- A unit that saves by `P` keeps its transaction so, call by call. -/
theorem Keeps.answer {P : Shipment → Shipment → Prop}
    (hP : ∀ {s t}, P s t → s.version + d ≤ t.version) (h : tx.Keeps x d S held) {c : Call}
    {reply : c.Reply} (hsaves : ∀ t, c.saved? x = some t → ∃ s ∈ held, P s t)
    (hanswer : tx.answer S c = .ok (reply, tx')) :
    tx'.Keeps x d S ((c.given? x reply).toList ++ held) := by
  cases c with
  | findShipment y =>
    refine h.found hanswer fun t ht => ?_
    by_cases hy : y = x
    · simpa [Call.given?, hy] using ht
    · exact .inr (by simpa [Call.given?, hy] using ht)
  | saveShipment t =>
    obtain ⟨-, rfl⟩ := answer_saveShipment.mp hanswer
    refine h.saves fun hid => ?_
    obtain ⟨s, hs, hst⟩ := hsaves t (if_pos hid)
    exact ⟨s, hs, hP hst⟩
  | findOffers p y =>
    cases hanswer
    exact h.of_same rfl rfl
  | findAgents y =>
    cases hanswer
    exact h.of_same rfl rfl
  | saveOffer o =>
    obtain ⟨-, rfl⟩ := answer_saveOffer.mp hanswer
    exact h.of_same rfl rfl
  | saveAgent a =>
    obtain ⟨-, rfl⟩ := answer_saveAgent.mp hanswer
    exact h.of_same rfl rfl

/-- Nothing but a call that saves the shipment stages it. -/
theorem isSome_staged_answer {c : Call} {reply : c.Reply} (h : tx.answer S c = .ok (reply, tx')) :
    (tx'.shipments.find? x).isSome =
      ((tx.shipments.find? x).isSome || (c.saved? x).isSome) := by
  cases c with
  | findShipment y =>
    rcases findShipment_cases h with ⟨-, rfl⟩ | ⟨-, rfl⟩
    · exact (Bool.or_false _).symm
    · exact (Bool.or_false _).symm
  | saveShipment t =>
    obtain ⟨-, rfl⟩ := answer_saveShipment.mp h
    rw [find?_stageShipment]
    by_cases hid : t.id = x <;> simp [Call.saved?, hid]
  | findOffers p y =>
    cases h
    exact (Bool.or_false _).symm
  | findAgents y =>
    cases h
    exact (Bool.or_false _).symm
  | saveOffer o =>
    obtain ⟨-, rfl⟩ := answer_saveOffer.mp h
    exact (Bool.or_false _).symm
  | saveAgent a =>
    obtain ⟨-, rfl⟩ := answer_saveAgent.mp h
    exact (Bool.or_false _).symm

/-- What is replied may be replied. -/
theorem mayGive_of_answer {c : Call} {reply : c.Reply} (h : tx.answer S c = .ok (reply, tx')) :
    c.MayGive reply := by
  cases c with
  | findShipment y =>
    rcases findShipment_cases h with ⟨hs, -⟩ | ⟨hs, -⟩
    · exact Table.key_of_find? hs
    · exact Table.key_of_find? hs
  | findOffers p y => trivial
  | saveShipment s => trivial
  | saveOffer o => trivial
  | saveAgent a => trivial
  | findAgents y => trivial

/-- A transaction that commits has read its shipment as it is stored, and
writes a version higher by `d`. -/
theorem Keeps.of_current (h : tx.Keeps x d S held) (hcur : tx.Current S) {t : Shipment}
    (ht : tx.shipments.find? x = some t) :
    ∃ s, S.shipment? x = some s ∧ tx.readShipment? x = some s.version ∧
      s.version + d ≤ t.version := by
  obtain ⟨hmem, rfl⟩ := (Table.find?_eq_some_iff _ _ _).mp ht
  obtain ⟨v, hv, hle⟩ := h.staged ht
  have hread := hcur.shipments t hmem
  rw [hv] at hread
  obtain ⟨s, hs, rfl⟩ := Option.map_eq_some_iff.mp hread.symm
  exact ⟨s, hs, hv, hle⟩

theorem shipment?_apply (tx : Transaction) (S : Store) (x : ShipmentId) :
    (tx.apply S).shipment? x = (tx.shipments.find? x).or (S.shipment? x) :=
  Table.find?_insertAll S.shipments tx.shipments.distinct x

theorem Keeps.upward_apply (h : tx.Keeps x d S held) (hcur : tx.Current S) :
    S.Upward x (tx.apply S) := by
  intro s hs
  rw [shipment?_apply]
  rcases ht : tx.shipments.find? x with _ | t
  · exact ⟨s, by rw [Option.none_or, hs], Nat.le_refl _⟩
  · obtain ⟨s', hs', -, hle⟩ := h.of_current hcur ht
    obtain rfl : s = s' := Option.some.inj (hs.symm.trans hs')
    exact ⟨t, rfl, by omega⟩

end Transaction

/-! ## Units that keep to it -/

section

variable {α : Type} {P : Shipment → Shipment → Prop} {x : ShipmentId} {d : Nat} {g : Gateway}
  {w w₀ : Work α} {S S' : Store} {tx tx' : Transaction} {a : α}

theorem Work.Ran.keeps (hP : ∀ {s t}, P s t → s.version + d ≤ t.version)
    (h : Ran (Store.Upward x) g w S tx S' tx' a) {held : List Shipment}
    (hw : w.SavesBy P x held) (hk : tx.Keeps x d S held) :
    ∃ held', tx'.Keeps x d S' held' := by
  induction h generalizing held with
  | done => exact ⟨held, hk⟩
  | call later passed answered rest ih =>
    exact ih (hw.2 _ (Transaction.mayGive_of_answer answered))
      ((hk.later later).answer hP hw.1 answered)

theorem Work.Reached.keeps (hP : ∀ {s t}, P s t → s.version + d ≤ t.version)
    (h : Work.Reached (Store.Upward x) g w₀ S tx w) (hw : w₀.SavesBy P x []) :
    ∃ held, w.SavesBy P x held ∧ tx.Keeps x d S held := by
  induction h with
  | start passed => exact ⟨[], hw, Transaction.keeps_begin⟩
  | call before later passed answered ih =>
    obtain ⟨held, ⟨hsaves, hnext⟩, hk⟩ := ih
    exact ⟨_, hnext _ (Transaction.mayGive_of_answer answered),
      (hk.later later).answer hP hsaves answered⟩

/-- A unit that saves the shipment has it staged when it is done. -/
theorem Work.Reached.saves (h : Work.Reached (Store.Upward x) g w₀ S tx w)
    (hw : w₀.Saves x false) : w.Saves x (tx.shipments.find? x).isSome := by
  induction h with
  | start passed => exact hw
  | call before later passed answered ih =>
    rw [Transaction.isSome_staged_answer answered]
    exact ih _ (Transaction.mayGive_of_answer answered)

/-- Where all units save nothing but edits of the shipment `x`, its version never goes down. -/
theorem guarantee_of_edits {ι : Type} {job : ι → Job}
    (hjobs : ∀ k, (job k).work.SavesBy Shipment.EditedTo x []) :
    Guarantee job (Store.Upward x) where
  calm := Store.upward_of_calm
  trans := Store.Upward.trans
  commit {k} _ _ _ _ _ hran later hcur := by
    obtain ⟨held, hk⟩ := hran.keeps (d := 0) Shipment.EditedTo.version_le (hjobs k)
      Transaction.keeps_begin
    exact (hk.later later).upward_apply hcur

end

end Relocation
