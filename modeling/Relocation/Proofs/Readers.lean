-- What a transaction sees that only reads. It reads the offers of a provider
-- and the shipment at two moments. Its commit compares nothing, for it has
-- staged nothing, so it goes through even if what it read was never in one
-- store: a commit between the two reads may have changed both.
import Relocation.Proofs.System

namespace Relocation

variable {α β : Type} {S S' T : Store}

/-! ## A reader -/

/-- Which of the two is read first. -/
inductive ReadOrder where
  | offersFirst
  | shipmentFirst
deriving DecidableEq

/-- A transaction reads the offers of the provider and the shipment, one of
them on the store `S` and the other on the store `T` after it. -/
def ReadOrder.readPair (order : ReadOrder) (p : ProviderId) (x : ShipmentId) (S T : Store) :
    Except Failure (List Offer × Shipment × Transaction) :=
  match order with
  | .offersFirst => do
    let (os, tx) := Transaction.begin.findOffers S p x
    let (s, tx) ← tx.findShipment T x
    .ok (os, s, tx)
  | .shipmentFirst => do
    let (s, tx) ← Transaction.begin.findShipment S x
    let (os, tx) := tx.findOffers T p x
    .ok (os, s, tx)

/-- What is read comes from the two stores, and nothing is staged. -/
theorem ReadOrder.readPair_eq_ok {order : ReadOrder} {p : ProviderId} {x : ShipmentId}
    {os : List Offer} {s : Shipment} {tx : Transaction}
    (h : order.readPair p x S T = .ok (os, s, tx)) :
    tx.Unstaged ∧ match order with
      | .offersFirst => S.linked p x = os ∧ T.shipment? x = some s
      | .shipmentFirst => S.shipment? x = some s ∧ T.linked p x = os := by
  cases order with
  | offersFirst =>
    have hoffers : Transaction.begin.findOffers S p x =
        (S.linked p x, Transaction.begin.sawOffers (S.linked p x)) :=
      Transaction.findOffers_of_unstaged S p x rfl
    simp only [readPair, hoffers] at h
    obtain ⟨⟨t, tx'⟩, hfind, hpair⟩ := bind_eq_ok.mp h
    obtain ⟨hs, rfl⟩ := (Transaction.findShipment_of_unstaged rfl).mp hfind
    cases hpair
    exact ⟨⟨rfl, rfl, rfl⟩, rfl, hs⟩
  | shipmentFirst =>
    obtain ⟨⟨s, tx⟩, hfind, hpair⟩ := bind_eq_ok.mp h
    obtain ⟨hs, rfl⟩ := (Transaction.findShipment_of_unstaged rfl).mp hfind
    have hoffers : (Transaction.begin.sawShipment s).findOffers T p x =
        (T.linked p x, (Transaction.begin.sawShipment s).sawOffers (T.linked p x)) :=
      Transaction.findOffers_of_unstaged T p x rfl
    simp only [hoffers] at hpair
    cases hpair
    exact ⟨⟨rfl, rfl, rfl⟩, hs, rfl⟩

/-- A commit with nothing to write has nothing to compare. -/
theorem Transaction.commit_of_unstaged {tx : Transaction} (h : tx.Unstaged) (S : Store) :
    (tx.commit S).1 = .ok () ↔ S.nextFailure = none := by
  have hcurrent : tx.Current S := by
    obtain ⟨hs, ho, ha⟩ := h
    exact ⟨by simp [hs], by simp [ho], by simp [ha]⟩
  have hcommit : (tx.commit S).1 = .ok () ↔ ∃ S', tx.commit S = (.ok (), S') :=
    ⟨fun h => ⟨_, Prod.ext h rfl⟩, fun ⟨S', h⟩ => by rw [h]⟩
  simp [hcommit, commit_eq_ok, hcurrent]

/-! ## What changes and never comes back -/

/-- What is seen of a store is not seen again once it has changed. -/
def NeverReturns (view : Store → α) : Prop :=
  ∀ {S T S'}, S.Later T → T.Later S' → view S = view S' → view T = view S

/-- A record that only moves up, and is back where it was, has not moved. -/
theorem unmoved_of_back {version : α → Nat} {a b : α} (up : b = a ∨ version a < version b)
    (back : a = b ∨ version b < version a) : b = a := by
  rcases up with heq | hlt
  · exact heq
  · rcases back with heq | hlt'
    · exact heq.symm
    · omega

theorem neverReturns_shipment? (x : ShipmentId) : NeverReturns (·.shipment? x) := by
  intro S T S' h h' heq
  dsimp only at heq ⊢
  rcases hs : S.shipment? x with _ | s
  · rcases ht : T.shipment? x with _ | t
    · rfl
    · obtain ⟨s', hs', -⟩ := h'.shipment ht
      rw [← heq, hs] at hs'
      cases hs'
  · obtain ⟨t, ht, hst⟩ := h.shipment hs
    obtain ⟨s', hs', hts⟩ := h'.shipment ht
    obtain rfl : s = s' := by simpa [← heq, hs] using hs'
    rw [ht, unmoved_of_back hst hts]

/-- The ids of the offers tell the offers. -/
theorem Store.map_some_linked (S : Store) (p : ProviderId) (x : ShipmentId) :
    (S.linked p x).map some = ((S.linked p x).map Offer.id).map S.offer? := by
  rw [List.map_map]
  refine List.map_congr_left fun o ho => ?_
  exact (mem_linked.mp ho).1.symm

theorem neverReturns_linked (p : ProviderId) (x : ShipmentId) : NeverReturns (·.linked p x) := by
  intro S T S' h h' heq
  dsimp only at heq ⊢
  have hids : (T.linked p x).map Offer.id = (S.linked p x).map Offer.id := by
    rcases h.linked p x with hsame | ⟨hnone, hone, -⟩
    · exact hsame
    · rcases h'.linked p x with hsame' | ⟨hnone', -, -⟩
      · rw [← hsame', heq]
      · rw [hnone', hnone]
  -- An offer that is the same at both ends is the same in between.
  have hoffers : ∀ i ∈ (S.linked p x).map Offer.id, T.offer? i = S.offer? i := by
    intro i hi
    obtain ⟨o, ho, rfl⟩ := List.mem_map.mp hi
    have ho' : S'.offer? o.id = some o := (Store.mem_linked.mp (heq ▸ ho)).1
    rw [(Store.mem_linked.mp ho).1]
    obtain ⟨t, ht, hot⟩ := h.offer (Store.mem_linked.mp ho).1
    obtain ⟨o', hfound, hto⟩ := h'.offer ht
    obtain rfl : o = o' := by simpa [ho'] using hfound
    rw [ht, unmoved_of_back hot hto]
  have hsome : (T.linked p x).map some = (S.linked p x).map some := by
    rw [T.map_some_linked p x, S.map_some_linked p x, hids]
    exact List.map_congr_left hoffers
  exact (List.map_inj_right fun _ _ => Option.some.inj).mp hsome

/-! ## Two reads in one store -/

/-- The store after the tasks' events. -/
def storeAfter (start : Store) (events : List (Event Task)) : Store :=
  (System.run Task.job start events).store

theorem later_storeAfter (start : Store) {l l' : List (Event Task)} (h : l <+: l') :
    (storeAfter start l).Later (storeAfter start l') := by
  obtain ⟨events, rfl⟩ := h
  unfold storeAfter
  rw [System.run_append]
  refine (System.sound_run Task.guarantee start l).preserves Task.guarantee
    (I := fun sys => (storeAfter start l).Later sys.store) (.refl _) events ?_
  exact fun h hleads => h.trans (hleads.later Task.guarantee)

/-- Between the two reads an event has changed what was read first, when what
was read second was still to change. -/
def Overtaken (first : Store → α) (second : Store → β) (start : Store)
    (before between : List (Event Task)) : Prop :=
  ∃ l₁ e l₂, between = l₁ ++ e :: l₂ ∧
    first (storeAfter start (before ++ l₁ ++ [e])) ≠ first (storeAfter start (before ++ l₁)) ∧
    second (storeAfter start (before ++ l₁)) ≠ second (storeAfter start (before ++ between))

section

variable {first : Store → α} {second : Store → β} {start : Store}
  {before between later : List (Event Task)}

/-- A reader that is overtaken has seen what was never there together. -/
theorem Overtaken.never_together (hfirst : NeverReturns first) (hsecond : NeverReturns second)
    (h : Overtaken first second start before between) {events : List (Event Task)}
    (hevents : events <+: before ++ between ++ later)
    (heq : first (storeAfter start events) = first (storeAfter start before)) :
    second (storeAfter start events) ≠ second (storeAfter start (before ++ between)) := by
  obtain ⟨l₁, e, l₂, rfl, hchanged, hearly⟩ := h
  intro heq'
  have hsplit : before ++ (l₁ ++ e :: l₂) ++ later = before ++ l₁ ++ [e] ++ (l₂ ++ later) := by simp
  rw [hsplit] at hevents
  rcases Nat.lt_or_ge (before ++ l₁).length events.length with hlong | hshort
  · -- What was read first had changed before that moment.
    have hpast : before ++ l₁ ++ [e] <+: events :=
      List.prefix_of_prefix_length_le (List.prefix_append _ _) hevents (by
        rw [List.length_append, List.length_singleton]
        exact hlong)
    have hback : first (storeAfter start before) = first (storeAfter start events) := heq.symm
    have hstart : before <+: before ++ l₁ := List.prefix_append _ _
    have hstep : before ++ l₁ <+: before ++ l₁ ++ [e] := List.prefix_append _ _
    have hl₁ := hfirst (later_storeAfter start hstart)
      (later_storeAfter start (hstep.trans hpast)) hback
    have he := hfirst (later_storeAfter start (hstart.trans hstep))
      (later_storeAfter start hpast) hback
    exact hchanged (he.trans hl₁.symm)
  · -- What was read second was still to change at that moment.
    have hpast : events <+: before ++ l₁ :=
      List.prefix_of_prefix_length_le hevents ⟨[e] ++ (l₂ ++ later), by simp⟩ hshort
    have hrest : before ++ l₁ <+: before ++ (l₁ ++ e :: l₂) := ⟨e :: l₂, by simp⟩
    have hl₁ := hsecond (later_storeAfter start hpast) (later_storeAfter start hrest) heq'
    exact hearly (hl₁.trans heq')

/-- As long as what was read first stays, a reader that is not overtaken comes
to a moment that has what it read second too. -/
theorem together_from (h : ¬ Overtaken first second start before between)
    {l₁ l₂ : List (Event Task)} (hsplit : between = l₁ ++ l₂)
    (hsame : first (storeAfter start (before ++ l₁)) = first (storeAfter start before)) :
    ∃ l, l <+: between ∧
      first (storeAfter start (before ++ l)) = first (storeAfter start before) ∧
      second (storeAfter start (before ++ l)) = second (storeAfter start (before ++ between)) := by
  induction l₂ generalizing l₁ with
  | nil =>
    rw [List.append_nil] at hsplit
    exact ⟨between, List.prefix_rfl, hsplit ▸ hsame, rfl⟩
  | cons e l₂ ih =>
    by_cases harrived : second (storeAfter start (before ++ l₁)) =
        second (storeAfter start (before ++ between))
    · exact ⟨l₁, ⟨e :: l₂, hsplit.symm⟩, hsame, harrived⟩
    · have hstays : first (storeAfter start (before ++ l₁ ++ [e])) =
          first (storeAfter start (before ++ l₁)) :=
        Classical.byContradiction fun hchanged => h ⟨l₁, e, l₂, hsplit, hchanged, harrived⟩
      rw [List.append_assoc] at hstays
      have hsplit' : between = (l₁ ++ [e]) ++ l₂ := by simp [hsplit]
      exact ih hsplit' (hstays.trans hsame)

/-- What is read at two moments was in one store of the run exactly if the
reader is not overtaken. -/
theorem together_iff (hfirst : NeverReturns first) (hsecond : NeverReturns second)
    (later : List (Event Task)) :
    (∃ events, events <+: before ++ between ++ later ∧
      first (storeAfter start events) = first (storeAfter start before) ∧
      second (storeAfter start events) = second (storeAfter start (before ++ between))) ↔
    ¬ Overtaken first second start before between := by
  constructor
  · rintro ⟨events, hevents, heq, heq'⟩ hovertaken
    exact hovertaken.never_together hfirst hsecond hevents heq heq'
  · intro h
    have hsplit : between = [] ++ between := rfl
    obtain ⟨l, ⟨rest, hrest⟩, heq, heq'⟩ := together_from h hsplit (by rw [List.append_nil])
    exact ⟨before ++ l, ⟨rest ++ later, by simp [← hrest]⟩, heq, heq'⟩

end

/-! ## Readers and the coordinator -/

/-- The reader is overtaken between its two reads. -/
def ReadOrder.PairOvertaken (order : ReadOrder) (p : ProviderId) (x : ShipmentId) (start : Store)
    (before between : List (Event Task)) : Prop :=
  match order with
  | .offersFirst => Overtaken (·.linked p x) (·.shipment? x) start before between
  | .shipmentFirst => Overtaken (·.shipment? x) (·.linked p x) start before between

/-- The commit of a reader goes through unless a failure is set for it. What it
read was in one store of the run exactly if it is not overtaken between its reads. -/
theorem a_reader_sees_one_store_unless_overtaken (start : Store)
    (before between later : List (Event Task)) (order : ReadOrder) (p : ProviderId)
    (x : ShipmentId) (os : List Offer) (s : Shipment) (tx : Transaction)
    (hread : order.readPair p x (storeAfter start before) (storeAfter start (before ++ between)) =
      .ok (os, s, tx)) :
    ((tx.commit (storeAfter start (before ++ between ++ later))).1 = .ok () ↔
      (storeAfter start (before ++ between ++ later)).nextFailure = none) ∧
    ((∃ events, events <+: before ++ between ++ later ∧ (storeAfter start events).linked p x = os ∧
        (storeAfter start events).shipment? x = some s) ↔
      ¬ order.PairOvertaken p x start before between) := by
  obtain ⟨hunstaged, hfound⟩ := ReadOrder.readPair_eq_ok hread
  refine ⟨Transaction.commit_of_unstaged hunstaged _, ?_⟩
  cases order with
  | offersFirst =>
    obtain ⟨rfl, hs⟩ := hfound
    rw [← hs]
    exact together_iff (neverReturns_linked p x) (neverReturns_shipment? x) later
  | shipmentFirst =>
    obtain ⟨hs, rfl⟩ := hfound
    rw [← hs]
    refine Iff.trans ?_ (together_iff (neverReturns_shipment? x) (neverReturns_linked p x) later)
    simp only [and_comm]

/-! ### A reader that is overtaken -/

/-- The shipment is awarded. -/
def Sample.awardEvents : List (Event Task) :=
  .start (Sample.task (.awardTo Sample.shipment.id ⟨Sample.uuid 3⟩) (Sample.uuid 4)) ::
    List.replicate 6 (.call 0)

/-- The provider takes the shipment. -/
def Sample.acceptEvents : List (Event Task) :=
  .start (Sample.task (.accept ⟨Sample.uuid 3⟩ Sample.shipment.id)) :: List.replicate 6 (.call 1)

/-- The acceptance changes both records in one commit. -/
theorem Sample.overtaken :
    Overtaken (·.linked ⟨Sample.uuid 3⟩ Sample.shipment.id) (·.shipment? Sample.shipment.id)
      Sample.store Sample.awardEvents Sample.acceptEvents :=
  ⟨Sample.acceptEvents.dropLast, .call 1, [], rfl, by decide, by decide⟩

/-- It is not so that what a reader saw was in one store if its commit goes
through: here it sees the pending offer of an accepted shipment. -/
theorem a_reader_can_see_half_of_an_acceptance :
    ¬ ∀ (start : Store) (before between later : List (Event Task)) (order : ReadOrder)
        (p : ProviderId) (x : ShipmentId) (os : List Offer) (s : Shipment) (tx : Transaction),
      order.readPair p x (storeAfter start before) (storeAfter start (before ++ between)) =
        .ok (os, s, tx) →
      (tx.commit (storeAfter start (before ++ between ++ later))).1 = .ok () →
      ∃ events, events <+: before ++ between ++ later ∧
        (storeAfter start events).linked p x = os ∧
        (storeAfter start events).shipment? x = some s := by
  intro hclaim
  obtain ⟨events, hevents, hoffers, hshipment⟩ := hclaim Sample.store Sample.awardEvents
    Sample.acceptEvents [] .offersFirst ⟨Sample.uuid 3⟩ Sample.shipment.id _ _ _ rfl rfl
  exact Sample.overtaken.never_together (neverReturns_linked _ _) (neverReturns_shipment? _)
    hevents hoffers hshipment

/-- The commit goes through, though what was read was never in one store. -/
theorem the_reader_was_overtaken :
    ∃ os s tx, ReadOrder.readPair .offersFirst ⟨Sample.uuid 3⟩ Sample.shipment.id
        (storeAfter Sample.store Sample.awardEvents)
        (storeAfter Sample.store (Sample.awardEvents ++ Sample.acceptEvents)) = .ok (os, s, tx) ∧
      os.map Offer.state = [.pending] ∧ s.status = .accepted ∧
      (tx.commit (storeAfter Sample.store (Sample.awardEvents ++ Sample.acceptEvents))).1 = .ok () ∧
      ¬ ∃ events, events <+: Sample.awardEvents ++ Sample.acceptEvents ∧
        (storeAfter Sample.store events).linked ⟨Sample.uuid 3⟩ Sample.shipment.id = os ∧
        (storeAfter Sample.store events).shipment? Sample.shipment.id = some s := by
  obtain ⟨hcommit, htogether⟩ := a_reader_sees_one_store_unless_overtaken Sample.store
    Sample.awardEvents Sample.acceptEvents [] .offersFirst ⟨Sample.uuid 3⟩ Sample.shipment.id
    _ _ _ rfl
  exact ⟨_, _, _, rfl, rfl, rfl, hcommit.mpr rfl,
    fun h => htogether.mp h Sample.overtaken⟩

end Relocation
