-- Reads see the writes of their own transaction. A shipment is found as it is
-- staged. The offers that link a provider to a shipment are picked from the stored
-- and from the staged ones apart and merged after that. So an offer that is staged
-- with other links is still found as it is stored.
import Relocation.Proofs.Histories

namespace Relocation

namespace Transaction

variable {tx : Transaction} {S : Store} {p : ProviderId} {y : ShipmentId} {o : Offer}

/-! ## What there is to see -/

/-- The stored offers, each replaced by the staged one with its id, and the new
staged ones after them. -/
def view (tx : Transaction) (S : Store) : List Offer :=
  S.offers.entries.map (fun o => (tx.offers.find? o.id).getD o) ++
    tx.offers.entries.filter fun o => (S.offer? o.id).isNone

/-- A transaction sees what it writes if it commits. -/
theorem entries_apply (tx : Transaction) (S : Store) : (tx.apply S).offers.entries = tx.view S :=
  Table.entries_insertAll_of_nodup S.offers tx.offers.distinct

theorem offer?_apply (tx : Transaction) (S : Store) (x : OfferId) :
    (tx.apply S).offer? x = (tx.offers.find? x).or (S.offer? x) :=
  Table.find?_insertAll S.offers tx.offers.distinct x

theorem mem_view : o ∈ tx.view S ↔ (tx.offers.find? o.id).or (S.offer? o.id) = some o := by
  rw [← entries_apply, ← offer?_apply, Store.offer?, Table.find?_eq_some_iff]
  simp

/-- The offer is stored with the links, but staged without them. -/
def Unlinked (tx : Transaction) (S : Store) (p : ProviderId) (y : ShipmentId) (o : Offer) : Prop :=
  o ∈ S.linked p y ∧ ∃ o', tx.offers.find? o.id = some o' ∧ links p y o' = false

/-- What is staged of a stored offer has the links exactly if the stored one does. -/
def KeepsLinks (tx : Transaction) (S : Store) (p : ProviderId) (y : ShipmentId) : Prop :=
  ∀ o' ∈ tx.offers.entries, ∀ o ∈ S.offer? o'.id, links p y o' = links p y o

instance : Decidable (tx.KeepsLinks S p y) :=
  inferInstanceAs (Decidable (∀ o' ∈ tx.offers.entries, ∀ o ∈ S.offer? o'.id, _))

/-! ## What is found -/

/-- The staged copy of a stored offer if it has the links, or else the stored one. -/
def foundAs (tx : Transaction) (p : ProviderId) (y : ShipmentId) (o : Offer) : Offer :=
  ((tx.offers.find? o.id).filter (links p y)).getD o

/-- The staged offers with the links that replace no stored one with the links. -/
def newlyLinked (tx : Transaction) (S : Store) (p : ProviderId) (y : ShipmentId) : List Offer :=
  (tx.offers.entries.filter (links p y)).filter fun o =>
    ((S.offer? o.id).filter (links p y)).isNone

/-- The stored one with the id, if it has the links. -/
theorem find?_linked (S : Store) (p : ProviderId) (y : ShipmentId) (x : OfferId) :
    ((Table.empty : Table Offer Offer.id).insertAll (S.linked p y)).find? x =
      (S.offer? x).filter (links p y) := by
  rw [Table.find?, S.entries_linked]
  exact Table.find?_filter S.offers (links p y) x

theorem findOffers_eq (tx : Transaction) (S : Store) (p : ProviderId) (y : ShipmentId) :
    (tx.findOffers S p y).1 = (S.linked p y).map (tx.foundAs p y) ++ tx.newlyLinked S p y := by
  unfold findOffers foundAs newlyLinked
  change ((Table.empty.insertAll (S.linked p y)).insertAll _).entries = _
  rw [Table.entries_insertAll_of_nodup _ (tx.offers.nodup_filter (links p y)), S.entries_linked]
  simp only [find?_linked, Table.find?_filter]

theorem mem_findOffers : o ∈ (tx.findOffers S p y).1 ↔
    ((tx.offers.find? o.id).filter (links p y)).or ((S.offer? o.id).filter (links p y)) =
      some o := by
  unfold findOffers
  change o ∈ ((Table.empty.insertAll (S.linked p y)).insertAll _).entries ↔ _
  rw [← find?_linked, ← Table.find?_filter tx.offers,
    ← Table.find?_insertAll _ (tx.offers.nodup_filter (links p y)), Table.find?_eq_some_iff]
  simp

/-- Nothing with the links is missed, and beside it only unlinked offers are found. -/
theorem mem_findOffers_iff : o ∈ (tx.findOffers S p y).1 ↔
    o ∈ tx.view S ∧ links p y o = true ∨ tx.Unlinked S p y o := by
  have hstored : o ∈ S.linked p y ↔ S.offer? o.id = some o ∧ links p y o = true := by
    simp [Store.mem_linked, links]
  rw [mem_findOffers, mem_view, Unlinked, hstored]
  rcases hstaged : tx.offers.find? o.id with _ | o'
  · simp [Option.filter_eq_some_iff]
  · cases hlinks : links p y o' with
    | true =>
      rw [Option.filter_some_pos hlinks]
      constructor
      · rintro h
        obtain rfl : o' = o := Option.some.inj h
        exact .inl ⟨rfl, hlinks⟩
      · rintro (⟨h, -⟩ | ⟨-, o'', h, hunlinked⟩)
        · exact h
        · obtain rfl : o' = o'' := Option.some.inj h
          rw [hlinks] at hunlinked
          cases hunlinked
    | false =>
      rw [Option.filter_some_neg hlinks, Option.none_or, Option.filter_eq_some_iff]
      constructor
      · exact fun h => .inr ⟨h, o', rfl, hlinks⟩
      · rintro (⟨h, ho⟩ | ⟨h, -⟩)
        · obtain rfl : o' = o := Option.some.inj h
          rw [ho] at hlinks
          cases hlinks
        · exact h

/-- As long as no links are changed, picking before the merge is picking after it. -/
theorem findOffers_of_keepsLinks (h : tx.KeepsLinks S p y) :
    (tx.findOffers S p y).1 = (tx.view S).filter (links p y) := by
  -- A staged offer is picked exactly if the stored one in whose place it comes is.
  have hplace : ∀ o ∈ S.offers.entries,
      links p y ((tx.offers.find? o.id).getD o) = links p y o := by
    intro o ho
    rcases hstaged : tx.offers.find? o.id with _ | o'
    · rfl
    · obtain ⟨hmem, hid⟩ := (Table.find?_eq_some_iff _ _ _).mp hstaged
      exact h o' hmem o ((Table.find?_eq_some_iff _ _ _).mpr ⟨ho, hid.symm⟩)
  -- One that links the two and is stored replaces one that does, so it is not new.
  have hnew : tx.newlyLinked S p y =
      (tx.offers.entries.filter fun o => (S.offer? o.id).isNone).filter (links p y) := by
    unfold newlyLinked
    rw [List.filter_filter, List.filter_filter]
    refine List.filter_congr fun o' ho' => ?_
    rcases hstored : S.offer? o'.id with _ | o
    · simp
    · have hlinks := h o' ho' o hstored
      cases ho : links p y o <;> simp [hlinks, ho]
  rw [findOffers_eq, view, List.filter_append, hnew, List.filter_map,
    List.filter_congr (p := links p y ∘ _) hplace, Store.linked]
  refine congrArg (· ++ _) (List.map_congr_left fun o ho => ?_)
  obtain ⟨hmem, hlinks⟩ := List.mem_filter.mp ho
  unfold foundAs
  rcases hstaged : tx.offers.find? o.id with _ | o'
  · rfl
  · have hlinks' := hplace o hmem
    rw [hstaged, Option.getD_some, hlinks] at hlinks'
    rw [Option.filter_some_pos hlinks']

theorem findShipment_eq (tx : Transaction) (S : Store) (x : ShipmentId) :
    (tx.findShipment S x).map Prod.fst =
      match (tx.shipments.find? x).or (S.shipment? x) with
      | some s => .ok s
      | none => .error (.notFound Shipment.entity x.text) := by
  unfold findShipment
  rcases tx.shipments.find? x with _ | s
  · rcases S.shipment? x with _ | s <;> rfl
  · rfl

/-- Of the offers with the links, the stored ones are found first, each as it is
staged if it is staged with the links too, and then the other staged ones in
their order. So exactly the offers of the view that have the links are found,
and beside them those that are stored with the links but staged without. Where
no links are changed, they are found as they stand in the view. A shipment is
found as it is staged, or else as it is stored. -/
theorem own_writes_are_seen_unless_unlinked (tx : Transaction) (S : Store) (p : ProviderId)
    (y : ShipmentId) :
    (tx.findOffers S p y).1 = (S.linked p y).map (tx.foundAs p y) ++ tx.newlyLinked S p y ∧
    (∀ o, o ∈ (tx.findOffers S p y).1 ↔
      o ∈ tx.view S ∧ links p y o = true ∨ tx.Unlinked S p y o) ∧
    (tx.KeepsLinks S p y → (tx.findOffers S p y).1 = (tx.view S).filter (links p y)) ∧
    ∀ x, (tx.findShipment S x).map Prod.fst =
      match (tx.shipments.find? x).or (S.shipment? x) with
      | some s => .ok s
      | none => .error (.notFound Shipment.entity x.text) :=
  ⟨findOffers_eq tx S p y, fun _ => mem_findOffers_iff, findOffers_of_keepsLinks,
    findShipment_eq tx S⟩

/-! ## An offer that is given to another provider -/

/-- The store with the offer. -/
def oneOffer : Store := { offers := Table.empty.insert Sample.offer }

/-- The same offer, to another provider. -/
def sampleElsewhere : Offer := { Sample.offer with providerId := ⟨Sample.uuid 5⟩ }

/-- It is not so that exactly the offers of the view are found: here the offer is
found with the provider that it is staged without. -/
theorem an_unlinked_offer_is_still_found :
    ¬ ∀ (calls : List Asked) (S : Store),
      (∀ p y o, o ∈ ((after calls).findOffers S p y).1 ↔
        o ∈ (after calls).view S ∧ links p y o = true) ∧
      ∀ x, ((after calls).findShipment S x).map Prod.fst =
        match ((after calls).shipments.find? x).or (S.shipment? x) with
        | some s => .ok s
        | none => .error (.notFound Shipment.entity x.text) := by
  intro hclaim
  obtain ⟨hoffers, -⟩ := hclaim [⟨oneOffer, .saveOffer sampleElsewhere⟩] oneOffer
  have hfound : ((after [⟨oneOffer, .saveOffer sampleElsewhere⟩]).findOffers oneOffer
      Sample.offer.providerId Sample.offer.shipmentId).1 = [Sample.offer] := rfl
  have hview : (after [⟨oneOffer, .saveOffer sampleElsewhere⟩]).view oneOffer =
      [sampleElsewhere] := rfl
  have hoffer := hoffers Sample.offer.providerId Sample.offer.shipmentId Sample.offer
  rw [hfound, hview, List.mem_singleton, List.mem_singleton] at hoffer
  exact absurd (hoffer.mp rfl).1 (by decide)

/-- The offer is accepted, and the provider gets another one. -/
def twoSaved : Transaction :=
  after [⟨oneOffer, .saveOffer { Sample.offer with accepted := some true, version := 1 }⟩,
    ⟨oneOffer, .saveOffer { Sample.offer with id := ⟨Sample.uuid 6⟩ }⟩]

/-- Both are found as they are staged. -/
theorem two_saved_offers_are_seen :
    twoSaved.KeepsLinks oneOffer Sample.offer.providerId Sample.offer.shipmentId ∧
    (twoSaved.findOffers oneOffer Sample.offer.providerId Sample.offer.shipmentId).1 =
      twoSaved.offers.entries := by
  have hkeeps : twoSaved.KeepsLinks oneOffer Sample.offer.providerId Sample.offer.shipmentId := by
    decide
  obtain ⟨-, -, hview, -⟩ := own_writes_are_seen_unless_unlinked twoSaved oneOffer
    Sample.offer.providerId Sample.offer.shipmentId
  exact ⟨hkeeps, (hview hkeeps).trans rfl⟩

end Transaction

end Relocation
