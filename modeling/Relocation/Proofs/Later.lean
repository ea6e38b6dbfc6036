-- How a store grows older. A record is only ever replaced by one with a higher
-- version, so a record with an unchanged version is unchanged. Offers are not
-- versioned as a set, but the first offer between a provider and a shipment
-- comes together with a higher version of the shipment.
import Relocation.Proofs.Commits

namespace Relocation

/-- `S'` is the store `S` at a later moment. -/
structure Store.Later (S S' : Store) : Prop where
  shipment : ∀ {x s}, S.shipment? x = some s →
    ∃ s', S'.shipment? x = some s' ∧ (s' = s ∨ s.version < s'.version)
  offer : ∀ {x o}, S.offer? x = some o →
    ∃ o', S'.offer? x = some o' ∧ (o' = o ∨ o.version < o'.version)
  linked : ∀ p x, (S'.linked p x).map Offer.id = (S.linked p x).map Offer.id ∨
    S.linked p x = [] ∧ (S'.linked p x).length = 1 ∧
      ∀ s, S.shipment? x = some s → ∃ s', S'.shipment? x = some s' ∧ s.version < s'.version

namespace Store

variable {S S' T : Store}

/-! ## The order -/

theorem Later.refl (S : Store) : S.Later S where
  shipment h := ⟨_, h, .inl rfl⟩
  offer h := ⟨_, h, .inl rfl⟩
  linked _ _ := .inl rfl

/-- The version of a shipment never goes down. -/
theorem Later.version_le (h : S.Later S') {x : ShipmentId} {s : Shipment}
    (hs : S.shipment? x = some s) : ∃ s', S'.shipment? x = some s' ∧ s.version ≤ s'.version := by
  obtain ⟨s', hs', rfl | hlt⟩ := h.shipment hs
  · exact ⟨s', hs', Nat.le_refl _⟩
  · exact ⟨s', hs', Nat.le_of_lt hlt⟩

theorem newer_trans {α : Type} {version : α → Nat} {r t r' : α} (h : t = r ∨ version r < version t)
    (h' : r' = t ∨ version t < version r') : r' = r ∨ version r < version r' := by
  rcases h with rfl | h <;> rcases h' with rfl | h'
  · exact .inl rfl
  · exact .inr h'
  · exact .inr h
  · exact .inr (Nat.lt_trans h h')

theorem Later.trans (h : S.Later T) (h' : T.Later S') : S.Later S' where
  shipment hs := by
    obtain ⟨t, ht, hst⟩ := h.shipment hs
    obtain ⟨s', hs', hts⟩ := h'.shipment ht
    exact ⟨s', hs', newer_trans hst hts⟩
  offer ho := by
    obtain ⟨t, ht, hot⟩ := h.offer ho
    obtain ⟨o', ho', hto⟩ := h'.offer ht
    exact ⟨o', ho', newer_trans hot hto⟩
  linked p x := by
    rcases h.linked p x with hsame | ⟨hnone, hone, hup⟩
    · rcases h'.linked p x with hsame' | ⟨hnone', hone', hup'⟩
      · exact .inl (hsame'.trans hsame)
      · -- The offer came after `T`, and the shipment's version had not gone down before.
        refine .inr ⟨?_, hone', fun s hs => ?_⟩
        · rw [hnone', List.map_nil, eq_comm, List.map_eq_nil_iff] at hsame
          exact hsame
        · obtain ⟨t, ht, hle⟩ := h.version_le hs
          obtain ⟨s', hs', hlt⟩ := hup' t ht
          exact ⟨s', hs', Nat.lt_of_le_of_lt hle hlt⟩
    · rcases h'.linked p x with hsame' | ⟨hnone', -, -⟩
      · refine .inr ⟨hnone, ?_, fun s hs => ?_⟩
        · rw [← List.length_map (f := Offer.id), hsame', List.length_map, hone]
        · obtain ⟨t, ht, hlt⟩ := hup s hs
          obtain ⟨s', hs', hle⟩ := h'.version_le ht
          exact ⟨s', hs', Nat.lt_of_lt_of_le hlt hle⟩
      · rw [hnone', List.length_nil] at hone
        exact absurd hone (by decide)

/-! ## What the order tells a stale reader -/

/-- A record that only changes together with its version has not changed without it. -/
theorem eq_of_version_eq {α : Type} {version : α → Nat} {r : α} {r? : Option α}
    (h : ∃ r', r? = some r' ∧ (r' = r ∨ version r < version r'))
    (hversion : some (version r) = r?.map version) : r? = some r := by
  obtain ⟨r', rfl, rfl | hlt⟩ := h
  · rfl
  · rw [Option.map_some, Option.some.injEq] at hversion
    omega

theorem Later.shipment_eq (h : S.Later S') {x : ShipmentId} {s : Shipment}
    (hs : S.shipment? x = some s)
    (hversion : some s.version = (S'.shipment? x).map (·.version)) : S'.shipment? x = some s :=
  eq_of_version_eq (h.shipment hs) hversion

theorem Later.offer_eq (h : S.Later S') {x : OfferId} {o : Offer} (ho : S.offer? x = some o)
    (hversion : some o.version = (S'.offer? x).map (·.version)) : S'.offer? x = some o :=
  eq_of_version_eq (h.offer ho) hversion

/-- A provider with one offer of the shipment keeps that one. -/
theorem Later.linked_one (h : S.Later S') {p : ProviderId} {x : ShipmentId} {o : Offer}
    (hone : S.linked p x = [o]) : ∃ o', S'.linked p x = [o'] ∧ o'.id = o.id := by
  rcases h.linked p x with hsame | ⟨hnone, -, -⟩
  · rw [hone, List.map_singleton, List.map_eq_singleton_iff] at hsame
    obtain ⟨o', ho', hid⟩ := hsame
    exact ⟨o', ho', hid⟩
  · rw [hnone] at hone
    cases hone

/-- As long as the version of the shipment is unchanged, a provider without
an offer of it stays without one. -/
theorem Later.linked_nil (h : S.Later S') {p : ProviderId} {x : ShipmentId} {s : Shipment}
    (hnone : S.linked p x = []) (hs : S.shipment? x = some s)
    (hversion : some s.version = (S'.shipment? x).map (·.version)) : S'.linked p x = [] := by
  rcases h.linked p x with hsame | ⟨-, -, hup⟩
  · rw [hnone, List.map_nil, List.map_eq_nil_iff] at hsame
    exact hsame
  · obtain ⟨s', hs', hlt⟩ := hup s hs
    rw [hs', Option.map_some, Option.some.injEq] at hversion
    omega

theorem mem_linked {p : ProviderId} {x : ShipmentId} {o : Offer} :
    o ∈ S.linked p x ↔ S.offer? o.id = some o ∧ o.providerId = p ∧ o.shipmentId = x := by
  unfold linked offer?
  rw [List.mem_filter, Table.find?_eq_some_iff]
  simp [Transaction.links]

end Store

end Relocation
