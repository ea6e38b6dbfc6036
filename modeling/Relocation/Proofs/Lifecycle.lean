-- The life of a shipment as a language. Whatever is tried on a new shipment,
-- the operations that go through are the beginning of a life: it is submitted
-- and awarded once or more often, and then carried through to its end. Where sums
-- are checked, none goes through any more when no more can be counted.
import Relocation.Proofs.Edits

namespace Relocation

/-! ## Lives -/

namespace ShipmentOperation

/-- Submitted and awarded, `n` times. -/
def rounds : Nat → List ShipmentOperation
  | 0 => []
  | n + 1 => .submit :: .award :: rounds n

/-- From the answer of the provider to the end. -/
def carriage : List ShipmentOperation := [.accept, .approve, .begin, .deliver, .complete]

/-- A life in which the shipment is turned down `n` times. -/
def life (n : Nat) : List ShipmentOperation := rounds (n + 1) ++ carriage

/-- The operations are the first ones of a life. -/
def BeginsLife (ops : List ShipmentOperation) : Prop := ∃ n, ops <+: life n

/-- Each operation may start where the one before it led. -/
def Follows : ShipmentStatus → List ShipmentOperation → Prop
  | _, [] => True
  | status, op :: ops => status ∈ op.starts ∧ Follows op.target ops

/-- What is left of a life from a status on, if `n` more rounds come after it. -/
def rest : ShipmentStatus → Nat → List ShipmentOperation
  | .draft, n => .submit :: .award :: (rounds n ++ carriage)
  | .submitted, n => .award :: (rounds n ++ carriage)
  | .awarded, n => rounds n ++ carriage
  | .accepted, _ => [.approve, .begin, .deliver, .complete]
  | .approved, _ => [.begin, .deliver, .complete]
  | .inTransit, _ => [.deliver, .complete]
  | .delivered, _ => [.complete]
  | .completed, _ => []

/-- An operation that may start goes on with what is left after it. -/
theorem exists_rest {status : ShipmentStatus} {op : ShipmentOperation} (h : status ∈ op.starts)
    (n : Nat) : ∃ m, rest status m = op :: rest op.target n := by
  cases op with
  | submit =>
    rcases List.mem_cons.mp h with rfl | h
    · exact ⟨n, rfl⟩
    · -- An award that is turned down adds a round to those still to come.
      obtain rfl := List.mem_singleton.mp h
      exact ⟨n + 1, rfl⟩
  | accept =>
    obtain rfl := List.mem_singleton.mp h
    exact ⟨0, rfl⟩
  | award | approve | begin | deliver | complete =>
    obtain rfl := List.mem_singleton.mp h
    exact ⟨n, rfl⟩

/-- What is left begins with an operation that may start. -/
theorem of_rest {status : ShipmentStatus} {n : Nat} {op : ShipmentOperation}
    {ops : List ShipmentOperation} (h : rest status n = op :: ops) :
    status ∈ op.starts ∧ ∃ m, ops = rest op.target m := by
  cases status with
  | awarded =>
    cases n with
    | zero =>
      obtain ⟨rfl, rfl⟩ := List.cons.inj h
      exact ⟨by decide, 0, rfl⟩
    | succ n =>
      obtain ⟨rfl, rfl⟩ := List.cons.inj h
      exact ⟨by decide, n, rfl⟩
  | completed => cases h
  | draft | submitted | accepted | approved | inTransit | delivered =>
    obtain ⟨rfl, rfl⟩ := List.cons.inj h
    exact ⟨by decide, n, rfl⟩

theorem follows_iff {status : ShipmentStatus} {ops : List ShipmentOperation} :
    Follows status ops ↔ ∃ n, ops <+: rest status n := by
  induction ops generalizing status with
  | nil => exact ⟨fun _ => ⟨0, List.nil_prefix⟩, fun _ => trivial⟩
  | cons op ops ih =>
    constructor
    · rintro ⟨hstarts, hops⟩
      obtain ⟨n, hn⟩ := ih.mp hops
      obtain ⟨m, hm⟩ := exists_rest hstarts n
      refine ⟨m, ?_⟩
      rw [hm]
      exact (List.prefix_cons_inj op).mpr hn
    · rintro ⟨n, tail, htail⟩
      obtain ⟨hstarts, m, hm⟩ := of_rest htail.symm
      exact ⟨hstarts, ih.mpr ⟨m, tail, hm⟩⟩

/-- What follows on a draft is the beginning of a life. -/
theorem follows_draft_iff {ops : List ShipmentOperation} :
    Follows .draft ops ↔ BeginsLife ops := follows_iff

end ShipmentOperation

/-! ## Tries -/

namespace Shipment

open ShipmentOperation (Follows BeginsLife follows_draft_iff)

section

variable [Build]

/-- The shipment after operations are tried one after the other. -/
def tried (s : Shipment) (tries : List (ShipmentOperation × Timestamp)) : Shipment :=
  s.edits (tries.map fun t => .operation t.1 t.2)

/-- Those of the operations tried that go through. -/
def done (s : Shipment) : List (ShipmentOperation × Timestamp) → List ShipmentOperation
  | [] => []
  | t :: tries =>
    match s.after t.1 t.2 with
    | .ok s' => t.1 :: s'.done tries
    | .error _ => (s.edit (.operation t.1 t.2)).done tries

variable {s s' : Shipment} {op : ShipmentOperation} {now : Timestamp}
  {tries more : List (ShipmentOperation × Timestamp)}

theorem tried_cons (t : ShipmentOperation × Timestamp) :
    s.tried (t :: tries) = (s.edit (.operation t.1 t.2)).tried tries := rfl

theorem tried_of_ok (h : s.after op now = .ok s') :
    s.tried ((op, now) :: tries) = s'.tried tries := by
  rw [tried_cons, edit_of_after h]

theorem tried_of_refused (h : s.status ∉ op.starts) :
    s.tried ((op, now) :: tries) = s.tried tries := by
  rw [tried_cons, (edit_of_refused h now).2]

theorem done_of_ok (h : s.after op now = .ok s') :
    s.done ((op, now) :: tries) = op :: s'.done tries := by
  simp only [done, h]

theorem done_of_error {f : Failure} (h : s.after op now = .error f) :
    s.done ((op, now) :: tries) = (s.edit (.operation op now)).done tries := by
  simp only [done, h]

theorem done_of_refused (h : s.status ∉ op.starts) :
    s.done ((op, now) :: tries) = s.done tries := by
  rw [done_of_error (after_of_notMem h), (edit_of_refused h now).2]

theorem tried_append : s.tried (tries ++ more) = (s.tried tries).tried more := by
  simp [tried, edits]

theorem id_tried : (s.tried tries).id = s.id := by
  unfold tried
  induction tries generalizing s with
  | nil => rfl
  | cons t tries ih => exact ih.trans (id_edit s _)

/-- Where there is no next version, nothing goes through. -/
theorem done_of_last (hlast : ¬ Version.HasNext s.version) :
    s.done tries = [] ∧ (s.tried tries).version = s.version := by
  induction tries generalizing s with
  | nil => exact ⟨rfl, rfl⟩
  | cons t tries ih =>
    by_cases hstarts : s.status ∈ t.1.starts
    · have hcounts : s.counts (.operation t.1 t.2) = false := (edit_of_overflow hstarts hlast _).1
      have hversion : (s.edit (.operation t.1 t.2)).version = s.version := by
        rw [version_edit, hcounts]
        rfl
      rw [done_of_error (after_of_overflow hstarts hlast), tried_cons, ← hversion]
      exact ih (hversion ▸ hlast)
    · rw [done_of_refused hstarts, tried_of_refused hstarts]
      exact ih hlast

/-- What goes through follows on the status. -/
theorem follows_done : Follows s.status (s.done tries) := by
  induction tries generalizing s with
  | nil => trivial
  | cons t tries ih =>
    by_cases hstarts : s.status ∈ t.1.starts
    · by_cases hnext : Version.HasNext s.version
      · obtain ⟨s', hafter⟩ := exists_after hstarts hnext t.2
        rw [done_of_ok hafter]
        exact ⟨hstarts, status_after hafter ▸ ih⟩
      · rw [(done_of_last hnext).1]
        trivial
    · rw [done_of_refused hstarts]
      exact ih

/-- The version counts what goes through. -/
theorem version_tried {n : Nat} (hn : s.version = Version.ofCount n) :
    (s.tried tries).version = Version.ofCount (n + (s.done tries).length) := by
  induction tries generalizing s n with
  | nil => exact hn
  | cons t tries ih =>
    by_cases hstarts : s.status ∈ t.1.starts
    · by_cases hnext : Version.HasNext s.version
      · obtain ⟨s', hafter⟩ := exists_after hstarts hnext t.2
        have hcount : s'.version = Version.ofCount (n + 1) := by
          rw [version_after hafter, Version.ofCount_succ, ← hn, if_pos hnext]
        rw [tried_of_ok hafter, done_of_ok hafter, ih hcount, List.length_cons, Nat.add_assoc,
          Nat.add_comm 1]
      · rw [(done_of_last hnext).1, (done_of_last hnext).2]
        exact hn
    · rw [tried_of_refused hstarts, done_of_refused hstarts, ih hn]

/-! ### While there is room -/

/-- An operation that may start goes through, if there is room for one more in the end. -/
theorem exists_after_of_hasRoom {t : ShipmentOperation × Timestamp}
    (hstarts : s.status ∈ t.1.starts)
    (hroom : Version.HasRoom s.version ((s.done (t :: tries)).length + 1)) :
    ∃ s', s.after t.1 t.2 = .ok s' ∧ Version.HasRoom s'.version ((s'.done tries).length + 1) := by
  obtain ⟨s', hafter⟩ := exists_after hstarts (Version.hasNext_of_hasRoom hroom) t.2
  rw [done_of_ok hafter, List.length_cons] at hroom
  exact ⟨s', hafter, version_after hafter ▸ Version.hasRoom_succ hroom⟩

/-- What follows on the status goes through. -/
theorem done_of_follows (hroom : Version.HasRoom s.version ((s.done tries).length + 1))
    (h : Follows s.status (tries.map (·.1))) : s.done tries = tries.map (·.1) := by
  induction tries generalizing s with
  | nil => rfl
  | cons t tries ih =>
    obtain ⟨hstarts, hrest⟩ := h
    obtain ⟨s', hafter, hroom'⟩ := exists_after_of_hasRoom hstarts hroom
    rw [done_of_ok hafter, ih hroom' (status_after hafter ▸ hrest), List.map_cons]

theorem status_tried (hroom : Version.HasRoom s.version ((s.done tries).length + 1)) :
    (s.tried tries).status =
      ((s.done tries).getLast?.map ShipmentOperation.target).getD s.status := by
  induction tries generalizing s with
  | nil => rfl
  | cons t tries ih =>
    by_cases hstarts : s.status ∈ t.1.starts
    · obtain ⟨s', hafter, hroom'⟩ := exists_after_of_hasRoom hstarts hroom
      rw [tried_of_ok hafter, done_of_ok hafter, ih hroom', status_after hafter,
        List.getLast?_cons]
      cases (s'.done tries).getLast? <;> rfl
    · rw [done_of_refused hstarts] at hroom
      rw [tried_of_refused hstarts, done_of_refused hstarts, ih hroom]

/-- After the tries there is room for one more. -/
theorem hasNext_tried (hroom : Version.HasRoom s.version ((s.done tries).length + 1)) :
    Version.HasNext (s.tried tries).version := by
  induction tries generalizing s with
  | nil => exact hroom
  | cons t tries ih =>
    by_cases hstarts : s.status ∈ t.1.starts
    · obtain ⟨s', hafter, hroom'⟩ := exists_after_of_hasRoom hstarts hroom
      rw [tried_of_ok hafter]
      exact ih hroom'
    · rw [done_of_refused hstarts] at hroom
      rw [tried_of_refused hstarts]
      exact ih hroom

/-- Operations take a new shipment through its life and no other way, and its version counts
those that go through. The others are refused and leave it as it is. Only where sums are
checked and no more operations can be counted, one can end otherwise, in a panic. -/
theorem operations_go_through_a_life (id : ShipmentId) (moveId : MoveId) (created : Timestamp)
    (tries : List (ShipmentOperation × Timestamp)) :
    let start := Shipment.new id moveId created
    BeginsLife (start.done tries) ∧
    ((start.done tries).length < Version.count →
      (start.tried tries).version = (start.done tries).length) ∧
    (start.tried tries).version = Version.ofCount (start.done tries).length ∧
    (Version.HasRoom 0 ((start.done tries).length + 1) →
      (BeginsLife (tries.map (·.1)) → start.done tries = tries.map (·.1)) ∧
      (start.tried tries).status =
        ((start.done tries).getLast?.map ShipmentOperation.target).getD .draft ∧
      ∀ op now f, (start.tried tries).after op now = .error f →
        f = .invalidTransition entity id.text op.name (start.tried tries).status.name ∧
        start.tried (tries ++ [(op, now)]) = start.tried tries) := by
  intro start
  have hpos : 0 < Version.count := by decide
  have hzero : start.version = Version.ofCount 0 := (Version.ofCount_of_lt hpos).symm
  have hversion : (start.tried tries).version = Version.ofCount (start.done tries).length := by
    rw [version_tried hzero, Nat.zero_add]
  refine ⟨follows_draft_iff.mp (follows_done (s := start)), fun hless => ?_, hversion,
    fun hroom => ⟨fun h => done_of_follows hroom (follows_draft_iff.mpr h), status_tried hroom, ?_⟩⟩
  · rw [hversion, Version.ofCount_of_lt hless]
  · intro op now f hrefused
    have hstarts : (start.tried tries).status ∉ op.starts := by
      intro hstarts
      obtain ⟨s', hafter⟩ := exists_after hstarts (hasNext_tried hroom) now
      rw [hafter] at hrefused
      cases hrefused
    rw [tried_append, tried_of_refused hstarts]
    rw [after_of_notMem hstarts, id_tried] at hrefused
    exact ⟨(Except.error.inj hrefused).symm, rfl⟩

end

/-- A shipment is turned down once and then accepted, and cannot be awarded after that. -/
theorem a_life_with_a_second_award :
    let start := Shipment.new Sample.shipment.id Sample.shipment.moveId default
    let ops : List ShipmentOperation := [.submit, .award, .submit, .award, .accept]
    let tries := ops.map fun op => (op, default)
    BeginsLife ops ∧ start.done tries = ops ∧ (start.tried tries).version = 5 ∧
      (start.tried tries).after .award default = .error (.invalidTransition "Shipment"
        "00000000-0000-0000-0000-000000000001" "award" "ACCEPTED") := by
  intro start ops tries
  have hops : tries.map (·.1) = ops := rfl
  have hlife : BeginsLife ops := ⟨1, by decide⟩
  obtain ⟨-, hversion, -, hgoes⟩ := operations_go_through_a_life
    Sample.shipment.id Sample.shipment.moveId default tries
  have hfew : (start.done tries).length = 5 := by decide
  obtain ⟨hdone, hstatus, hrefused⟩ := hgoes (.inl (by rw [hfew]; decide))
  have hall : start.done tries = ops := hdone (hops ▸ hlife)
  have haccepted : (start.tried tries).status = .accepted := by
    rw [hstatus, hall]
    rfl
  have hstarts : (start.tried tries).status ∉ ShipmentOperation.award.starts := by
    rw [haccepted]
    decide
  refine ⟨hlife, hall, ?_, ?_⟩
  · exact (hversion (by rw [hfew]; decide)).trans hfew
  · have hfailed : (start.tried tries).after .award default = .error _ := after_of_notMem hstarts
    obtain ⟨hfailure, -⟩ := hrefused .award default _ hfailed
    rw [hfailed, hfailure, haccepted, Except.error.injEq]
    decide +kernel

end Shipment

end Relocation
