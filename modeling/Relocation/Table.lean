-- Tables: entries in the order in which their keys were first written, one
-- entry for each key. Writing an entry whose key is there already replaces
-- the old entry in its place.

namespace Relocation

/-! ## Entries in order -/

/-- Puts `x` in the place of the entry with its key, or at the end. -/
def put {α κ : Type} [DecidableEq κ] (key : α → κ) (x : α) : List α → List α
  | [] => [x]
  | y :: ys => if key y = key x then x :: ys else y :: put key x ys

/-- The keys are those of before, and the new one at the end if it was not there. -/
theorem map_put {α κ : Type} [DecidableEq κ] (key : α → κ) (x : α) (l : List α) :
    (put key x l).map key = if key x ∈ l.map key then l.map key else l.map key ++ [key x] := by
  induction l with
  | nil => simp [put]
  | cons y ys ih =>
    by_cases h : key y = key x
    · simp [put, h]
    · have h' : key x ≠ key y := fun e => h e.symm
      by_cases hm : key x ∈ ys.map key
      · rw [if_pos hm] at ih
        simp [put, h, ih, List.mem_cons.mpr (Or.inr hm)]
      · rw [if_neg hm] at ih
        have hn : key x ∉ (y :: ys).map key := by simp_all
        rw [if_neg hn]
        simp [put, h, ih]

theorem nodup_put {α κ : Type} [DecidableEq κ] (key : α → κ) (x : α) {l : List α}
    (h : (l.map key).Nodup) : ((put key x l).map key).Nodup := by
  rw [map_put]
  split
  · exact h
  · rename_i hn
    rw [List.nodup_append]
    refine ⟨h, by simp, ?_⟩
    intro a ha b hb
    rw [List.mem_singleton] at hb
    exact fun e => hn (hb ▸ e ▸ ha)

/-- Afterwards the new entry is found under its key, and nothing else has changed. -/
theorem find?_put {α κ : Type} [DecidableEq κ] (key : α → κ) (x : α) (l : List α) (k : κ) :
    (put key x l).find? (fun y => key y = k) =
      if key x = k then some x else l.find? (fun y => key y = k) := by
  induction l with
  | nil => by_cases hx : key x = k <;> simp [put, hx]
  | cons y ys ih =>
    by_cases h : key y = key x
    · by_cases hx : key x = k <;> simp [put, h, hx]
    · by_cases hy : key y = k
      · have hx : key x ≠ k := fun e => h (hy.trans e.symm)
        rw [put, if_neg h, if_neg hx]
        simp [hy]
      · simp [put, h, hy, ih]

/-- Where no two entries have one key, each is found under its own. -/
theorem find?_of_mem {α κ : Type} [DecidableEq κ] (key : α → κ) {l : List α} {x : α}
    (h : (l.map key).Nodup) (hx : x ∈ l) : l.find? (fun y => key y = key x) = some x := by
  induction l with
  | nil => simp at hx
  | cons y ys ih =>
    rw [List.map_cons, List.nodup_cons] at h
    rcases List.mem_cons.mp hx with rfl | hm
    · simp
    · have hne : key y ≠ key x := fun e => h.1 (e ▸ List.mem_map_of_mem hm)
      simp [hne, ih h.2 hm]

/-- A new key goes to the end. -/
theorem put_of_notMem {α κ : Type} [DecidableEq κ] (key : α → κ) (x : α) {l : List α}
    (h : key x ∉ l.map key) : put key x l = l ++ [x] := by
  induction l with
  | nil => rfl
  | cons y ys ih =>
    rw [List.map_cons, List.mem_cons, not_or] at h
    rw [put, if_neg (Ne.symm h.1), ih h.2, List.cons_append]

/-- Where no two entries have one key, the new entry takes the place of the old
one with its key and leaves the others. -/
theorem put_of_mem {α κ : Type} [DecidableEq κ] (key : α → κ) (x : α) {l : List α}
    (hl : (l.map key).Nodup) (hx : key x ∈ l.map key) :
    put key x l = l.map fun y => if key y = key x then x else y := by
  induction l with
  | nil => simp at hx
  | cons y ys ih =>
    rw [List.map_cons, List.nodup_cons] at hl
    rw [put, List.map_cons]
    by_cases h : key y = key x
    · have hrest : ys.map (fun z => if key z = key x then x else z) = ys.map id := by
        refine List.map_congr_left fun z hz => ?_
        have hne : key z ≠ key x := fun e => hl.1 (h ▸ e ▸ List.mem_map_of_mem hz)
        rw [if_neg hne, id]
      rw [if_pos h, if_pos h, hrest, List.map_id]
    · have hxs : key x ∈ ys.map key := by
        rw [List.map_cons, List.mem_cons] at hx
        exact hx.resolve_left (Ne.symm h)
      rw [if_neg h, if_neg h, ih hl.2 hxs]

/-- Of two entries with one key the later one is kept. -/
theorem put_put {α κ : Type} [DecidableEq κ] (key : α → κ) {x y : α} (h : key x = key y)
    (l : List α) : put key y (put key x l) = put key y l := by
  induction l with
  | nil => simp [put, h]
  | cons z zs ih =>
    by_cases hz : key z = key y
    · rw [put, if_pos (hz.trans h.symm), put, if_pos h, put, if_pos hz]
    · have hzx : key z ≠ key x := fun e => hz (e.trans h)
      rw [put, if_neg hzx, put, if_neg hz, put, if_neg hz, ih]

/-- An entry that takes the place of `y` and is picked exactly if `y` was
leaves the keys of those that are picked. -/
theorem map_filter_put {α κ : Type} [DecidableEq κ] (key : α → κ) {x y : α} {l : List α}
    (p : α → Bool) (hy : l.find? (fun z => key z = key x) = some y) (hp : p y = p x) :
    ((put key x l).filter p).map key = (l.filter p).map key := by
  induction l with
  | nil => simp at hy
  | cons z zs ih =>
    by_cases h : key z = key x
    · have hz : z = y := by simpa [h] using hy
      subst hz
      rw [put, if_pos h, List.filter_cons, List.filter_cons, hp]
      split
      · rw [List.map_cons, List.map_cons, h]
      · rfl
    · have hrest := ih (by simpa [h] using hy)
      rw [put, if_neg h, List.filter_cons, List.filter_cons]
      split
      · rw [List.map_cons, List.map_cons, hrest]
      · exact hrest

/-- An entry that takes the place of `y` is counted instead of `y`. -/
theorem countP_put {α κ : Type} [DecidableEq κ] (key : α → κ) {x y : α} {l : List α}
    (p : α → Bool) (hy : l.find? (fun z => key z = key x) = some y) :
    (put key x l).countP p + (if p y then 1 else 0) = l.countP p + (if p x then 1 else 0) := by
  induction l with
  | nil => simp at hy
  | cons z zs ih =>
    by_cases h : key z = key x
    · have hz : z = y := by simpa [h] using hy
      subst hz
      rw [put, if_pos h, List.countP_cons, List.countP_cons]
      omega
    · have hrest := ih (by simpa [h] using hy)
      rw [put, if_neg h, List.countP_cons, List.countP_cons]
      omega

theorem put_ne_nil {α κ : Type} [DecidableEq κ] (key : α → κ) (x : α) (l : List α) :
    put key x l ≠ [] := by
  cases l with
  | nil => simp [put]
  | cons y ys =>
    unfold put
    split <;> simp

/-- Nothing but the new entry comes in. -/
theorem mem_put {α κ : Type} [DecidableEq κ] (key : α → κ) {x y : α} {l : List α}
    (h : y ∈ put key x l) : y = x ∨ y ∈ l := by
  induction l with
  | nil => exact .inl (List.mem_singleton.mp h)
  | cons z zs ih =>
    unfold put at h
    split at h
    · rcases List.mem_cons.mp h with rfl | hm
      · exact .inl rfl
      · exact .inr (List.mem_cons_of_mem z hm)
    · rcases List.mem_cons.mp h with rfl | hm
      · exact .inr List.mem_cons_self
      · exact (ih hm).imp_right (List.mem_cons_of_mem z)

/-- A list without repetitions has none to erase. -/
theorem eraseDups_of_nodup {κ : Type} [DecidableEq κ] {l : List κ} (h : l.Nodup) :
    l.eraseDups = l := by
  induction l with
  | nil => rfl
  | cons k l ih =>
    obtain ⟨hk, hl⟩ := List.nodup_cons.mp h
    have hfilter : l.filter (fun j => !j == k) = l := by
      rw [List.filter_eq_self]
      intro j hj
      simpa using fun e : j = k => hk (e ▸ hj)
    rw [List.eraseDups_cons, hfilter, ih hl]

/-! ## The type -/

/-- Entries in order of first writing, no two with one key. -/
structure Table (α : Type) {κ : Type} (key : α → κ) where
  entries : List α
  distinct : (entries.map key).Nodup

namespace Table

variable {α κ : Type} {key : α → κ}

/-- The table without entries. -/
def empty : Table α key := ⟨[], by simp⟩

@[simp] theorem entries_empty : (empty : Table α key).entries = [] := rfl

instance : Inhabited (Table α key) := ⟨empty⟩

instance [DecidableEq α] : DecidableEq (Table α key) := fun s t =>
  if h : s.entries = t.entries then isTrue (by cases s; cases t; cases h; rfl)
  else isFalse fun e => h (e ▸ rfl)

/-- The keys, oldest first. -/
def keys (t : Table α key) : List κ := t.entries.map key

theorem nodup_filter (t : Table α key) (p : α → Bool) : ((t.entries.filter p).map key).Nodup :=
  t.distinct.sublist (List.filter_sublist.map key)

variable [DecidableEq κ]

/-- The entry with the key `k`. -/
def find? (t : Table α key) (k : κ) : Option α := t.entries.find? fun x => key x = k

/-- Writes the entry `x`, in place if its key is there already. -/
def insert (t : Table α key) (x : α) : Table α key :=
  ⟨put key x t.entries, nodup_put key x t.distinct⟩

/-- Writes the entry `x` unless its key is there already. -/
def insertNew (t : Table α key) (x : α) : Table α key :=
  match t.find? (key x) with
  | some _ => t
  | none => t.insert x

/-- Writes every entry of the list, in its order. -/
def insertAll (t : Table α key) (xs : List α) : Table α key := xs.foldl insert t

/-! ## What each operation does to the keys and the entries -/

@[simp] theorem find?_empty (k : κ) : (empty : Table α key).find? k = none := rfl

theorem find?_insert (t : Table α key) (x : α) (k : κ) :
    (t.insert x).find? k = if key x = k then some x else t.find? k :=
  find?_put key x t.entries k

theorem keys_insert (t : Table α key) (x : α) :
    (t.insert x).keys = if key x ∈ t.keys then t.keys else t.keys ++ [key x] :=
  map_put key x t.entries

theorem insert_insert (t : Table α key) {x y : α} (h : key x = key y) :
    (t.insert x).insert y = t.insert y := by
  simp only [insert, put_put key h]

/-- What is found under a key has that key. -/
theorem key_of_find? {t : Table α key} {k : κ} {x : α} (h : t.find? k = some x) : key x = k := by
  simpa using List.find?_some h

/-- An entry of the table is what is found under its key. -/
theorem find?_eq_some_iff (t : Table α key) (k : κ) (x : α) :
    t.find? k = some x ↔ x ∈ t.entries ∧ key x = k := by
  constructor
  · exact fun h => ⟨List.mem_of_find?_eq_some h, key_of_find? h⟩
  · rintro ⟨hx, rfl⟩
    exact find?_of_mem key t.distinct hx

/-- Of the entries that are picked, the one with a key is that of the table, if
it is picked. -/
theorem find?_filter (t : Table α key) (p : α → Bool) (k : κ) :
    (t.entries.filter p).find? (fun x => key x = k) = (t.find? k).filter p := by
  ext x
  rw [Option.filter_eq_some_iff]
  constructor
  · intro h
    obtain rfl : key x = k := by simpa using List.find?_some h
    obtain ⟨hmem, hp⟩ := List.mem_filter.mp (List.mem_of_find?_eq_some h)
    exact ⟨(find?_eq_some_iff t _ x).mpr ⟨hmem, rfl⟩, hp⟩
  · rintro ⟨hx, hp⟩
    obtain ⟨hmem, rfl⟩ := (find?_eq_some_iff t k x).mp hx
    exact find?_of_mem key (t.nodup_filter p) (List.mem_filter.mpr ⟨hmem, hp⟩)

/-- What holds of the key of each entry holds of each key under which one is found. -/
theorem of_isSome_find? {t : Table α key} {P : κ → Prop} (h : ∀ x ∈ t.entries, P (key x)) {k : κ}
    (hk : (t.find? k).isSome = true) : P k := by
  obtain ⟨x, hx⟩ := Option.isSome_iff_exists.mp hk
  obtain ⟨hmem, rfl⟩ := (find?_eq_some_iff t k x).mp hx
  exact h x hmem

/-- Something is found under exactly the keys of the table. -/
theorem isSome_find? (t : Table α key) (k : κ) : (t.find? k).isSome ↔ k ∈ t.keys := by
  simp [find?, keys]

@[simp] theorem insertAll_nil (t : Table α key) : t.insertAll [] = t := rfl

@[simp] theorem insertAll_singleton (t : Table α key) (x : α) : t.insertAll [x] = t.insert x := rfl

@[simp] theorem entries_insert_empty (x : α) : ((empty : Table α key).insert x).entries = [x] := rfl

theorem insertAll_append (t : Table α key) (xs ys : List α) :
    t.insertAll (xs ++ ys) = (t.insertAll xs).insertAll ys := List.foldl_append

/-- One entry at most is written. -/
theorem find?_insertAll_toList (t : Table α key) (o : Option α) (k : κ) :
    (t.insertAll o.toList).find? k = (o.filter fun x => key x = k).or (t.find? k) := by
  rcases o with _ | x
  · rfl
  · rw [Option.toList_some, insertAll_singleton, find?_insert, Option.filter_some]
    by_cases hx : key x = k <;> simp [hx]

/-- Entries with keys of their own come after those of the table. -/
theorem entries_insertAll (t : Table α key) (xs : List α)
    (h : ((t.entries ++ xs).map key).Nodup) : (t.insertAll xs).entries = t.entries ++ xs := by
  induction xs generalizing t with
  | nil => simp
  | cons x xs ih =>
    have hx : key x ∉ t.entries.map key := by
      rw [List.map_append, List.map_cons, List.nodup_append] at h
      exact fun hm => h.2.2 _ hm (key x) (by simp) rfl
    have hput : (t.insert x).entries = t.entries ++ [x] := put_of_notMem key x hx
    have hrest := ih (t.insert x) (by rw [hput]; simpa using h)
    rw [hput, List.append_assoc] at hrest
    exact hrest

/-- Each entry is replaced by the one of the list with its key, and those with
new keys come after. -/
theorem entries_insertAll_of_nodup (t : Table α key) {xs : List α} (h : (xs.map key).Nodup) :
    (t.insertAll xs).entries =
      t.entries.map (fun y => (xs.find? fun x => key x = key y).getD y) ++
        xs.filter fun x => (t.find? (key x)).isNone := by
  induction xs generalizing t with
  | nil => simp
  | cons x xs ih =>
    rw [List.map_cons, List.nodup_cons] at h
    obtain ⟨hx, hxs⟩ := h
    have hne : ∀ z ∈ xs, key z ≠ key x := fun z hz e => hx (e ▸ List.mem_map_of_mem hz)
    have hself : (xs.find? fun z => key z = key x) = none := by
      simpa [List.find?_eq_none] using hne
    have hrest : (xs.filter fun z => ((t.insert x).find? (key z)).isNone) =
        xs.filter fun z => (t.find? (key z)).isNone := by
      refine List.filter_congr fun z hz => ?_
      rw [find?_insert, if_neg (Ne.symm (hne z hz))]
    change ((t.insert x).insertAll xs).entries = _
    rw [ih (t.insert x) hxs, hrest]
    by_cases hmem : key x ∈ t.keys
    · have hput : (t.insert x).entries = t.entries.map fun y => if key y = key x then x else y :=
        put_of_mem key x t.distinct hmem
      have hsome : (t.find? (key x)).isNone = false := by
        rw [Option.isNone_eq_false_iff]
        exact (t.isSome_find? (key x)).mpr hmem
      rw [hput, List.map_map, List.filter_cons, hsome]
      refine congrArg (· ++ _) (List.map_congr_left fun y _ => ?_)
      by_cases hy : key y = key x
      · simp [hy, hself]
      · simp [hy, Ne.symm hy]
    · have hput : (t.insert x).entries = t.entries ++ [x] := put_of_notMem key x hmem
      have hnone : (t.find? (key x)).isNone = true := by
        rw [Option.isNone_iff_eq_none, ← Option.not_isSome_iff_eq_none, isSome_find?]
        exact hmem
      rw [hput, List.map_append, List.filter_cons, hnone]
      have hold : t.entries.map (fun y => (xs.find? fun z => key z = key y).getD y) =
          t.entries.map fun y => ((x :: xs).find? fun z => key z = key y).getD y := by
        refine List.map_congr_left fun y hy => ?_
        have hxy : key x ≠ key y := fun e => hmem (e ▸ List.mem_map_of_mem hy)
        simp [hxy]
      simp [hold, hself]

/-- The keys are those of before and of the list, each where it came first. -/
theorem keys_insertAll (t : Table α key) (xs : List α) :
    (t.insertAll xs).keys = (t.keys ++ xs.map key).eraseDups := by
  induction xs generalizing t with
  | nil =>
    rw [List.map_nil, List.append_nil, insertAll_nil]
    exact (eraseDups_of_nodup t.distinct).symm
  | cons x xs ih =>
    change ((t.insert x).insertAll xs).keys = _
    rw [ih, keys_insert, List.map_cons]
    by_cases hx : key x ∈ t.keys
    · have hremoved : (key x :: xs.map key).removeAll t.keys = (xs.map key).removeAll t.keys := by
        simp [List.removeAll, hx]
      rw [if_pos hx, List.eraseDups_append, List.eraseDups_append, hremoved]
    · rw [if_neg hx, ← List.append_cons]

theorem mem_insert {t : Table α key} {x y : α} (h : y ∈ (t.insert x).entries) :
    y = x ∨ y ∈ t.entries := mem_put key h

theorem mem_insertAll {t : Table α key} {xs : List α} {y : α}
    (h : y ∈ (t.insertAll xs).entries) : y ∈ t.entries ∨ y ∈ xs := by
  induction xs generalizing t with
  | nil => exact .inl h
  | cons x xs ih =>
    rcases ih (t := t.insert x) h with hm | hm
    · rcases mem_insert hm with rfl | hm
      · exact .inr List.mem_cons_self
      · exact .inl hm
    · exact .inr (List.mem_cons_of_mem x hm)

/-- Entries with keys of their own are found before those of the table. -/
theorem find?_insertAll (t : Table α key) {xs : List α} (h : (xs.map key).Nodup) (k : κ) :
    (t.insertAll xs).find? k = (xs.find? fun x => key x = k).or (t.find? k) := by
  induction xs generalizing t with
  | nil => simp
  | cons x xs ih =>
    rw [List.map_cons, List.nodup_cons] at h
    change ((t.insert x).insertAll xs).find? k = _
    rw [ih (t.insert x) h.2, find?_insert]
    by_cases hx : key x = k
    · have hnone : xs.find? (fun y => key y = k) = none := by
        rw [List.find?_eq_none]
        intro y hy hk
        exact h.1 (by rw [hx, ← of_decide_eq_true hk]; exact List.mem_map_of_mem hy)
      simp [hx, hnone]
    · simp [hx]

/-- A new entry never hides an older one. -/
theorem find?_insertNew (t : Table α key) (x : α) (k : κ) :
    (t.insertNew x).find? k = (t.find? k).or (if key x = k then some x else none) := by
  unfold insertNew
  split
  · rename_i y hy
    by_cases h : key x = k
    · subst h
      simp [hy]
    · simp [h]
  · rename_i hn
    rw [find?_insert]
    by_cases h : key x = k
    · subst h
      simp [hn]
    · simp [h]

end Table

end Relocation
