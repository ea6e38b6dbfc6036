-- Written values with some of their members left out. A reader that puts a default in the
-- place of each missing member, at whatever depth, gets the value with these parts at
-- their defaults. The order of the members makes no difference to it.
import Mathlib.Data.List.Forall2
import Relocation.Proofs.JsonTexts
import Relocation.Proofs.Records

namespace Relocation

namespace Json

/-! ## Members left out -/

mutual

/-- The value without the members at the paths that are removed. A path tells the names
of the members from the outermost object inwards. What an array holds is left. -/
def without (removed : List String → Bool) : Json → Json
  | .obj members => .obj (withoutMembers removed members)
  | value => value

def withoutMembers (removed : List String → Bool) : List (String × Json) → List (String × Json)
  | [] => []
  | (name, value) :: rest =>
    if removed [name] then withoutMembers removed rest
    else (name, value.without fun path => removed (name :: path)) :: withoutMembers removed rest

end

theorem withoutMembers_eq_map (removed : List String → Bool) (ms : List (String × Json)) :
    withoutMembers removed ms = (ms.filter fun m => !removed [m.1]).map fun m =>
      (m.1, m.2.without fun path => removed (m.1 :: path)) := by
  induction ms with
  | nil => rfl
  | cons m ms ih =>
    obtain ⟨name, v⟩ := m
    rw [withoutMembers, List.filter_cons, ih]
    by_cases h : removed [name] = true <;> simp [h]

theorem lookup_withoutMembers (removed : List String → Bool) (ms : List (String × Json))
    (name : String) : lookup (withoutMembers removed ms) name =
      if removed [name] then none
      else (lookup ms name).map (without fun path => removed (name :: path)) := by
  induction ms with
  | nil => simp [lookup, withoutMembers]
  | cons m ms ih =>
    obtain ⟨name', v⟩ := m
    rw [withoutMembers, lookup_cons]
    by_cases hname : name' = name
    · subst hname
      by_cases hremoved : removed [name'] = true
      · rw [if_pos hremoved, ih, if_pos hremoved, if_pos hremoved]
      · rw [if_neg hremoved, lookup_cons, if_pos rfl, if_neg hremoved, if_pos rfl, Option.map_some]
    · rw [if_neg hname]
      by_cases hremoved : removed [name'] = true
      · rw [if_pos hremoved, ih]
      · rw [if_neg hremoved, lookup_cons, if_neg hname, ih]

theorem Plain.without {v : Json} (h : Plain v) (removed : List String → Bool) :
    Plain (v.without removed) := by
  induction h generalizing removed with
  | null => exact .null
  | bool b => exact .bool b
  | int n => exact .int n
  | str s => exact .str s
  | arr all ih => exact .arr all
  | @obj ms distinct all ih =>
    rw [Json.without, withoutMembers_eq_map]
    refine .obj ?_ ?_
    · rw [List.map_map]
      exact distinct.sublist (List.filter_sublist.map Prod.fst)
    · rw [List.forall_mem_map]
      exact fun m hm => ih m (List.mem_filter.mp hm).1 _

/-! ## Members in another order -/

/-- The values are the same but for the order of the members of their objects. -/
inductive Rearranged : Json → Json → Prop
  | refl (v : Json) : Rearranged v v
  | obj {ms ns ks : List (String × Json)} (names : ms.map Prod.fst = ns.map Prod.fst)
      (values : List.Forall₂ Rearranged (ms.map Prod.snd) (ns.map Prod.snd))
      (order : ns.Perm ks) : Rearranged (.obj ms) (.obj ks)

namespace Rearranged

variable {v w : Json} {ms ns : List (String × Json)}

theorem eq_of_ne_obj (h : Rearranged v w) (hv : ∀ ms, v ≠ .obj ms) : w = v := by
  cases h with
  | refl => rfl
  | obj => exact absurd rfl (hv _)

theorem exists_of_obj (h : Rearranged (.obj ms) w) : ∃ ns ks : List (String × Json),
    w = .obj ks ∧ ns.Perm ks ∧ ms.map Prod.fst = ns.map Prod.fst ∧
    List.Forall₂ Rearranged (ms.map Prod.snd) (ns.map Prod.snd) := by
  cases h with
  | refl =>
    exact ⟨ms, ms, rfl, List.Perm.refl ms, rfl, List.forall₂_same.mpr fun v _ => .refl v⟩
  | obj names values order => exact ⟨_, _, rfl, order, names, values⟩

/-- Under each name both objects have the same value but for the order of members. -/
theorem lookup_rel (hnames : ms.map Prod.fst = ns.map Prod.fst)
    (hvalues : List.Forall₂ Rearranged (ms.map Prod.snd) (ns.map Prod.snd)) (name : String) :
    Option.Rel Rearranged (lookup ms name) (lookup ns name) := by
  induction ms generalizing ns with
  | nil =>
    obtain rfl : ns = [] := List.map_eq_nil_iff.mp hnames.symm
    exact .none
  | cons m ms ih =>
    rcases ns with _ | ⟨n, ns⟩
    · cases hnames
    · obtain ⟨hname, hrest⟩ := List.cons.inj hnames
      obtain ⟨hvalue, hvalues⟩ := List.forall₂_cons.mp hvalues
      rw [lookup_cons, lookup_cons, ← hname]
      by_cases h : m.1 = name
      · rw [if_pos h, if_pos h]
        exact .some hvalue
      · rw [if_neg h, if_neg h]
        exact ih hrest hvalues

theorem plain (hv : Plain v) (h : Rearranged v w) : Plain w := by
  induction hv generalizing w with
  | null => rw [h.eq_of_ne_obj nofun]; exact .null
  | bool b => rw [h.eq_of_ne_obj nofun]; exact .bool b
  | int n => rw [h.eq_of_ne_obj nofun]; exact .int n
  | str s => rw [h.eq_of_ne_obj nofun]; exact .str s
  | arr all ih => rw [h.eq_of_ne_obj nofun]; exact .arr all
  | @obj ms distinct all ih =>
    obtain ⟨ns, ks, rfl, horder, hnames, hvalues⟩ := h.exists_of_obj
    have hdistinct : (ks.map Prod.fst).Nodup := by
      rw [← (horder.map Prod.fst).nodup_iff, ← hnames]
      exact distinct
    refine .obj hdistinct fun k hk => ?_
    -- No name comes twice, so what stands under the name of `k` in the other object is
    -- what `k` was rearranged from.
    have hvalue : lookup ns k.1 = some k.2 := by
      rw [← lookup_perm horder (hnames ▸ distinct)]
      exact lookup_of_nodup hdistinct hk
    have hrel := lookup_rel hnames hvalues k.1
    rw [hvalue] at hrel
    generalize hlookup : lookup ms k.1 = found at hrel
    cases hrel with
    | some hrearranged => exact ih _ (mem_of_lookup hlookup) hrearranged

end Rearranged

end Json

/-! ## Records with defaults -/

/-- What the row has under the name of the member is what is left of what the member writes. -/
def Member.LeftIn {ρ : Type} (m : Member ρ) (removed : List String → Bool) (row : Row) (r : ρ) :
    Prop :=
  if removed [m.name] then row m.name = none
  else ∃ v, row m.name = some v ∧
    ((m.write r).without fun path => removed (m.name :: path)).Rearranged v

/-- What is left of a written value is read as the value in which the removed parts are reset. -/
structure ReadsRest {α : Type} (read : Json → Option α) (write : α → Json) (fits : α → Prop)
    (reset : (List String → Bool) → α → α) : Prop where
  rest : ∀ {a : α} {removed : List String → Bool} {v : Json}, fits a →
    ((write a).without removed).Rearranged v → read v = some (reset removed a)

section

variable {ρ α : Type} {read : Json → Option α} {write : α → Json} {fits : α → Prop}
  {reset : (List String → Bool) → α → α} {removed : List String → Bool}

theorem Json.without_of_ne_obj {v : Json} (hv : ∀ ms, v ≠ .obj ms) : v.without removed = v := by
  cases v with
  | obj ms => exact absurd rfl (hv ms)
  | _ => rfl

/-- A value that is written without an object has no members to leave out. -/
theorem Reads.rest (h : Reads read write fits) (hwrite : ∀ a ms, write a ≠ .obj ms) :
    ReadsRest read write fits fun _ a => a where
  rest {a removed v} hfits hv := by
    rw [Json.without_of_ne_obj (hwrite a)] at hv
    rw [hv.eq_of_ne_obj (hwrite a)]
    exact h.back hfits

/-- A missing member takes its default, and any other is read as what is left of it. -/
theorem ReadsRest.orElse (h : ReadsRest read write fits reset) {name : String} {get : ρ → α}
    {row : Row} {r : ρ} (hleft : (Member.always name write get).LeftIn removed row r)
    (hfits : fits (get r)) (default : α) : row.orElse name read default =
      some (if removed [name] then default
        else reset (fun path => removed (name :: path)) (get r)) := by
  change if removed [name] then row name = none else ∃ v, row name = some v ∧
    ((write (get r)).without fun path => removed (name :: path)).Rearranged v at hleft
  unfold Row.orElse
  by_cases hremoved : removed [name] = true
  · rw [if_pos hremoved] at hleft
    rw [hleft, if_pos hremoved]
  · rw [if_neg hremoved] at hleft
    obtain ⟨v, hrow, hv⟩ := hleft
    rw [hrow, if_neg hremoved]
    exact h.rest hfits hv

end

namespace Record

variable {ρ : Type} [Record ρ] {removed : List String → Bool} {r : ρ} {v : Json}

theorem row?_of_nodup {ms : List (String × Json)} (h : (ms.map Prod.fst).Nodup) :
    row? ρ (.obj ms) = some (lookup ms) := by
  have hall : ((names ρ).all fun name => ms.countP (fun m => m.1 = name) ≤ 1) = true :=
    List.all_eq_true.mpr fun name _ => decide_eq_true (countP_name_le_one h name)
  simp only [row?, hall, if_true]

/-- The row of what is left of a written record has what is left of each member. -/
theorem exists_row (hdistinct : (names ρ).Nodup)
    (h : ((toJson r).without removed).Rearranged v) :
    ∃ row, row? ρ v = some row ∧ ∀ m ∈ (members : List (Member ρ)), m.LeftIn removed row r := by
  have hwritten : ((members.map fun m : Member ρ => (m.name, m.write r)).map Prod.fst).Nodup := by
    rw [List.map_map]
    exact hdistinct
  rw [toJson, Json.without] at h
  obtain ⟨ns, ks, rfl, horder, hnames, hvalues⟩ := h.exists_of_obj
  have hns : (ns.map Prod.fst).Nodup := by
    rw [← hnames, Json.withoutMembers_eq_map, List.map_map]
    exact hwritten.sublist (List.filter_sublist.map Prod.fst)
  refine ⟨lookup ks, row?_of_nodup ((horder.map Prod.fst).nodup_iff.mp hns), fun m hm => ?_⟩
  have hlookup : lookup (members.map fun m : Member ρ => (m.name, m.write r)) m.name =
      some (m.write r) := lookup_of_nodup hwritten (List.mem_map_of_mem hm)
  have hrel := Json.Rearranged.lookup_rel hnames hvalues m.name
  rw [Json.lookup_withoutMembers, hlookup, Option.map_some, ← lookup_perm horder hns] at hrel
  unfold Member.LeftIn
  generalize lookup ks m.name = found at hrel ⊢
  split at hrel
  · rename_i hremoved
    rw [if_pos hremoved]
    cases hrel
    rfl
  · rename_i hkept
    rw [if_neg hkept]
    cases hrel with
    | some hrearranged => exact ⟨_, rfl, hrearranged⟩

/-- A record is read with defaults if its members are, whatever is left in the row. -/
theorem readsRest {fits : ρ → Prop} {reset : (List String → Bool) → ρ → ρ}
    (hdistinct : (names ρ).Nodup)
    (hbuild : ∀ {row : Row} {r : ρ} {removed : List String → Bool}, fits r →
      (∀ m ∈ members, m.LeftIn removed row r) → build row = some (reset removed r)) :
    ReadsRest ofJson? toJson fits reset where
  rest hfits hv := by
    obtain ⟨row, hrow, hleft⟩ := exists_row hdistinct hv
    rw [ofJson?, hrow, Option.bind_some]
    exact hbuild hfits hleft

end Record

end Relocation
