-- The written forms of a record. A reader takes the members of an object in any order,
-- among members that it does not know, and without those that are `null` anyway, or
-- the values alone in an array. It never does without a member that is required.
import Relocation.Json.Record
import Relocation.Table

namespace Relocation

/-! ## Values and members -/

/-- What fits is read back from what is written, and `null` is never read. -/
structure Reads {α : Type} (read : Json → Option α) (write : α → Json) (fits : α → Prop) :
    Prop where
  back : ∀ {a}, fits a → read (write a) = some a
  null : read .null = none

/-- What the row has under the name of the member is what the member writes. One that
is not required may be left out instead of being `null`. -/
def Member.ShownBy {ρ : Type} (m : Member ρ) (row : Row) (r : ρ) : Prop :=
  row m.name = some (m.write r) ∨
    (m.required = false ∧ m.write r = .null ∧ row m.name = none)

section

variable {ρ α : Type} {read : Json → Option α} {write : α → Json} {fits : α → Prop} {name : String}
  {row : Row} {r : ρ}

theorem Reads.write_ne_null (h : Reads read write fits) {a : α} (ha : fits a) :
    write a ≠ .null := by
  intro hnull
  have hback := h.back ha
  rw [hnull, h.null] at hback
  cases hback

theorem Reads.required (h : Reads read write fits) {get : ρ → α}
    (hshown : (Member.always name write get).ShownBy row r) (hfits : fits (get r)) :
    row.required name read = some (get r) := by
  rcases hshown with hrow | ⟨hoptional, -, -⟩
  · change row name = some (write (get r)) at hrow
    rw [Row.required, hrow]
    exact h.back hfits
  · cases hoptional

theorem Row.optional_of_some {v : Json} (hrow : row name = some v) (hv : v ≠ .null) :
    row.optional name read = (read v).map some := by
  unfold Row.optional
  rw [hrow]
  cases v with
  | null => exact absurd rfl hv
  | _ => rfl

theorem Reads.optional (h : Reads read write fits) {get : ρ → Option α}
    (hshown : (Member.maybe name write get).ShownBy row r) (hfits : ∀ a ∈ get r, fits a) :
    row.optional name read = some (get r) := by
  change row name = some (Json.ofOption write (get r)) ∨
    (_ ∧ Json.ofOption write (get r) = .null ∧ row name = none) at hshown
  rcases hget : get r with _ | a
  · rw [hget] at hshown
    unfold Row.optional
    rcases hshown with hrow | ⟨-, -, hrow⟩
    · rw [hrow]
      rfl
    · rw [hrow]
  · have ha := hfits a hget
    rw [hget] at hshown
    rcases hshown with hrow | ⟨-, hnull, -⟩
    · rw [Row.optional_of_some hrow (h.write_ne_null ha)]
      exact congrArg (Option.map some) (h.back ha)
    · exact absurd hnull (h.write_ne_null ha)

theorem Reads.always (h : Reads read write fun _ => True) {get : ρ → α}
    (hshown : (Member.always name write get).ShownBy row r) :
    row.required name read = some (get r) := h.required hshown trivial

theorem Reads.maybe (h : Reads read write fun _ => True) {get : ρ → Option α}
    (hshown : (Member.maybe name write get).ShownBy row r) :
    row.optional name read = some (get r) := h.optional hshown fun _ _ => trivial

end

/-! ## What is demanded -/

/-- A record is read only if each of the names has a value that is not `null`. -/
def Row.Demands {ρ : Type} (row : Row) (names : List String) (read : Option ρ) : Prop :=
  ∀ r, read = some r → ∀ name ∈ names, ∃ v, row name = some v ∧ v ≠ .null

namespace Row.Demands

variable {ρ α : Type} {row : Row} {names : List String}

theorem nil {read : Option ρ} : row.Demands [] read := nofun

theorem required {read : Json → Option α} {name : String} {next : α → Option ρ}
    (hnull : read .null = none) (hnext : ∀ a, row.Demands names (next a)) :
    row.Demands (name :: names) ((row.required name read).bind next) := by
  intro r hr
  obtain ⟨a, ha, hrest⟩ := Option.bind_eq_some_iff.mp hr
  obtain ⟨v, hrow, hread⟩ := Option.bind_eq_some_iff.mp ha
  refine List.forall_mem_cons.mpr ⟨⟨v, hrow, ?_⟩, hnext a r hrest⟩
  rintro rfl
  rw [hnull] at hread
  cases hread

theorem optional {read : Json → Option α} {name : String} {next : Option α → Option ρ}
    (hnext : ∀ a, row.Demands names (next a)) :
    row.Demands names ((row.optional name read).bind next) := by
  intro r hr
  obtain ⟨a, -, hrest⟩ := Option.bind_eq_some_iff.mp hr
  exact hnext a r hrest

end Row.Demands

/-! ## Names -/

theorem lookup_cons (m : String × Json) (ms : List (String × Json)) (name : String) :
    lookup (m :: ms) name = if m.1 = name then some m.2 else lookup ms name := by
  unfold lookup
  rw [List.find?_cons]
  by_cases h : m.1 = name <;> simp [h]

theorem lookup_of_mem {ms : List (String × Json)} {name : String} {v : Json} (h : (name, v) ∈ ms)
    (hone : ∀ w, (name, w) ∈ ms → w = v) : lookup ms name = some v := by
  unfold lookup
  rcases hfind : ms.find? (fun m => m.1 = name) with _ | ⟨name', w⟩
  · rw [List.find?_eq_none] at hfind
    exact absurd (decide_eq_true rfl) (hfind (name, v) h)
  · have hname : name' = name := by simpa using List.find?_some hfind
    have hmem := List.mem_of_find?_eq_some hfind
    rw [hname] at hmem
    rw [hfind, Option.map_some, hone w hmem]

theorem mem_of_lookup {ms : List (String × Json)} {name : String} {v : Json}
    (h : lookup ms name = some v) : (name, v) ∈ ms := by
  obtain ⟨⟨name', w⟩, hfind, rfl⟩ := Option.map_eq_some_iff.mp h
  obtain rfl : name' = name := by simpa using List.find?_some hfind
  exact List.mem_of_find?_eq_some hfind

theorem lookup_eq_none {ms : List (String × Json)} {name : String} (h : ∀ v, (name, v) ∉ ms) :
    lookup ms name = none := by
  rcases hlookup : lookup ms name with _ | v
  · rfl
  · exact absurd (mem_of_lookup hlookup) (h v)

/-- Where no name comes twice, each value stands under its name. -/
theorem lookup_of_nodup {ms : List (String × Json)} (h : (ms.map Prod.fst).Nodup)
    {m : String × Json} (hm : m ∈ ms) : lookup ms m.1 = some m.2 := by
  have hfind := find?_of_mem Prod.fst h hm
  unfold lookup
  rw [hfind, Option.map_some]

theorem countP_name_le_one {ms : List (String × Json)} (h : (ms.map Prod.fst).Nodup)
    (name : String) : ms.countP (fun m => m.1 = name) ≤ 1 := by
  have hcount := List.nodup_iff_count.mp h name
  rwa [List.count_eq_countP, List.countP_map] at hcount

theorem lookup_perm {ms ns : List (String × Json)} (h : ms.Perm ns)
    (hdistinct : (ms.map Prod.fst).Nodup) (name : String) : lookup ns name = lookup ms name := by
  have hdistinct' : (ns.map Prod.fst).Nodup := (h.map Prod.fst).nodup_iff.mp hdistinct
  rcases hlookup : lookup ms name with _ | v
  · refine lookup_eq_none fun v hv => ?_
    have hsome := lookup_of_nodup hdistinct (h.mem_iff.mpr hv)
    rw [hlookup] at hsome
    cases hsome
  · exact lookup_of_nodup hdistinct' (h.mem_iff.mp (mem_of_lookup hlookup))

/-! ## The forms of a record -/

namespace Record

variable {ρ : Type} [Record ρ]

/-- The members that are kept, as an object has them. -/
def kept (r : ρ) (keep : String → Bool) : List (String × Json) :=
  (members.filter fun m : Member ρ => keep m.name).map fun m => (m.name, m.write r)

/-- The values of all members, in order. -/
def values (r : ρ) : List Json := members.map fun m : Member ρ => m.write r

/-- The names of the members that are required, in order. -/
def requiredNames (ρ : Type) [Record ρ] : List String :=
  ((members : List (Member ρ)).filter (·.required)).map (·.name)

/-- All forms of a record are read as one record, `reread` of it, which is the record itself
wherever its text says all of it: the object of its members, in any order, without some that
are `null` and not required and with others under names that are unknown, and the array of
its values. None is read without a required member or with `null` in its place, and no array
with more values or fewer. -/
structure Interchangeable (ρ : Type) [Record ρ] (fits : ρ → Prop) (reread : ρ → ρ) : Prop where
  object : ∀ r : ρ, fits r → ofJson? (toJson r) = some (reread r)
  rearranged : ∀ r : ρ, fits r → ∀ (keep : String → Bool) (extra ms : List (String × Json)),
    (∀ m ∈ (members : List (Member ρ)), keep m.name = false →
      m.required = false ∧ m.write r = .null) →
    (∀ e ∈ extra, e.1 ∉ names ρ) → ms.Perm (kept r keep ++ extra) →
    ofJson? (.obj ms) = some (reread r)
  array : ∀ r : ρ, fits r → ofJson? (.arr (values r)) = some (reread r)
  required : ∀ m ∈ (members : List (Member ρ)), m.required = true → ∀ ms : List (String × Json),
    (∀ v, (m.name, v) ∈ ms → v = .null) → (ofJson? (.obj ms) : Option ρ) = none
  requiredItem : ∀ m ∈ (members : List (Member ρ)), m.required = true → ∀ items : List Json,
    (m.name, .null) ∈ (names ρ).zip items → (ofJson? (.arr items) : Option ρ) = none
  length : ∀ items : List Json, items.length ≠ (names ρ).length →
    (ofJson? (.arr items) : Option ρ) = none

/-- What makes the forms interchangeable: the names are distinct, an array has all
values, a row with all members is read back, and no row is read without a required one. -/
structure Lawful (ρ : Type) [Record ρ] (fits : ρ → Prop) : Prop where
  distinct : (names ρ).Nodup
  whole : mayEndEarly ρ = false
  back : ∀ {row : Row} {r : ρ}, fits r → (∀ m ∈ members, m.ShownBy row r) → build row = some r
  demands : ∀ row : Row, row.Demands (requiredNames ρ) (build row : Option ρ)

variable {fits : ρ → Prop}

theorem mem_kept {r : ρ} {keep : String → Bool} {name : String} {v : Json} :
    (name, v) ∈ kept r keep ↔
      ∃ m ∈ (members : List (Member ρ)), keep m.name = true ∧ m.name = name ∧ m.write r = v := by
  simp [kept, and_assoc]

/-- A member that is required is there, and not `null`. -/
theorem Lawful.present (h : Lawful ρ fits) {row : Row} {r : ρ} (hbuild : build row = some r)
    {m : Member ρ} (hm : m ∈ members) (hrequired : m.required = true) :
    ∃ v, row m.name = some v ∧ v ≠ .null :=
  h.demands row r hbuild m.name (List.mem_map_of_mem (List.mem_filter.mpr ⟨hm, hrequired⟩))

/-- Members with one name are one member. -/
theorem Lawful.eq_of_name (h : Lawful ρ fits) {m m' : Member ρ} (hm : m ∈ members)
    (hm' : m' ∈ members) (hname : m.name = m'.name) : m = m' := by
  have hfind := find?_of_mem Member.name h.distinct hm
  rw [hname, find?_of_mem Member.name h.distinct hm'] at hfind
  exact (Option.some.inj hfind).symm

/-- An object shows the record if it has the members that are kept, and others only
under unknown names. -/
theorem Lawful.shownBy_lookup (h : Lawful ρ fits) {r : ρ} {keep : String → Bool}
    {extra ms : List (String × Json)}
    (hkeep : ∀ m ∈ (members : List (Member ρ)), keep m.name = false →
      m.required = false ∧ m.write r = .null)
    (hextra : ∀ e ∈ extra, e.1 ∉ names ρ) (hms : ms.Perm (kept r keep ++ extra)) :
    ∀ m ∈ (members : List (Member ρ)), m.ShownBy (lookup ms) r := by
  intro m hm
  have hone : ∀ v, (m.name, v) ∈ ms → keep m.name = true ∧ v = m.write r := by
    intro v hv
    rcases List.mem_append.mp (hms.mem_iff.mp hv) with hv | hv
    · obtain ⟨m', hm', hkeep', hname, rfl⟩ := mem_kept.mp hv
      obtain rfl := h.eq_of_name hm' hm hname
      exact ⟨hkeep', rfl⟩
    · exact absurd (List.mem_map_of_mem hm) (hextra _ hv)
  by_cases hkept : keep m.name = true
  · have hmem : (m.name, m.write r) ∈ ms :=
      hms.mem_iff.mpr (List.mem_append_left _ (mem_kept.mpr ⟨m, hm, hkept, rfl, rfl⟩))
    exact .inl (lookup_of_mem hmem fun v hv => (hone v hv).2)
  · obtain ⟨hoptional, hnull⟩ := hkeep m hm (Bool.eq_false_iff.mpr hkept)
    exact .inr ⟨hoptional, hnull, lookup_eq_none fun v hv => hkept (hone v hv).1⟩

theorem kept_all (r : ρ) :
    kept r (fun _ => true) = members.map fun m : Member ρ => (m.name, m.write r) := by
  rw [kept, List.filter_eq_self.mpr fun _ _ => rfl]

theorem zip_values (r : ρ) : (names ρ).zip (values r) = kept r fun _ => true := by
  rw [kept_all, names, values, List.zip_map']

/-- A name stands under at most one member of an object that shows the record. -/
theorem Lawful.row?_obj (h : Lawful ρ fits) {r : ρ} {keep : String → Bool}
    {extra ms : List (String × Json)} (hextra : ∀ e ∈ extra, e.1 ∉ names ρ)
    (hms : ms.Perm (kept r keep ++ extra)) : row? ρ (.obj ms) = some (lookup ms) := by
  have hextra' : ∀ name ∈ names ρ, extra.countP (fun m => m.1 = name) = 0 := by
    intro name hname
    rw [List.countP_eq_zero]
    intro e he hname'
    exact hextra e he (of_decide_eq_true hname' ▸ hname)
  have hkept : ∀ name, (kept r keep).countP (fun m => m.1 = name) ≤ 1 := by
    have hsub : ((kept r keep).map Prod.fst).Sublist (names ρ) := by
      unfold kept names
      rw [List.map_map]
      exact List.filter_sublist.map Member.name
    exact countP_name_le_one (h.distinct.sublist hsub)
  have hall : ((names ρ).all fun name => ms.countP (fun m => m.1 = name) ≤ 1) = true := by
    rw [List.all_eq_true]
    intro name hname
    rw [hms.countP_eq, List.countP_append, hextra' name hname]
    exact decide_eq_true (hkept name)
  simp only [row?, hall, if_true]

/-- No object is read in which a required member is missing or `null`. -/
theorem Lawful.ofJson?_obj_eq_none (h : Lawful ρ fits) {m : Member ρ} (hm : m ∈ members)
    (hrequired : m.required = true) {ms : List (String × Json)}
    (hnull : ∀ v, (m.name, v) ∈ ms → v = .null) : (ofJson? (.obj ms) : Option ρ) = none := by
  rw [Option.eq_none_iff_forall_ne_some]
  intro r hr
  obtain ⟨row, hrow, hbuild⟩ := Option.bind_eq_some_iff.mp hr
  simp only [row?, Option.ite_none_right_eq_some, Option.some.injEq] at hrow
  obtain ⟨-, rfl⟩ := hrow
  obtain ⟨v, hv, hne⟩ := h.present hbuild hm hrequired
  exact hne (hnull v (mem_of_lookup hv))

/-- An array is read only if it has a value for each member. -/
theorem Lawful.row?_arr (h : Lawful ρ fits) {items : List Json} {row : Row} :
    row? ρ (.arr items) = some row ↔
      items.length = (names ρ).length ∧ row = lookup ((names ρ).zip items) := by
  simp [row?, h.whole, eq_comm]

/-- No array is read that has `null` for a required member. -/
theorem Lawful.ofJson?_arr_eq_none (h : Lawful ρ fits) {m : Member ρ} (hm : m ∈ members)
    (hrequired : m.required = true) {items : List Json}
    (hnull : (m.name, Json.null) ∈ (names ρ).zip items) :
    (ofJson? (.arr items) : Option ρ) = none := by
  rw [Option.eq_none_iff_forall_ne_some]
  intro r hr
  obtain ⟨row, hrow, hbuild⟩ := Option.bind_eq_some_iff.mp hr
  obtain ⟨hlength, rfl⟩ := h.row?_arr.mp hrow
  obtain ⟨v, hv, hne⟩ := h.present hbuild hm hrequired
  have hnodup : (((names ρ).zip items).map Prod.fst).Nodup := by
    rw [List.map_fst_zip (Nat.le_of_eq hlength.symm)]
    exact h.distinct
  rw [lookup_of_nodup hnodup hnull] at hv
  exact hne (Option.some.inj hv).symm

theorem Lawful.ofJson?_of_perm (h : Lawful ρ fits) {r : ρ} (hr : fits r) {keep : String → Bool}
    {extra ms : List (String × Json)}
    (hkeep : ∀ m ∈ (members : List (Member ρ)), keep m.name = false →
      m.required = false ∧ m.write r = .null)
    (hextra : ∀ e ∈ extra, e.1 ∉ names ρ) (hms : ms.Perm (kept r keep ++ extra)) :
    ofJson? (.obj ms) = some r := by
  rw [ofJson?, h.row?_obj hextra hms, Option.bind_some]
  exact h.back hr (h.shownBy_lookup hkeep hextra hms)

theorem Lawful.ofJson?_values (h : Lawful ρ fits) {r : ρ} (hr : fits r) :
    ofJson? (.arr (values r)) = some r := by
  have hrow : row? ρ (.arr (values r)) = some (lookup (kept r fun _ => true)) :=
    h.row?_arr.mpr ⟨by simp [values, names], by rw [zip_values]⟩
  have hperm : (kept r fun _ => true).Perm ((kept r fun _ => true) ++ []) := by
    rw [List.append_nil]
  rw [ofJson?, hrow, Option.bind_some]
  exact h.back hr (h.shownBy_lookup (by simp) (by simp) hperm)

theorem Lawful.ofJson?_toJson (h : Lawful ρ fits) {r : ρ} (hr : fits r) :
    ofJson? (toJson r) = some r := by
  have hperm : (members.map fun m : Member ρ => (m.name, m.write r)).Perm
      ((kept r fun _ => true) ++ []) := by
    rw [List.append_nil, kept_all]
  exact h.ofJson?_of_perm hr (by simp) (by simp) hperm

/-- The members of both records write the same. -/
def WritesAlike (r r' : ρ) : Prop := ∀ m ∈ (members : List (Member ρ)), m.write r' = m.write r

theorem WritesAlike.toJson_eq {r r' : ρ} (h : WritesAlike r r') : toJson r' = toJson r := by
  unfold toJson
  rw [List.map_congr_left fun m hm => by rw [h m hm]]

theorem WritesAlike.values_eq {r r' : ρ} (h : WritesAlike r r') : values r' = values r :=
  List.map_congr_left h

theorem WritesAlike.kept_eq {r r' : ρ} (h : WritesAlike r r') (keep : String → Bool) :
    kept r' keep = kept r keep := by
  unfold kept
  exact List.map_congr_left fun m hm => by rw [h m (List.mem_filter.mp hm).1]

/-- What is written alike is read alike, so a record that does not fit is read as one that does. -/
theorem Lawful.interchangeable (h : Lawful ρ fits) {holds : ρ → Prop} {reread : ρ → ρ}
    (hfits : ∀ r, holds r → fits (reread r)) (halike : ∀ r, WritesAlike r (reread r)) :
    Interchangeable ρ holds reread where
  object r hr := (halike r).toJson_eq ▸ h.ofJson?_toJson (hfits r hr)
  rearranged r hr keep extra ms hkeep hextra hms := by
    refine h.ofJson?_of_perm (hfits r hr) (fun m hm hout => ?_) hextra
      ((halike r).kept_eq keep ▸ hms)
    obtain ⟨hrequired, hnull⟩ := hkeep m hm hout
    exact ⟨hrequired, (halike r m hm).trans hnull⟩
  array r hr := (halike r).values_eq ▸ h.ofJson?_values (hfits r hr)
  required _ hm hrequired _ hnull := h.ofJson?_obj_eq_none hm hrequired hnull
  requiredItem _ hm hrequired _ hnull := h.ofJson?_arr_eq_none hm hrequired hnull
  length items hlength := by
    rw [Option.eq_none_iff_forall_ne_some]
    intro r hr
    obtain ⟨row, hrow, -⟩ := Option.bind_eq_some_iff.mp hr
    exact hlength (h.row?_arr.mp hrow).1

/-- Records that are read back as they are. -/
theorem Lawful.interchangeable_id (h : Lawful ρ fits) : Interchangeable ρ fits id :=
  h.interchangeable (fun _ hr => hr) fun _ _ _ => rfl

/-- A record within a record. -/
theorem Lawful.reads (h : Lawful ρ fits) : Reads (ofJson? : Json → Option ρ) toJson fits :=
  ⟨h.ofJson?_toJson, rfl⟩

end Record

end Relocation
