/-
  Maps that remember the order in which their keys came.

  A map is a list of pairs.  `put` replaces the value of a key that is there, in its old place, and
  appends a new key at the end; so the keys stand in the order of their first insertion and each
  holds what was put last.
-/

namespace QueryTypings

/-- Pairs of a key and a value, in the order of insertion. -/
abbrev OrderedMap (α : Type) := List (String × α)

namespace OrderedMap

variable {α : Type}

/-- The value of a key. -/
def get? (key : String) : OrderedMap α → Option α
  | [] => none
  | (k, v) :: r => if k = key then some v else get? key r

/-- Sets the value of a key. -/
def put (key : String) (value : α) : OrderedMap α → OrderedMap α
  | [] => [(key, value)]
  | (k, v) :: r => if k = key then (k, value) :: r else (k, v) :: put key value r

/-- The map that a list of pairs describes, later pairs overriding earlier ones. -/
def ofPairs (pairs : List (String × α)) : OrderedMap α :=
  pairs.foldl (fun m p => put p.1 p.2 m) []

/-- The keys in order. -/
def keys (m : OrderedMap α) : List String := m.map (·.1)

@[simp] theorem get?_nil (key : String) : get? key ([] : OrderedMap α) = none := rfl

theorem get?_put_self (key : String) (value : α) (m : OrderedMap α) :
    get? key (put key value m) = some value := by
  induction m with
  | nil => simp [put, get?]
  | cons p r ih =>
      obtain ⟨k, v⟩ := p
      by_cases h : k = key
      · simp [put, get?, h]
      · simp [put, get?, h, ih]

theorem get?_put_of_ne {key other : String} (hne : other ≠ key) (value : α) (m : OrderedMap α) :
    get? other (put key value m) = get? other m := by
  induction m with
  | nil => simp [put, get?, Ne.symm hne]
  | cons p r ih =>
      obtain ⟨k, v⟩ := p
      by_cases h : k = key
      · subst h; simp [put, get?, Ne.symm hne]
      · by_cases h' : k = other
        · subst h'; simp [put, get?, hne]
        · simp [put, get?, h, h', ih]

theorem get?_eq_none_iff {key : String} {m : OrderedMap α} :
    get? key m = none ↔ key ∉ keys m := by
  induction m with
  | nil => simp [keys]
  | cons p r ih =>
      obtain ⟨k, v⟩ := p
      by_cases h : k = key
      · simp [get?, keys, h]
      · simpa [get?, keys, h, Ne.symm h] using ih

theorem mem_of_get? {key : String} {value : α} {m : OrderedMap α}
    (h : get? key m = some value) : (key, value) ∈ m := by
  induction m with
  | nil => simp at h
  | cons p r ih =>
      obtain ⟨k, v⟩ := p
      by_cases hk : k = key
      · simp_all [get?]
      · rw [get?, if_neg hk] at h
        exact List.mem_cons_of_mem _ (ih h)

/-- Where no key stands twice, a pair that is there is what its key leads to. -/
theorem get?_of_mem {key : String} {value : α} {m : OrderedMap α} (hm : (keys m).Nodup)
    (h : (key, value) ∈ m) : get? key m = some value := by
  induction m with
  | nil => simp at h
  | cons p r ih =>
      obtain ⟨k, v⟩ := p
      obtain ⟨hk, hr⟩ := List.nodup_cons.mp hm
      rcases List.mem_cons.mp h with heq | h
      · obtain ⟨rfl, rfl⟩ := Prod.mk.inj heq
        simp [get?]
      · have hne : k ≠ key := by
          rintro rfl
          exact hk (List.mem_map.mpr ⟨_, h, rfl⟩)
        rw [get?, if_neg hne]
        exact ih hr h

/-- Where no key stands twice, the order of the pairs does not matter for where keys lead. -/
theorem get?_of_perm {a b : OrderedMap α} (ha : (keys a).Nodup) (h : a.Perm b) (key : String) :
    get? key a = get? key b := by
  have hkeys : (keys a).Perm (keys b) := h.map _
  have hb : (keys b).Nodup := hkeys.nodup_iff.mp ha
  refine Option.ext fun v => ⟨fun hv => ?_, fun hv => ?_⟩
  · exact get?_of_mem hb (h.mem_iff.mp (mem_of_get? hv))
  · exact get?_of_mem ha (h.mem_iff.mpr (mem_of_get? hv))

theorem get?_append (key : String) (a b : OrderedMap α) :
    get? key (a ++ b) = (get? key a).or (get? key b) := by
  induction a with
  | nil => simp
  | cons p r ih =>
      obtain ⟨k, v⟩ := p
      by_cases h : k = key
      · simp [get?, h]
      · simpa [get?, h] using ih

theorem get?_mapValues {β : Type} (f : String → α → β) (key : String) (m : OrderedMap α) :
    get? key (m.map fun p => (p.1, f p.1 p.2)) = (get? key m).map (f key) := by
  induction m with
  | nil => simp
  | cons p r ih =>
      obtain ⟨k, v⟩ := p
      by_cases h : k = key
      · subst h; simp [get?]
      · simpa [get?, h] using ih

theorem get?_filterKeys (keep : String → Bool) (key : String) (m : OrderedMap α) :
    get? key (m.filter fun p => keep p.1) = if keep key then get? key m else none := by
  induction m with
  | nil => simp
  | cons p r ih =>
      obtain ⟨k, v⟩ := p
      by_cases h : k = key
      · subst h
        by_cases hk : keep k
        · simp [hk, get?]
        · simpa [hk, get?] using ih
      · by_cases hk : keep k
        · simpa [hk, get?, h] using ih
        · simpa [hk, get?, h] using ih

/-- Two maps are the same if their keys stand in the same order and lead to the same values. -/
theorem ext_of_keys {a b : OrderedMap α} (ha : (keys a).Nodup) (hk : keys a = keys b)
    (hv : ∀ key, get? key a = get? key b) : a = b := by
  induction a generalizing b with
  | nil =>
      cases b with
      | nil => rfl
      | cons q t => simp [keys] at hk
  | cons p r ih =>
      cases b with
      | nil => simp [keys] at hk
      | cons q t =>
          obtain ⟨k, v⟩ := p
          obtain ⟨k', v'⟩ := q
          obtain ⟨rfl, hkr⟩ : k = k' ∧ keys r = keys t := by simpa [keys] using hk
          obtain ⟨hkn, hr⟩ := List.nodup_cons.mp ha
          have hvv : v = v' := by simpa [get?] using hv k
          have hrest : ∀ key, get? key r = get? key t := by
            intro key
            by_cases h : k = key
            · subst h
              rw [get?_eq_none_iff.mpr hkn, get?_eq_none_iff.mpr (hkr ▸ hkn)]
            · simpa [get?, h] using hv key
          rw [hvv, ih hr hkr hrest]

/-- A key that is there keeps its place; a new one comes last. -/
theorem keys_put (key : String) (value : α) (m : OrderedMap α) :
    keys (put key value m) = if key ∈ keys m then keys m else keys m ++ [key] := by
  induction m with
  | nil => simp [put, keys]
  | cons p r ih =>
      obtain ⟨k, v⟩ := p
      by_cases h : k = key
      · subst h; simp [put, keys]
      · have hk : key ≠ k := Ne.symm h
        simp only [keys] at ih
        by_cases hm : key ∈ r.map (·.1)
        · simp [put, keys, h, ih, hm]
        · simp [put, keys, h, ih, hm, hk]

/-- Where no key stood twice, none does now. -/
theorem nodup_keys_put {m : OrderedMap α} (h : (keys m).Nodup) (key : String) (value : α) :
    (keys (put key value m)).Nodup := by
  rw [keys_put]
  split
  · exact h
  · rename_i hnew
    refine List.nodup_append.mpr ⟨h, by simp, ?_⟩
    rintro a ha b hb rfl
    exact hnew (List.mem_singleton.mp hb ▸ ha)

theorem put_of_not_mem {key : String} {value : α} {m : OrderedMap α} (h : key ∉ keys m) :
    put key value m = m ++ [(key, value)] := by
  induction m with
  | nil => rfl
  | cons p r ih =>
      obtain ⟨k, v⟩ := p
      obtain ⟨hk, hr⟩ := List.ne_and_not_mem_of_not_mem_cons h
      rw [put, if_neg (Ne.symm hk), ih hr, List.cons_append]

/-- Pairs without a repeated key are the map that they describe. -/
theorem ofPairs_of_nodup {pairs : List (String × α)} (h : (keys pairs).Nodup) :
    ofPairs pairs = pairs := by
  have hfold : ∀ (rest before : List (String × α)), (keys (before ++ rest)).Nodup →
      rest.foldl (fun m p => put p.1 p.2 m) before = before ++ rest := by
    intro rest
    induction rest with
    | nil => exact fun before _ => (List.append_nil before).symm
    | cons p rest ih =>
        intro before hnodup
        have hnew : p.1 ∉ keys before := by
          rw [keys, List.map_append] at hnodup
          exact fun hmem => (List.nodup_append.mp hnodup).2.2 _ hmem _ List.mem_cons_self rfl
        rw [List.foldl_cons, put_of_not_mem hnew, ih _ (by rwa [List.append_assoc]),
          List.append_assoc]
        rfl
  exact hfold pairs [] h

end OrderedMap

end QueryTypings
