/-
  The normal form of file extensions.

  1. **Single extensions** — an extension is refused if nothing but a dot is left of it, and has a
     normal form otherwise (`normalExtension?_eq`).  The normal form is its own normal form
     (`normalForm_normalForm`).

  2. **Lists** — a list is refused for one such extension, or because it is empty; otherwise each
     normal form is taken once, at its first place (`normalExtensions_eq`).

  3. **Canonical lists** — so what comes out is a list of distinct normal forms, and comes out again
     when it is put in (`normalExtensions_canonical`).
-/
import QueryTypings.Config.Settings
import QueryTypings.Proofs.Distinct
import QueryTypings.Proofs.Text.LowerCase

namespace QueryTypings.Config

open QueryTypings.Text

/-! ## Single extensions -/

/-- The text without the blanks around it, in lower case, with a dot in front. -/
def normalForm (text : String) : String :=
  let cs := lower (trim text.toList)
  String.ofList (if cs.head? = some '.' then cs else '.' :: cs)

/-- Nothing is left of the text without the blanks around it, or a single dot. -/
def NamesNothing (text : String) : Prop := trim text.toList = [] ∨ trim text.toList = ['.']

instance (text : String) : Decidable (NamesNothing text) := inferInstanceAs (Decidable (_ ∨ _))

/-- Lower-casing does not change whether a text names anything. -/
theorem namesNothing_iff_lower {text : String} :
    NamesNothing text ↔ lower (trim text.toList) = [] ∨ lower (trim text.toList) = ['.'] := by
  rw [NamesNothing, lower_eq_nil_iff]
  refine or_congr_right ⟨fun h => ?_, eq_dot_of_lower⟩
  rw [h]
  exact lower_of_isSettled (List.forall_mem_singleton.mpr isSettled_dot)

/-- **An extension that names something has a normal form.** -/
theorem normalExtension?_eq (text : String) :
    normalExtension? text = if NamesNothing text then none else some (normalForm text) := by
  rw [normalExtension?, normalForm]
  simp only [namesNothing_iff_lower]
  split
  · rename_i h
    rw [if_pos (Or.inl h)]
  · rename_i h
    rw [if_pos (Or.inr h)]
  · rename_i r hone h
    have hr : r ≠ [] := by
      rintro rfl
      exact hone rfl
    rw [if_neg (by simpa [h] using hr), h]
    rfl
  · rename_i hnil hone hdot
    have hhead : (lower (trim text.toList)).head? ≠ some '.' := by
      intro hhead
      obtain ⟨r, hr⟩ := List.head?_eq_some_iff.mp hhead
      exact hdot r hr
    rw [if_neg (not_or.mpr ⟨hnil, hone⟩), if_neg hhead]

/-- A normal form has a dot in front, and ends with no blank. -/
theorem normalForm_shape {text : String} (h : ¬ NamesNothing text) :
    ∃ r, r ≠ [] ∧ (normalForm text).toList = '.' :: r ∧ IsTrimmed ('.' :: r)
      ∧ ∀ c ∈ r, IsSettled c := by
  rw [namesNothing_iff_lower, not_or] at h
  obtain ⟨hnil, hone⟩ := h
  have htrimmed := (isTrimmed_trim text.toList).lower
  have hsettled : ∀ c ∈ lower (trim text.toList), IsSettled c := fun _ => isSettled_of_mem_lower
  simp only [normalForm, String.toList_ofList]
  split
  · rename_i hhead
    obtain ⟨r, hr⟩ := List.head?_eq_some_iff.mp hhead
    rw [hr] at hone htrimmed hsettled
    exact ⟨r, fun hr => hone (hr ▸ rfl), hr, htrimmed, fun c hc =>
      hsettled c (List.mem_cons_of_mem _ hc)⟩
  · have hdot : ∀ c ∈ ('.' :: lower (trim text.toList)).head?, isBlank c = false := by
      intro c hc
      obtain rfl := Option.some.inj hc
      decide
    refine ⟨_, hnil, rfl, ⟨hdot, ?_⟩, hsettled⟩
    rw [List.getLast?_cons_of_ne_nil hnil]
    exact htrimmed.2

/-- A text with a dot in front and more, in lower case and without blanks around it, is its own
    normal form. -/
theorem normalForm_eq_self {text : String} {r : List Char} (hr : r ≠ [])
    (htext : text.toList = '.' :: r) (htrimmed : IsTrimmed ('.' :: r))
    (hsettled : ∀ c ∈ r, IsSettled c) : ¬ NamesNothing text ∧ normalForm text = text := by
  have htrim : trim text.toList = '.' :: r := by rw [htext, trim_of_isTrimmed htrimmed]
  have hlower : lower ('.' :: r) = '.' :: r :=
    lower_of_isSettled (List.forall_mem_cons.mpr ⟨isSettled_dot, hsettled⟩)
  refine ⟨?_, ?_⟩
  · rw [NamesNothing, htrim]
    simpa using hr
  · simp only [normalForm, htrim, hlower]
    rw [if_pos List.head?_cons, ← htext, String.ofList_toList]

/-- **The normal form of an extension is its own normal form.** -/
theorem normalForm_normalForm {text : String} (h : ¬ NamesNothing text) :
    ¬ NamesNothing (normalForm text) ∧ normalForm (normalForm text) = normalForm text := by
  obtain ⟨r, hr, htext, htrimmed, hsettled⟩ := normalForm_shape h
  exact normalForm_eq_self hr htext htrimmed hsettled

/-! ## Lists -/

/-- The normal form of an extension is added if it is new. -/
theorem addExtensions_cons {e : String} (he : ¬ NamesNothing e) (r seen : List String) :
    addExtensions (e :: r) seen
      = addExtensions r (if normalForm e ∈ seen then seen else seen ++ [normalForm e]) := by
  rw [addExtensions, normalExtension?_eq, if_neg he]
  simp only [List.contains_iff_mem]

/-- What is added to extensions that came before are the new ones among the normal forms. -/
theorem addExtensions_eq {es seen : List String} : addExtensions es seen
    = if ∃ e ∈ es, NamesNothing e then .error .empty
      else .ok (seen ++ ((es.map normalForm).filter (· ∉ seen)).eraseDups) := by
  -- what came before grows by the first normal form, which drops out of the rest
  induction es generalizing seen with
  | nil => simp [addExtensions]
  | cons e r ih =>
      by_cases he : NamesNothing e
      · rw [addExtensions, normalExtension?_eq, if_pos he, if_pos ⟨e, List.mem_cons_self, he⟩]
      · have hsome : (∃ x ∈ e :: r, NamesNothing x) ↔ ∃ x ∈ r, NamesNothing x := by
          rw [List.exists_mem_cons_iff, or_iff_right he]
        rw [addExtensions_cons he, ih]
        simp only [hsome]
        split
        · rfl
        · congr 1
          by_cases hseen : normalForm e ∈ seen
          · rw [if_pos hseen, List.map_cons, List.filter_cons_of_neg (by simpa using hseen)]
          · have hrest : (r.map normalForm).filter (· ∉ seen ++ [normalForm e])
                = ((r.map normalForm).filter (· ∉ seen)).filter (fun b => !b == normalForm e) := by
              rw [List.filter_filter]
              refine List.filter_congr fun x _ => ?_
              rw [Bool.eq_iff_iff]
              simp [and_comm]
            rw [if_neg hseen, hrest, List.map_cons, List.filter_cons_of_pos (by simpa using hseen),
              List.eraseDups_cons, List.append_assoc, List.singleton_append]

/-- **What becomes of a list of extensions.** -/
theorem normalExtensions_eq (es : List String) : normalExtensions es
    = if ∃ e ∈ es, NamesNothing e then .error .empty
      else if es = [] then .error .none
      else .ok (es.map normalForm).eraseDups := by
  have hall : (es.map normalForm).filter (· ∉ ([] : List String)) = es.map normalForm := by simp
  rw [normalExtensions, addExtensions_eq, hall, List.nil_append]
  by_cases hnothing : ∃ e ∈ es, NamesNothing e
  · rw [if_pos hnothing, if_pos hnothing]
  · rw [if_neg hnothing, if_neg hnothing]
    cases es with
    | nil => rfl
    | cons e r =>
        rw [if_neg (List.cons_ne_nil e r), List.map_cons, List.eraseDups_cons]

/-! ## Canonical lists -/

/-- A list of extensions in its canonical form. -/
structure IsCanonical (found : List String) : Prop where
  /-- There is one. -/
  ne_nil : found ≠ []
  /-- Each has a dot in front and goes on behind it. -/
  dotted : ∀ x ∈ found, ∃ r, r ≠ [] ∧ x.toList = '.' :: r
  /-- Each is there once. -/
  distinct : found.Nodup
  /-- The list is its own normal form. -/
  stable : normalExtensions found = .ok found

theorem isCanonical_of_ok {es found : List String} (h : normalExtensions es = .ok found) :
    IsCanonical found ∧ (∀ e ∈ es, ¬ NamesNothing e) ∧ found = (es.map normalForm).eraseDups := by
  rw [normalExtensions_eq] at h
  split at h
  · cases h
  · rename_i hsome
    split at h
    · cases h
    · rename_i hne
      obtain rfl := Except.ok.inj h
      have hnames : ∀ e ∈ es, ¬ NamesNothing e := fun e he hn => hsome ⟨e, he, hn⟩
      have hforms : ∀ x ∈ (es.map normalForm).eraseDups, ∃ e ∈ es, normalForm e = x := fun x hx =>
        List.mem_map.mp (List.mem_eraseDups.mp hx)
      have hne' : (es.map normalForm).eraseDups ≠ [] := by
        obtain ⟨e, r, rfl⟩ := List.exists_cons_of_ne_nil hne
        rw [List.map_cons, List.eraseDups_cons]
        exact List.cons_ne_nil _ _
      refine ⟨⟨hne', fun x hx => ?_, nodup_eraseDups _, ?_⟩, hnames, rfl⟩
      · obtain ⟨e, he, rfl⟩ := hforms x hx
        obtain ⟨r, hr, htext, -⟩ := normalForm_shape (hnames e he)
        exact ⟨r, hr, htext⟩
      · have hstay : ∀ x ∈ (es.map normalForm).eraseDups, ¬ NamesNothing x ∧ normalForm x = x := by
          intro x hx
          obtain ⟨e, he, rfl⟩ := hforms x hx
          exact normalForm_normalForm (hnames e he)
        have hsame : (es.map normalForm).eraseDups.map normalForm = (es.map normalForm).eraseDups :=
          (List.map_congr_left fun x hx => (hstay x hx).2).trans (List.map_id _)
        rw [normalExtensions_eq, if_neg fun ⟨x, hx, hn⟩ => (hstay x hx).1 hn, if_neg hne', hsame,
          eraseDups_of_nodup (nodup_eraseDups _)]

/-- Extensions in their canonical form are in lower case. -/
theorem IsCanonical.settled {found : List String} (h : IsCanonical found) {x : String}
    (hx : x ∈ found) : ∀ c ∈ x.toList, IsSettled c := by
  obtain ⟨-, hnames, hfound⟩ := isCanonical_of_ok h.stable
  rw [hfound, List.mem_eraseDups] at hx
  obtain ⟨e, he, rfl⟩ := List.mem_map.mp hx
  obtain ⟨r, -, htext, -, hsettled⟩ := normalForm_shape (hnames e he)
  rw [htext]
  exact List.forall_mem_cons.mpr ⟨isSettled_dot, hsettled⟩

/-- **Extensions are brought to a canonical form**, which holds the normal form of each, in the order of
    their first places, or they are refused: if there is none, or one of them names nothing. -/
theorem normalExtensions_canonical (es : List String) :
    ((∃ f, normalExtensions es = .error f) ↔ es = [] ∨ ∃ e ∈ es, NamesNothing e)
      ∧ ∀ found, normalExtensions es = .ok found →
        IsCanonical found
          ∧ (∀ x, x ∈ found ↔ ∃ e ∈ es, normalForm e = x)
          ∧ ∀ x y, found.idxOf x < found.idxOf y
            ↔ (es.map normalForm).idxOf x < (es.map normalForm).idxOf y := by
  refine ⟨?_, fun found h => ?_⟩
  · rw [normalExtensions_eq]
    split
    · rename_i hnothing
      exact iff_of_true ⟨_, rfl⟩ (Or.inr hnothing)
    · rename_i hnothing
      split
      · rename_i hnil
        exact iff_of_true ⟨_, rfl⟩ (Or.inl hnil)
      · rename_i hne
        exact iff_of_false (fun ⟨f, hf⟩ => by cases hf) (not_or.mpr ⟨hne, hnothing⟩)
  · obtain ⟨hcanonical, -, rfl⟩ := isCanonical_of_ok h
    refine ⟨hcanonical, fun x => ?_, fun x y => idxOf_eraseDups_lt_iff⟩
    rw [List.mem_eraseDups, List.mem_map]

/-- Blanks, capitals and missing dots make no difference, and the sigma at the end of a word does. -/
theorem normalExtensions_canonical_greek :
    normalExtensions [" GQL", ".ΟΔΟΣ\t", "gql", ".Gql"] = .ok [".gql", ".οδος"]
      ∧ IsCanonical [".gql", ".οδος"] := by
  have h : normalExtensions [" GQL", ".ΟΔΟΣ\t", "gql", ".Gql"] = .ok [".gql", ".οδος"] := by
    decide +kernel
  exact ⟨h, ((normalExtensions_canonical _).2 _ h).1⟩

end QueryTypings.Config
