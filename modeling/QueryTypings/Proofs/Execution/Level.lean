/-
  The levels of a response, and what conditions leave of them.

  1. **Levels** — an object in a response belongs to a level: its type, the selections from which
     its type was printed, and the selections that it answers.  Both start as the selections of the
     operation.  Below a key the printed type is built from all fields under the key, while the
     response answers those that no condition leaves out (`Reaches`).

  2. **Covering** — a level covers what was printed if every member that is not optional is still
     asked for by the fields that are left (`Level.Covers`).

  3. **What validation promises** — fields of an object that share a key have the same name
     (`Unambiguous`).  So a group that is answered and the entry that was printed for it are of the
     same field (`fieldName_eq`).

  4. **Keys whose fields stand or fall together** — what depends on no condition is never left out
     (`kept_of_mem_occurrences`).  Where of the fields that share a key either none depends on a
     condition or there is only one, a level answers what was printed (`sameOccurrences_inside`).
-/
import QueryTypings.Proofs.Execution.Response

namespace QueryTypings.Execution

open QueryTypings.Graphql QueryTypings.Schema QueryTypings.Shape

variable {g : Setting} {v : String → Bool}

/-! ## Levels -/

/-- What an object of a response comes from. -/
structure Level where
  type : NamedType
  /-- The selections from which the type of the object was printed. -/
  printed : List Selection
  /-- The selections that the object answers. -/
  answered : List Selection

/-- The data of one level contain an object of another level. -/
inductive Reaches (g : Setting) (v : String → Bool) : Level → Data → Level → Prop
  | self {l : Level} {d : Data} : Reaches g v l d l
  | inside {l l' : Level} {fields fs : List (String × Data)} {key : String} {e : Shape.Entry}
      {grp : Group} {x : Data} {T : NamedType} :
      (key, e) ∈ collect g.schema g.fragments l.type false l.printed →
      (key, grp) ∈ collectFields g l.type (keptBy v) l.answered →
      (key, x) ∈ fields → ObjectIn T fs x →
      Reaches g v ⟨T, e.selections, grp.selections⟩ (.object T fs) l' →
      Reaches g v l (.object l.type fields) l'

/-- The member for a key is never absent, but for conditions. -/
def isRequired (T : NamedType) (e : Shape.Entry) : Prop :=
  e.fieldName = "__typename" ∨ ∃ f, T.field? e.fieldName = some f ∧ f.type.isNonNull

/-- Every member that is not optional is asked for by the fields that are left. -/
def Level.Covers (g : Setting) (v : String → Bool) (l : Level) : Prop :=
  ∀ key e, (key, e) ∈ collect g.schema g.fragments l.type false l.printed →
    e.conditional = false → isRequired l.type e →
    ∃ n ∈ fieldsMet g l.type (keptBy v) l.answered, n.key = key

/-! ## What validation promises -/

/-- Below an object with given selections there may be one of another type with other selections. -/
inductive PrintedAt (g : Setting) :
    NamedType → List Selection → NamedType → List Selection → Prop
  | self {T : NamedType} {ss : List Selection} : PrintedAt g T ss T ss
  | inside {T T' T'' : NamedType} {ss ss'' : List Selection} {key : String} {e : Shape.Entry} {f : Field}
      {t : NamedType} :
      (key, e) ∈ collect g.schema g.fragments T false ss →
      T.field? e.fieldName = some f → g.schema.type? f.type.base = some t →
      T' ∈ objectsOf g.schema t → PrintedAt g T' e.selections T'' ss'' →
      PrintedAt g T ss T'' ss''

/-- Fields of an object that share a key have the same name, at every depth. -/
def Unambiguous (g : Setting) (T : NamedType) (ss : List Selection) : Prop :=
  ∀ T' ss', PrintedAt g T ss T' ss' →
    ∀ n ∈ fieldsMet g T' keepsAll ss', ∀ n' ∈ fieldsMet g T' keepsAll ss', n.key = n'.key →
      n.head.name.text = n'.head.name.text

/-! ## What is left of the fields -/

section Kept

variable {parent : NamedType} {keeps : Selection → Bool}
  {expand expand' : String → Bool → List Occurrence}

mutual

theorem mem_occurrencesOf_keepsAll (h : ∀ n c, ∀ o ∈ expand n c, o ∈ expand' n c) (c : Bool) :
    ∀ x : Selection, ∀ o ∈ occurrencesOf g parent keeps expand c x,
      o ∈ occurrencesOf g parent keepsAll expand' c x
  | .leaf f, o, ho => by
      rw [occurrencesOf] at ho ⊢
      split at ho
      · exact ho
      · cases ho
  | .branch f op ss, o, ho => by
      rw [occurrencesOf] at ho ⊢
      split at ho
      · exact ho
      · cases ho
  | .inline t ds p op ss, o, ho => by
      rw [occurrencesOf] at ho ⊢
      split at ho
      · rename_i hk
        rw [Bool.and_eq_true] at hk
        rw [if_pos (by simpa [keepsAll] using hk.2)]
        exact mem_occurrencesIn_keepsAll h _ ss o ho
      · cases ho
  | .spread n ds p, o, ho => by
      rw [occurrencesOf] at ho ⊢
      split at ho
      · exact h _ _ o ho
      · cases ho

theorem mem_occurrencesIn_keepsAll (h : ∀ n c, ∀ o ∈ expand n c, o ∈ expand' n c) (c : Bool) :
    ∀ ss : List Selection, ∀ o ∈ occurrencesIn g parent keeps expand c ss,
      o ∈ occurrencesIn g parent keepsAll expand' c ss
  | [], o, ho => by cases ho
  | x :: r, o, ho => by
      rw [occurrencesIn] at ho ⊢
      rcases List.mem_append.mp ho with ho | ho
      · exact List.mem_append_left _ (mem_occurrencesOf_keepsAll h c x o ho)
      · exact List.mem_append_right _ (mem_occurrencesIn_keepsAll h c r o ho)

end

/-- What is met although some selections are refused is met. -/
theorem mem_fieldsMet_keepsAll {ss : List Selection} {n : FieldNode}
    (hn : n ∈ fieldsMet g parent keeps ss) : n ∈ fieldsMet g parent keepsAll ss := by
  have hfragment : ∀ fuel n c, ∀ o ∈ occurrencesOfFragment g parent keeps fuel n c,
      o ∈ occurrencesOfFragment g parent keepsAll fuel n c := by
    intro fuel
    induction fuel with
    | zero => exact fun n c o ho => ho
    | succ fuel ih =>
        intro n c o ho
        rw [occurrencesOfFragment] at ho ⊢
        cases hf : OrderedMap.get? n g.fragments with
        | none => simp [hf] at ho
        | some f =>
            simp only [hf] at ho ⊢
            split at ho
            · rename_i happ
              rw [if_pos happ]
              exact mem_occurrencesIn_keepsAll ih c f.selections o ho
            · cases ho
  obtain ⟨o, ho, rfl⟩ := List.mem_map.mp hn
  exact List.mem_map_of_mem (mem_occurrencesIn_keepsAll (hfragment _) false ss o ho)

end Kept

/-- The fields that some selections lead to under given conditions are among those that others lead
    to without regard to conditions. -/
def LeftOf (g : Setting) (v : String → Bool) (answered printed : List Selection) : Prop :=
  ∀ T, ∀ n ∈ fieldsMet g T (keptBy v) answered, n ∈ fieldsMet g T keepsAll printed

theorem LeftOf.refl (g : Setting) (v : String → Bool) (ss : List Selection) : LeftOf g v ss ss :=
  fun _ _ hn => mem_fieldsMet_keepsAll hn

section Groups

variable {T : NamedType} {answered printed : List Selection} {key : String} {e : Shape.Entry} {grp : Group}

theorem mem_fieldsMet_of_mem_entry
    (he : (key, e) ∈ collect g.schema g.fragments T false printed) {n : FieldNode} :
    n ∈ e.nodes ↔ n ∈ fieldsMet g T keepsAll printed ∧ n.key = key := by
  rw [collect_eq_grouped] at he
  rw [nodes_of_mem_grouped he, map_node_withKey, List.mem_filter, decide_eq_true_eq]
  exact Iff.rfl

theorem mem_fieldsMet_of_mem_group (ha : Acyclic g.fragments) {keeps : Selection → Bool}
    (hg : (key, grp) ∈ collectFields g T keeps answered) {n : FieldNode} :
    n ∈ grp.fields ↔ n ∈ fieldsMet g T keeps answered ∧ n.key = key := by
  rw [fields_of_mem_groupFields hg, List.mem_filter, decide_eq_true_eq,
    (thinned_visited ha T keeps answered).mem_iff]

theorem mem_keys_collectFields (ha : Acyclic g.fragments) {keeps : Selection → Bool} :
    key ∈ OrderedMap.keys (collectFields g T keeps answered)
      ↔ ∃ n ∈ fieldsMet g T keeps answered, n.key = key := by
  rw [collectFields, mem_keys_groupFields]
  simp only [(thinned_visited ha T keeps answered).mem_iff]

/-- Every group that is answered has been printed. -/
theorem exists_entry_of_group (ha : Acyclic g.fragments) (hl : LeftOf g v answered printed)
    (hg : (key, grp) ∈ collectFields g T (keptBy v) answered) :
    ∃ e, (key, e) ∈ collect g.schema g.fragments T false printed := by
  have hfirst := (mem_fieldsMet_of_mem_group ha hg).mp (List.mem_cons_self (l := grp.others))
  obtain ⟨o, ho, hnode⟩ := List.mem_map.mp (hl T _ hfirst.1)
  have hkey : key ∈ OrderedMap.keys (collect g.schema g.fragments T false printed) := by
    rw [collect_eq_grouped, mem_keys_grouped]
    exact ⟨o, ho, hnode ▸ hfirst.2⟩
  obtain ⟨⟨_, e⟩, he, rfl⟩ := List.mem_map.mp hkey
  exact ⟨e, he⟩

/-- A group and the entry that was printed for it are of the same field. -/
theorem fieldName_eq (ha : Acyclic g.fragments) (hu : Unambiguous g T printed)
    (hl : LeftOf g v answered printed)
    (he : (key, e) ∈ collect g.schema g.fragments T false printed)
    (hg : (key, grp) ∈ collectFields g T (keptBy v) answered) : e.fieldName = grp.fieldName := by
  obtain ⟨hmet, hkey⟩ := (mem_fieldsMet_of_mem_entry he).mp (List.mem_cons_self (l := e.others))
  obtain ⟨hmet', hkey'⟩ :=
    (mem_fieldsMet_of_mem_group ha hg).mp (List.mem_cons_self (l := grp.others))
  exact hu T printed .self e.first hmet grp.first (hl T _ hmet') (hkey.trans hkey'.symm)

/-- Below a key the selections that are answered are again left of those that were printed. -/
theorem LeftOf.inside (ha : Acyclic g.fragments) (hl : LeftOf g v answered printed)
    (he : (key, e) ∈ collect g.schema g.fragments T false printed)
    (hg : (key, grp) ∈ collectFields g T (keptBy v) answered) :
    LeftOf g v grp.selections e.selections := by
  intro T' n hn
  rw [Group.selections, fieldsMet_flatMap] at hn
  obtain ⟨k, hk, hn⟩ := List.mem_flatMap.mp hn
  obtain ⟨hmet, hkey⟩ := (mem_fieldsMet_of_mem_group ha hg).mp hk
  rw [Shape.Entry.selections, fieldsMet_flatMap]
  refine List.mem_flatMap.mpr ⟨k, ?_, mem_fieldsMet_keepsAll hn⟩
  exact (mem_fieldsMet_of_mem_entry he).mpr ⟨hl T k hmet, hkey⟩

/-- A key has one entry. -/
theorem unique_entry {e' : Shape.Entry} (he : (key, e) ∈ collect g.schema g.fragments T false printed)
    (he' : (key, e') ∈ collect g.schema g.fragments T false printed) : e = e' := by
  rw [collect_eq_grouped] at he he'
  have h := OrderedMap.get?_of_mem (nodup_keys_grouped _) he
  have h' := OrderedMap.get?_of_mem (nodup_keys_grouped _) he'
  exact Option.some.inj (h.symm.trans h')

end Groups

theorem Unambiguous.inside {T T' t : NamedType} {ss : List Selection} {key : String} {e : Shape.Entry}
    {f : Field} (hu : Unambiguous g T ss)
    (he : (key, e) ∈ collect g.schema g.fragments T false ss)
    (hf : T.field? e.fieldName = some f) (ht : g.schema.type? f.type.base = some t)
    (hT : T' ∈ objectsOf g.schema t) : Unambiguous g T' e.selections :=
  fun T'' ss'' h => hu T'' ss'' (.inside he hf ht hT h)

/-! ## Keys whose fields stand or fall together -/

/-- A selection without conditions is never left out. -/
theorem keptBy_of_not_hasCondition {s : Selection} (h : hasCondition s = false)
    (v : String → Bool) : keptBy v s = true := by
  rw [hasCondition, List.any_eq_false] at h
  refine List.all_eq_true.mpr fun d hd => ?_
  have hname := h d hd
  rw [Bool.or_eq_true, not_or] at hname
  rw [admits, if_neg hname.1, if_neg hname.2]

section Unconditional

variable {T : NamedType} {expand expand' : String → Bool → List Occurrence}

mutual

theorem kept_of_mem_occurrencesOf (h : ∀ n c, ∀ o ∈ expand n c, o.conditional = false →
      c = false ∧ o ∈ expand' n c) (c : Bool) :
    ∀ x : Selection, ∀ o ∈ occurrencesOf g T keepsAll expand c x, o.conditional = false →
      c = false ∧ o ∈ occurrencesOf g T (keptBy v) expand' c x
  | .leaf f, o, ho, hc => by
      obtain rfl := List.mem_singleton.mp ho
      obtain ⟨rfl, hcond⟩ := Bool.or_eq_false_iff.mp hc
      rw [occurrencesOf, if_pos (keptBy_of_not_hasCondition hcond v)]
      exact ⟨rfl, ho⟩
  | .branch f op ss, o, ho, hc => by
      obtain rfl := List.mem_singleton.mp ho
      obtain ⟨rfl, hcond⟩ := Bool.or_eq_false_iff.mp hc
      rw [occurrencesOf, if_pos (keptBy_of_not_hasCondition hcond v)]
      exact ⟨rfl, ho⟩
  | .inline t ds p op ss, o, ho, hc => by
      rw [occurrencesOf] at ho ⊢
      split at ho
      · rename_i happ
        obtain ⟨hor, hin⟩ := kept_of_mem_occurrencesIn h _ ss o ho hc
        obtain ⟨rfl, hcond⟩ := Bool.or_eq_false_iff.mp hor
        rw [keepsAll, Bool.true_and] at happ
        rw [keptBy_of_not_hasCondition hcond v, Bool.true_and, if_pos happ]
        exact ⟨rfl, hin⟩
      · cases ho
  | .spread n ds p, o, ho, hc => by
      obtain ⟨hor, hin⟩ := h _ _ o ho hc
      obtain ⟨rfl, hcond⟩ := Bool.or_eq_false_iff.mp hor
      rw [occurrencesOf, if_pos (keptBy_of_not_hasCondition hcond v)]
      exact ⟨rfl, hin⟩

theorem kept_of_mem_occurrencesIn (h : ∀ n c, ∀ o ∈ expand n c, o.conditional = false →
      c = false ∧ o ∈ expand' n c) (c : Bool) :
    ∀ ss : List Selection, ∀ o ∈ occurrencesIn g T keepsAll expand c ss, o.conditional = false →
      c = false ∧ o ∈ occurrencesIn g T (keptBy v) expand' c ss
  | [], o, ho, _ => by cases ho
  | x :: r, o, ho, hc => by
      rw [occurrencesIn] at ho ⊢
      rcases List.mem_append.mp ho with ho | ho
      · obtain ⟨hfalse, hin⟩ := kept_of_mem_occurrencesOf h c x o ho hc
        exact ⟨hfalse, List.mem_append_left _ hin⟩
      · obtain ⟨hfalse, hin⟩ := kept_of_mem_occurrencesIn h c r o ho hc
        exact ⟨hfalse, List.mem_append_right _ hin⟩

end

/-- What depends on no condition is never left out. -/
theorem kept_of_mem_occurrences {ss : List Selection} {o : Occurrence}
    (ho : o ∈ occurrences g T keepsAll false ss) (hc : o.conditional = false) (v : String → Bool) :
    o.node ∈ fieldsMet g T (keptBy v) ss := by
  have hfragment : ∀ fuel n c, ∀ o ∈ occurrencesOfFragment g T keepsAll fuel n c,
      o.conditional = false → c = false ∧ o ∈ occurrencesOfFragment g T (keptBy v) fuel n c := by
    intro fuel
    induction fuel with
    | zero =>
        intro n c o ho
        cases ho
    | succ fuel ih =>
        intro n c o ho hc
        rw [occurrencesOfFragment] at ho ⊢
        cases hf : OrderedMap.get? n g.fragments with
        | none => simp [hf] at ho
        | some f =>
            simp only [hf] at ho ⊢
            split at ho
            · rename_i happ
              rw [if_pos happ]
              exact kept_of_mem_occurrencesIn ih c f.selections o ho hc
            · cases ho
  exact List.mem_map_of_mem (kept_of_mem_occurrencesIn (hfragment _) false ss o ho hc).2

end Unconditional

/-- Of the fields that share a key, either none depends on a condition, or there is only one. -/
def Unmixed (g : Setting) (T : NamedType) (ss : List Selection) : Prop :=
  ∀ T' ss', PrintedAt g T ss T' ss' → ∀ key,
    (∀ o ∈ withKey key (occurrences g T' keepsAll false ss'), o.conditional = false)
      ∨ ∃ o, ∀ o' ∈ withKey key (occurrences g T' keepsAll false ss'), o' = o

/-- The same fields are met in both, under the same conditions. -/
def SameOccurrences (g : Setting) (ss ts : List Selection) : Prop :=
  ∀ T o, o ∈ occurrences g T keepsAll false ss ↔ o ∈ occurrences g T keepsAll false ts

/-- Where the selections of a level are those that were printed, the level covers them. -/
theorem covers_of_sameOccurrences {l : Level} (h : SameOccurrences g l.printed l.answered) :
    l.Covers g v := by
  intro key e he hcond _
  rw [collect_eq_grouped] at he
  have hnodes := nodes_of_mem_grouped he
  rw [conditional_of_mem_grouped he, List.all_eq_false] at hcond
  obtain ⟨o, ho, hfalse⟩ := hcond
  obtain ⟨hmem, hkey⟩ := List.mem_filter.mp ho
  rw [decide_eq_true_eq] at hkey
  refine ⟨o.node, kept_of_mem_occurrences ((h l.type o).mp hmem) ?_ v, hkey⟩
  simpa using hfalse

/-- Fields that stand or fall together leave the selections below them as they were printed. -/
theorem sameOccurrences_inside (ha : Acyclic g.fragments) {T : NamedType}
    {printed answered : List Selection} (hu : Unmixed g T printed)
    (hl : LeftOf g v answered printed) (h : SameOccurrences g printed answered) {key : String}
    {e : Shape.Entry} {grp : Group} (he : (key, e) ∈ collect g.schema g.fragments T false printed)
    (hg : (key, grp) ∈ collectFields g T (keptBy v) answered) :
    SameOccurrences g e.selections grp.selections := by
  have hfields : ∀ n, n ∈ e.nodes ↔ n ∈ grp.fields := by
    intro n
    rw [mem_fieldsMet_of_mem_entry he, mem_fieldsMet_of_mem_group ha hg]
    constructor
    · rintro ⟨hn, hkey⟩
      obtain ⟨o, ho, rfl⟩ := List.mem_map.mp hn
      have hwith : ∀ o ∈ occurrences g T keepsAll false printed, o.node.key = key →
          o ∈ withKey key (occurrences g T keepsAll false printed) := fun o ho hk =>
        List.mem_filter.mpr ⟨ho, decide_eq_true hk⟩
      rcases hu T printed .self key with hnone | ⟨o', honly⟩
      · exact ⟨kept_of_mem_occurrences ((h T o).mp ho) (hnone o (hwith o ho hkey)) v, hkey⟩
      · -- The only field is the one that has been answered.
        obtain ⟨hfirst, hfirstKey⟩ :=
          (mem_fieldsMet_of_mem_group ha hg).mp (List.mem_cons_self (l := grp.others))
        obtain ⟨p, hp, hpnode⟩ := List.mem_map.mp (hl T _ hfirst)
        have hsame : o = p := (honly o (hwith o ho hkey)).trans
          (honly p (hwith p hp (hpnode ▸ hfirstKey))).symm
        rw [hsame, hpnode]
        exact ⟨hfirst, hfirstKey⟩
    · rintro ⟨hn, hkey⟩
      exact ⟨hl T n hn, hkey⟩
  intro T' o
  rw [Shape.Entry.selections, Group.selections, occurrences_flatMap, occurrences_flatMap,
    List.mem_flatMap, List.mem_flatMap]
  constructor
  · rintro ⟨n, hn, ho⟩
    exact ⟨n, (hfields n).mp hn, ho⟩
  · rintro ⟨n, hn, ho⟩
    exact ⟨n, (hfields n).mpr hn, ho⟩

end QueryTypings.Execution
