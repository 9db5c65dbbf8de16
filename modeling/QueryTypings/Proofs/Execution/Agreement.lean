/-
  Without conditions, shapes follow the grouped fields of an execution.

  Shapes are built from fields collected by opening a fragment wherever it is spread; an execution
  opens it once for every object.  So the two differ in how often a field is met, and, as the
  selections of all fields under a key are put together, in how often selections are repeated one
  level down, and so on.

  1. **Alike** — two lists of selections are alike if for every type the second leads to the same
     fields but for some that come again.  What is collected from the first and grouped from the
     second has the same keys in the same order with the same first fields (`heads_collect`), and
     what is selected of the fields under a key is alike again (`alike_of_mem`).

  2. **The types agree** — `groupType` builds the type of an object from grouped fields.  By
     induction on the depth, alike selections have the same type (`objectType_eq_of_alike`).

  3. **No fuel** — above the bound for the depth there is an answer, and it does not change.
-/
import QueryTypings.Proofs.Execution.FieldCollection
import QueryTypings.Proofs.Shape.Depth

namespace QueryTypings.Execution

open QueryTypings.Graphql QueryTypings.Schema QueryTypings.Shape QueryTypings.Typescript

variable {g : Setting} {parent : NamedType} {keeps : Selection → Bool}

/-! ## No conditions -/

mutual

/-- Neither the selection nor any inside it carries `@skip` or `@include`. -/
def isPlain : Selection → Bool
  | .leaf f => !hasCondition (.leaf f)
  | .branch f o ss => !hasCondition (.branch f o ss) && arePlain ss
  | .inline c ds p o ss => !hasCondition (.inline c ds p o ss) && arePlain ss
  | .spread n ds p => !hasCondition (.spread n ds p)

/-- None of the selections carries a condition at any depth. -/
def arePlain : List Selection → Bool
  | [] => true
  | x :: r => isPlain x && arePlain r

end

/-- No fragment carries a condition. -/
def PlainFragments (fragments : OrderedMap Fragment) : Prop :=
  ∀ p ∈ fragments, arePlain p.2.selections

instance (fragments : OrderedMap Fragment) : Decidable (PlainFragments fragments) :=
  inferInstanceAs (Decidable (∀ p ∈ fragments, arePlain p.2.selections))

theorem arePlain_flatMap {α : Type} {f : α → List Selection} {xs : List α}
    (h : ∀ x ∈ xs, arePlain (f x)) : arePlain (xs.flatMap f) := by
  have happend : ∀ ss ts : List Selection, arePlain ss → arePlain ts → arePlain (ss ++ ts) := by
    intro ss ts hs ht
    induction ss with
    | nil => exact ht
    | cons x r ih =>
        simp only [arePlain, List.cons_append, Bool.and_eq_true] at hs ⊢
        exact ⟨hs.1, ih hs.2⟩
  induction xs with
  | nil => rfl
  | cons x r ih =>
      rw [List.flatMap_cons]
      exact happend _ _ (h x List.mem_cons_self) (ih fun y hy => h y (List.mem_cons_of_mem _ hy))

/-- An occurrence that depends on nothing, and below which nothing depends on a condition. -/
def PlainOccurrence (o : Occurrence) : Prop :=
  o.conditional = false ∧ arePlain o.node.selections

section Plain

variable {expand : String → Bool → List Occurrence}

mutual

theorem plain_occurrencesOf (h : ∀ n, ∀ o ∈ expand n false, PlainOccurrence o) :
    ∀ x : Selection, isPlain x →
      ∀ o ∈ occurrencesOf g parent keeps expand false x, PlainOccurrence o
  | .leaf f, hx, o, ho => by
      rw [occurrencesOf] at ho
      split at ho
      · rw [List.mem_singleton.mp ho]
        exact ⟨by simpa [isPlain] using hx, rfl⟩
      · cases ho
  | .branch f op ss, hx, o, ho => by
      simp only [isPlain, Bool.and_eq_true] at hx
      rw [occurrencesOf] at ho
      split at ho
      · rw [List.mem_singleton.mp ho]
        exact ⟨by simpa using hx.1, hx.2⟩
      · cases ho
  | .inline c ds p op ss, hx, o, ho => by
      simp only [isPlain, Bool.and_eq_true, Bool.not_eq_true'] at hx
      rw [occurrencesOf, hx.1, Bool.or_false] at ho
      split at ho
      · exact plain_occurrencesIn h ss hx.2 o ho
      · cases ho
  | .spread n ds p, hx, o, ho => by
      simp only [isPlain, Bool.not_eq_true'] at hx
      rw [occurrencesOf, hx, Bool.or_false] at ho
      split at ho
      · exact h n.text o ho
      · cases ho

theorem plain_occurrencesIn (h : ∀ n, ∀ o ∈ expand n false, PlainOccurrence o) :
    ∀ ss : List Selection, arePlain ss →
      ∀ o ∈ occurrencesIn g parent keeps expand false ss, PlainOccurrence o
  | [], _, o, ho => by cases ho
  | x :: r, hs, o, ho => by
      simp only [arePlain, Bool.and_eq_true] at hs
      rw [occurrencesIn] at ho
      rcases List.mem_append.mp ho with ho | ho
      · exact plain_occurrencesOf h x hs.1 o ho
      · exact plain_occurrencesIn h r hs.2 o ho

end

end Plain

/-- Where there are no conditions, nothing that is met depends on one. -/
theorem plain_occurrences (hg : PlainFragments g.fragments) {ss : List Selection}
    (hs : arePlain ss) : ∀ o ∈ occurrences g parent keeps false ss, PlainOccurrence o := by
  have hfragment : ∀ fuel n, ∀ o ∈ occurrencesOfFragment g parent keeps fuel n false,
      PlainOccurrence o := by
    intro fuel
    induction fuel with
    | zero =>
        intro n o ho
        cases ho
    | succ fuel ih =>
        intro n o ho
        rw [occurrencesOfFragment] at ho
        cases hf : OrderedMap.get? n g.fragments with
        | none => simp [hf] at ho
        | some f =>
            simp only [hf] at ho
            split at ho
            · exact plain_occurrencesIn ih f.selections
                (hg _ (OrderedMap.mem_of_get? hf)) o ho
            · cases ho
  exact plain_occurrencesIn (hfragment _) ss hs

/-- Where there are no conditions, no key depends on one, and so on below. -/
theorem plain_of_mem_collect (hg : PlainFragments g.fragments) {ss : List Selection}
    (hs : arePlain ss) {key : String} {e : Shape.Entry}
    (he : (key, e) ∈ collect g.schema g.fragments parent false ss) :
    e.conditional = false ∧ arePlain e.selections := by
  rw [collect_eq_grouped] at he
  have hplain : ∀ o ∈ withKey key (occurrences g parent keepsAll false ss), PlainOccurrence o :=
    fun o ho => plain_occurrences hg hs o (List.mem_of_mem_filter ho)
  have hnodes := nodes_of_mem_grouped he
  constructor
  · rw [conditional_of_mem_grouped he]
    cases hw : withKey key (occurrences g parent keepsAll false ss) with
    | nil =>
        rw [hw] at hnodes
        cases hnodes
    | cons o r =>
        have ho := (hplain o (hw ▸ List.mem_cons_self)).1
        simp [ho]
  · refine arePlain_flatMap fun n hn => ?_
    rw [hnodes] at hn
    obtain ⟨o, ho, rfl⟩ := List.mem_map.mp hn
    exact (hplain o ho).2

/-! ## Alike -/

/-- The second selections lead to the fields that the first lead to, but for some that come
    again. -/
def Alike (g : Setting) (ss ts : List Selection) : Prop :=
  ∀ parent, Thinned [] (fieldsMet g parent keepsAll ss) (fieldsMet g parent keepsAll ts)

theorem Alike.refl (g : Setting) (ss : List Selection) : Alike g ss ss :=
  fun parent => Thinned.refl [] (fieldsMet g parent keepsAll ss)

theorem alike_flatMap {ns ks : List FieldNode} (h : Thinned [] ns ks) :
    Alike g (ns.flatMap FieldNode.selections) (ks.flatMap FieldNode.selections) := by
  intro parent
  rw [fieldsMet_flatMap, fieldsMet_flatMap]
  exact h.flatMap _

variable {ss ts : List Selection}

/-- What an execution visits of alike selections. -/
theorem Alike.thinned_visited (h : Alike g ss ts) (ha : Acyclic g.fragments) (parent : NamedType) :
    Thinned [] (fieldsMet g parent keepsAll ss) (visited g parent keepsAll ts) :=
  (h parent).trans (Execution.thinned_visited ha parent keepsAll ts)

/-- **Same keys, same order, same first fields.** -/
theorem heads_collect (h : Alike g ss ts) (ha : Acyclic g.fragments) (parent : NamedType) :
    (collect g.schema g.fragments parent false ss).heads
      = headsOf (collectFields g parent keepsAll ts) := by
  rw [collect_eq_grouped, heads_grouped, collectFields, headsOf_groupFields]
  refine firstFields_eq_of_thinned (h.thinned_visited ha parent) fun n hn => ?_
  cases hn

/-- What is selected of the fields under a key is alike. -/
theorem alike_of_mem (h : Alike g ss ts) (ha : Acyclic g.fragments) {key : String} {e : Shape.Entry}
    {grp : Group} (he : (key, e) ∈ collect g.schema g.fragments parent false ss)
    (hgrp : (key, grp) ∈ collectFields g parent keepsAll ts) :
    Alike g e.selections grp.selections := by
  rw [collect_eq_grouped] at he
  have hnodes := nodes_of_mem_grouped he
  rw [map_node_withKey] at hnodes
  have hfields := fields_of_mem_groupFields hgrp
  have hthin := (h.thinned_visited ha parent).filter fun n => n.key = key
  rw [Shape.Entry.selections, Group.selections, hnodes, hfields]
  exact alike_flatMap hthin

/-! ## The types agree -/

/-- A group as an entry that depends on nothing. -/
def Group.entry (grp : Group) : Shape.Entry := ⟨grp.first, grp.others, false⟩

/-- **The type of an object from grouped fields**: a member for each group, its type from the merged
    selections of the group. -/
def groupType (g : Setting) : Nat → Bool → List Selection → NamedType → Except Shape.Fault Ty
  | 0, _, _, _ => .error .endless
  | fuel + 1, typename, selections, parent => do
      let fields := (collectFields g parent keepsAll selections).map fun p => (p.1, p.2.entry)
      let members ← fields.mapM fun (key, e) => keyMember g (groupType g fuel true) parent key e
      return .object (typenameMembers typename parent fields ++ members)

theorem heads_map_entry (groups : OrderedMap Group) :
    FieldMap.heads (groups.map fun p => (p.1, p.2.entry)) = headsOf groups := by
  rw [FieldMap.heads, List.map_map]
  rfl

/-- Whether an object names its type is seen from the first fields. -/
theorem typenameMembers_congr {m m' : FieldMap} (h : m.heads = m'.heads) (typename : Bool)
    (parent : NamedType) : typenameMembers typename parent m = typenameMembers typename parent m' := by
  have hany : ∀ m : FieldMap, (m.any fun p => p.2.fieldName == "__typename")
      = m.heads.any fun p => p.2.head.name.text == "__typename" := by
    intro m
    rw [FieldMap.heads, List.any_map]
    rfl
  rw [typenameMembers, typenameMembers, hany m, hany m', h]

/-- Two maps with the same keys and first fields are gone through in step. -/
theorem mapM_congr_of_heads {ε α : Type} {f f' : String × Shape.Entry → Except ε α} {m m' : FieldMap}
    (h : m.heads = m'.heads)
    (hf : ∀ p ∈ m, ∀ q ∈ m', p.1 = q.1 → p.2.first = q.2.first → f p = f' q) :
    m.mapM f = m'.mapM f' := by
  induction m generalizing m' with
  | nil =>
      cases m' with
      | nil => rfl
      | cons q t => cases h
  | cons p r ih =>
      cases m' with
      | nil => cases h
      | cons q t =>
          obtain ⟨hhead, htail⟩ := List.cons.inj h
          obtain ⟨hkey, hfirst⟩ := Prod.mk.inj hhead
          rw [List.mapM_cons, List.mapM_cons,
            hf p List.mem_cons_self q List.mem_cons_self hkey hfirst,
            ih htail fun a ha b hb =>
              hf a (List.mem_cons_of_mem _ ha) b (List.mem_cons_of_mem _ hb)]

/-- **Alike selections have the same type.** -/
theorem objectType_eq_of_alike (ha : Acyclic g.fragments) (hg : PlainFragments g.fragments)
    (fuel : Nat) : ∀ {ss ts : List Selection}, Alike g ss ts → arePlain ss →
      ∀ typename parent,
        objectType g fuel typename ss parent = groupType g fuel typename ts parent := by
  induction fuel with
  | zero => intro ss ts _ _ typename parent; rfl
  | succ fuel ih =>
      intro ss ts h hs typename parent
      have hheads : (collect g.schema g.fragments parent false ss).heads
          = FieldMap.heads
              ((collectFields g parent keepsAll ts).map fun p => (p.1, p.2.entry)) := by
        rw [heads_map_entry]
        exact heads_collect h ha parent
      have hmembers :
          (collect g.schema g.fragments parent false ss).mapM
              (fun p => keyMember g (objectType g fuel true) parent p.1 p.2)
            = ((collectFields g parent keepsAll ts).map fun p => (p.1, p.2.entry)).mapM
              fun p => keyMember g (groupType g fuel true) parent p.1 p.2 := by
        refine mapM_congr_of_heads hheads ?_
        rintro ⟨key, e⟩ he q hq hkey hfirst
        obtain ⟨⟨_, grp⟩, hgrp, rfl⟩ := List.mem_map.mp hq
        obtain rfl : key = _ := hkey
        obtain ⟨hcond, hplain⟩ := plain_of_mem_collect hg hs he
        refine keyMember_congr hfirst hcond (funext fun t => ?_) parent key
        exact ih (alike_of_mem h ha he hgrp) hplain true t
      simp only [objectType, groupType, hmembers, typenameMembers_congr hheads]

/-- **Shapes agree with grouped fields.**  For selection sets without conditions that are put
    together, and fragments that do not lead back to themselves: the keys come in the same order
    with the same first fields, and with the fuel that is used, or any more, the type of the object
    is there and the same, down to the last level. -/
theorem shape_eq_of_plain (ha : Acyclic g.fragments) (hg : PlainFragments g.fragments)
    (sets : List (List Selection)) (hs : ∀ ss ∈ sets, arePlain ss) (parent : NamedType)
    (typename : Bool) :
    (collect g.schema g.fragments parent false sets.flatten).heads
        = headsOf (collectFields g parent keepsAll sets.flatten)
      ∧ ∀ fuel, depthBound g sets.flatten ≤ fuel →
          objectType g fuel typename sets.flatten parent
              = groupType g fuel typename sets.flatten parent
            ∧ objectType g fuel typename sets.flatten parent
              = objectType g (depthBound g sets.flatten) typename sets.flatten parent
            ∧ Ends (objectType g fuel typename sets.flatten parent) := by
  have hplain : arePlain sets.flatten := by
    rw [← List.flatMap_id]
    exact arePlain_flatMap hs
  obtain ⟨d, hd, hw⟩ := exists_within ha sets.flatten
  refine ⟨heads_collect (Alike.refl g _) ha parent, fun fuel hfuel => ⟨?_, ?_, ?_⟩⟩
  · exact objectType_eq_of_alike ha hg fuel (Alike.refl g _) hplain typename parent
  · exact objectType_fuel fuel hw (by omega) hd typename parent
  · exact objectType_ends fuel hw (by omega) typename parent

/-! ## A document in which fragments overlap -/

/-- Users have an id and a friend. -/
def userType : NamedType :=
  ⟨"User", none, .object [] [⟨"id", none, [], .nonNull (.named "ID"), false⟩,
    ⟨"friend", none, [], .named "User", false⟩]⟩

/-- The fragment `Both` spreads `Ids`, and both ask for the id of the friend. -/
def overlapping : Setting where
  schema := ⟨[userType, ⟨"ID", none, .scalar⟩], none, none, none, []⟩
  scalars := []
  fragments :=
    [("Both", bareFragment "Both" "User"
        [bareSpread "Ids", .branch (bareField "friend") .first [bareSpread "Ids"]]),
     ("Ids", bareFragment "Ids" "User"
        [.leaf (bareField "id"), .branch (bareField "friend") .first [.leaf (bareField "id")]])]

/-- Two selection sets that lead to `Ids` three times. -/
def overlappingSets : List (List Selection) :=
  [[bareSpread "Both"], [bareSpread "Ids", bareSpread "Both"]]

theorem acyclic_overlapping : Acyclic overlapping.fragments := by
  refine acyclic_of_lt (fun n => if n = "Both" then 1 else 0) ?_
  rintro n m ⟨f, hf, hm⟩
  rcases List.mem_cons.mp (OrderedMap.mem_of_get? hf) with h | h
  · cases h
    have hm' : m = "Ids" := by simpa [bareFragment, bareSpread, spreads, Selection.spreads] using hm
    subst hm'
    decide
  · cases List.mem_singleton.mp h
    simp [bareFragment, bareField, spreads, Selection.spreads] at hm

-- The shape meets `id` three times, the execution once.
example :
    ((collect overlapping.schema overlapping.fragments userType false
        overlappingSets.flatten).map fun p => (p.1, p.2.nodes.length))
      = [("id", 3), ("friend", 5)]
    ∧ ((collectFields overlapping userType keepsAll overlappingSets.flatten).map
        fun p => (p.1, p.2.fields.length)) = [("id", 1), ("friend", 2)] := by
  decide

theorem shape_eq_overlapping :
    Acyclic overlapping.fragments ∧ PlainFragments overlapping.fragments
      ∧ (∀ ss ∈ overlappingSets, arePlain ss)
      ∧ (collect overlapping.schema overlapping.fragments userType false
            overlappingSets.flatten).heads
          = headsOf (collectFields overlapping userType keepsAll overlappingSets.flatten)
      ∧ objectType overlapping (depthBound overlapping overlappingSets.flatten) true
            overlappingSets.flatten userType
          = groupType overlapping (depthBound overlapping overlappingSets.flatten) true
            overlappingSets.flatten userType := by
  have hplain : PlainFragments overlapping.fragments := by decide
  have hsets : ∀ ss ∈ overlappingSets, arePlain ss := by decide
  have h := shape_eq_of_plain acyclic_overlapping hplain overlappingSets hsets userType true
  exact ⟨acyclic_overlapping, hplain, hsets, h.1, (h.2 _ (Nat.le_refl _)).1⟩

end QueryTypings.Execution
