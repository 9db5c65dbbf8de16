/-
  The flags of collected fields, and what conditions may leave of the selections.

  A selection with `@skip` or `@include` may be left out, whether others are or not.

  1. **Choices** — a choice leaves out some of the selections that carry a condition, at any depth of
     fields, inline fragments and fragments, each on its own (`Pruned`, `Choice`).  What is left asks
     for keys, as an execution collects them (`Choice.keys`).

  2. **What no choice takes away** — a field that is met on a way without conditions is met in what
     is left, whichever the choice (`kept_of_pruned`).

  3. **What one choice takes away** — the choice that leaves out everything with a condition leaves
     only fields that are met on a way without one (`meetsFreely_unguarded`).

  4. **Exactness** — so a key is unconditional if and only if every choice leaves it
     (`conditional_iff_choices`).
-/
import QueryTypings.Proofs.Execution.Agreement
import QueryTypings.Proofs.Execution.Soundness
import QueryTypings.Proofs.OrderedMap

namespace QueryTypings.Execution

open QueryTypings.Graphql QueryTypings.Schema QueryTypings.Shape Relation

variable {g : Setting} {T : NamedType}

/-! ## Choices -/

/-- The second selections are what is left of the first when some that carry a condition are left
    out, at any depth. -/
inductive Pruned : List Selection → List Selection → Prop
  | nil : Pruned [] []
  | drop {x : Selection} {r r' : List Selection} :
      hasCondition x = true → Pruned r r' → Pruned (x :: r) r'
  | leaf {f : FieldHead} {r r' : List Selection} :
      Pruned r r' → Pruned (.leaf f :: r) (.leaf f :: r')
  | branch {f : FieldHead} {o : Position} {ss ss' r r' : List Selection} :
      Pruned ss ss' → Pruned r r' → Pruned (.branch f o ss :: r) (.branch f o ss' :: r')
  | inline {c : Option Name} {ds : List Directive} {p o : Position}
      {ss ss' r r' : List Selection} :
      Pruned ss ss' → Pruned r r' → Pruned (.inline c ds p o ss :: r) (.inline c ds p o ss' :: r')
  | spread {n : Name} {ds : List Directive} {p : Position} {r r' : List Selection} :
      Pruned r r' → Pruned (.spread n ds p :: r) (.spread n ds p :: r')

/-- A fragment, and what is left of it. -/
def PrunedFragment (f f' : Fragment) : Prop :=
  ∃ ss, Pruned f.selections ss ∧ f' = { f with selections := ss }

/-- What is left of selection sets and of the fragments when some selections that carry a condition
    are left out. -/
structure Choice (g : Setting) (sets : List (List Selection)) where
  left : List (List Selection)
  fragments : OrderedMap Fragment
  left_pruned : List.Forall₂ Pruned sets left
  fragments_pruned : OrderedMap.InStep PrunedFragment g.fragments fragments

/-- The keys for which an object is asked by what is left. -/
def Choice.keys {sets : List (List Selection)} (c : Choice g sets) (T : NamedType) : List String :=
  OrderedMap.keys (collectFields { g with fragments := c.fragments } T keepsAll c.left.flatten)

mutual

theorem Pruned.cons_self {r r' : List Selection} (h : Pruned r r') :
    ∀ x : Selection, Pruned (x :: r) (x :: r')
  | .leaf _ => .leaf h
  | .branch _ _ ss => .branch (.refl ss) h
  | .inline _ _ _ _ ss => .inline (.refl ss) h
  | .spread _ _ _ => .spread h

theorem Pruned.refl : ∀ ss : List Selection, Pruned ss ss
  | [] => .nil
  | x :: r => (Pruned.refl r).cons_self x

end

/-- The choice that leaves out nothing. -/
def Choice.everything (g : Setting) (sets : List (List Selection)) : Choice g sets where
  left := sets
  fragments := g.fragments
  left_pruned := List.forall₂_same.mpr fun ss _ => .refl ss
  fragments_pruned := List.forall₂_same.mpr fun p _ => ⟨rfl, _, .refl p.2.selections, rfl⟩

theorem Pruned.append {ss ss' ts ts' : List Selection} (h : Pruned ss ss') (ht : Pruned ts ts') :
    Pruned (ss ++ ts) (ss' ++ ts') := by
  induction h with
  | nil => exact ht
  | drop hx _ ih => exact .drop hx ih
  | leaf _ ih => exact .leaf ih
  | branch hs _ _ ih => exact .branch hs ih
  | inline hs _ _ ih => exact .inline hs ih
  | spread _ ih => exact .spread ih

theorem Pruned.flatten {sets left : List (List Selection)} (h : List.Forall₂ Pruned sets left) :
    Pruned sets.flatten left.flatten := by
  induction h with
  | nil => exact .nil
  | cons hss _ ih => exact hss.append ih

theorem append_subset {ms ms' ns ns' : List String} (h : ms' ⊆ ms) (h' : ns' ⊆ ns) :
    ms' ++ ns' ⊆ ms ++ ns :=
  List.append_subset.mpr
    ⟨List.subset_append_of_subset_left ns h, List.subset_append_of_subset_right ms h'⟩

/-- What is left spreads no other fragments. -/
theorem Pruned.spreads_subset {ss ss' : List Selection} (h : Pruned ss ss') :
    spreads ss' ⊆ spreads ss := by
  induction h with
  | nil => exact List.Subset.refl _
  | @drop x r r' _ _ ih => exact fun n hn => List.mem_append_right x.spreads (ih hn)
  | leaf _ ih => exact ih
  | branch _ _ ihs ihr => exact append_subset ihs ihr
  | inline _ _ ihs ihr => exact append_subset ihs ihr
  | @spread n _ _ _ _ _ ih => exact append_subset (List.Subset.refl [n.text]) ih

/-- Leaving out selections closes no circle. -/
theorem acyclic_of_pruned {m m' : OrderedMap Fragment} (h : OrderedMap.InStep PrunedFragment m m')
    (ha : Acyclic m) : Acyclic m' := by
  have hstep : ∀ n k, SpreadsTo m' n k → SpreadsTo m n k := by
    rintro n k ⟨f', hf', hk⟩
    rcases h.get? n with ⟨-, hnone⟩ | ⟨f, _, hf, hleft, ss, hss, rfl⟩
    · rw [hnone] at hf'
      cases hf'
    · obtain rfl := Option.some.inj (hleft.symm.trans hf')
      exact ⟨f, hf, hss.spreads_subset hk⟩
  exact fun n hn => ha n (TransGen.mono hstep n n hn)

theorem Choice.mem_keys_iff {sets : List (List Selection)} (ha : Acyclic g.fragments)
    (c : Choice g sets) {key : String} :
    key ∈ c.keys T ↔ ∃ n ∈ fieldsMet { g with fragments := c.fragments } T keepsAll c.left.flatten,
      n.key = key :=
  mem_keys_collectFields (acyclic_of_pruned c.fragments_pruned ha)

/-! ## What no choice takes away -/

section Kept

variable {m' : OrderedMap Fragment} {expand expand' : String → Bool → List Occurrence}

/-- On a conditional way everything depends on a condition. -/
theorem way_of_unconditional (h : ∀ n c, ∀ o ∈ expand n c, o.conditional = false → c = false)
    {c : Bool} {ss : List Selection} {o : Occurrence}
    (ho : o ∈ occurrencesIn g T keepsAll expand c ss) (hc : o.conditional = false) : c = false := by
  have hkept : ∀ n c, ∀ o ∈ expand n c, o.conditional = false → c = false ∧ o ∈ expand n c :=
    fun n c o ho hc => ⟨h n c o ho hc, ho⟩
  exact (kept_of_mem_occurrencesIn (v := fun _ => true) hkept c ss o ho hc).1

/-- Of a selection with a condition everything depends on one. -/
theorem not_hasCondition_of_unconditional
    (h : ∀ n c, ∀ o ∈ expand n c, o.conditional = false → c = false) {c : Bool} {x : Selection}
    {o : Occurrence} (ho : o ∈ occurrencesOf g T keepsAll expand c x) (hc : o.conditional = false) :
    hasCondition x = false := by
  have hway : (c || hasCondition x) = false := by
    cases x with
    | leaf f =>
        obtain rfl := List.mem_singleton.mp ho
        exact hc
    | branch f op ss =>
        obtain rfl := List.mem_singleton.mp ho
        exact hc
    | inline t ds p op ss =>
        rw [occurrencesOf] at ho
        split at ho
        · exact way_of_unconditional h ho hc
        · cases ho
    | spread n ds p => exact h _ _ o ho hc
  exact (Bool.or_eq_false_iff.mp hway).2

/-- What the first list meets on a way without conditions, the second meets too. -/
def Keeps (full left : List Occurrence) : Prop :=
  ∀ o ∈ full, o.conditional = false → ∃ o' ∈ left, o'.node.key = o.node.key

theorem Keeps.append {full full' left left' : List Occurrence} (h : Keeps full left)
    (h' : Keeps full' left') : Keeps (full ++ full') (left ++ left') := by
  intro o ho hc
  rcases List.mem_append.mp ho with ho | ho
  · obtain ⟨o', ho', hkey⟩ := h o ho hc
    exact ⟨o', List.mem_append_left _ ho', hkey⟩
  · obtain ⟨o', ho', hkey⟩ := h' o ho hc
    exact ⟨o', List.mem_append_right _ ho', hkey⟩

/-- **What no choice takes away**: whatever is met on a way without conditions. -/
theorem kept_of_pruned
    (hway : ∀ n c, ∀ o ∈ expand n c, o.conditional = false → c = false)
    (hexpand : ∀ n c, Keeps (expand n c) (expand' n c)) {ss ss' : List Selection}
    (h : Pruned ss ss') (c : Bool) :
    Keeps (occurrencesIn g T keepsAll expand c ss)
      (occurrencesIn { g with fragments := m' } T keepsAll expand' c ss') := by
  induction h generalizing c with
  | nil =>
      intro o ho
      cases ho
  | drop hx _ ih =>
      intro o ho hc
      rcases List.mem_append.mp ho with ho | ho
      · -- the selection that is left out carries a condition, so all that it leads to depends on it
        rw [not_hasCondition_of_unconditional hway ho hc] at hx
        cases hx
      · exact ih c o ho hc
  | leaf _ ih =>
      refine Keeps.append ?_ (ih c)
      intro o ho _
      exact ⟨o, ho, rfl⟩
  | @branch f op ss ss' r r' _ _ _ ih =>
      refine Keeps.append ?_ (ih c)
      intro o ho _
      obtain rfl := List.mem_singleton.mp ho
      exact ⟨_, List.mem_singleton_self _, rfl⟩
  | @inline t ds p op ss ss' r r' _ _ ihs ihr =>
      refine Keeps.append ?_ (ihr c)
      rw [occurrencesOf, occurrencesOf]
      simp only [keepsAll, Bool.true_and]
      split
      · exact ihs _
      · intro o ho
        cases ho
  | @spread n ds p r r' _ ih => exact Keeps.append (hexpand n.text _) (ih c)

end Kept

/-- On a conditional way a fragment leads to nothing unconditional. -/
theorem way_of_unconditional_fragment (fuel : Nat) :
    ∀ n c, ∀ o ∈ occurrencesOfFragment g T keepsAll fuel n c, o.conditional = false → c = false := by
  induction fuel with
  | zero =>
      intro n c o ho
      cases ho
  | succ fuel ih =>
      intro n c o ho hc
      rw [occurrencesOfFragment] at ho
      cases hf : OrderedMap.get? n g.fragments with
      | none => simp [hf] at ho
      | some f =>
          simp only [hf] at ho
          split at ho
          · exact way_of_unconditional ih ho hc
          · cases ho

theorem keeps_fragment {m' : OrderedMap Fragment}
    (h : OrderedMap.InStep PrunedFragment g.fragments m') (fuel : Nat) :
    ∀ n c, Keeps (occurrencesOfFragment g T keepsAll fuel n c)
      (occurrencesOfFragment { g with fragments := m' } T keepsAll fuel n c) := by
  induction fuel with
  | zero =>
      intro n c o ho
      cases ho
  | succ fuel ih =>
      intro n c
      rw [occurrencesOfFragment, occurrencesOfFragment]
      rcases h.get? n with ⟨hf, -⟩ | ⟨f, _, hf, hleft, ss, hss, rfl⟩
      · rw [hf]
        intro o ho
        cases ho
      · rw [hf, hleft]
        dsimp only
        split
        · exact kept_of_pruned (way_of_unconditional_fragment fuel) ih hss c
        · intro o ho
          cases ho

/-- **A field that is met on a way without conditions is met in what every choice leaves.** -/
theorem Choice.keeps {sets : List (List Selection)} (c : Choice g sets) :
    Keeps (occurrences g T keepsAll false sets.flatten)
      (occurrences { g with fragments := c.fragments } T keepsAll false c.left.flatten) := by
  have hlength : c.fragments.length = g.fragments.length := (List.Forall₂.length_eq c.fragments_pruned).symm
  rw [occurrences, occurrences, hlength]
  exact kept_of_pruned (way_of_unconditional_fragment _)
    (keeps_fragment c.fragments_pruned _) (Pruned.flatten c.left_pruned) false

/-! ## What one choice takes away -/

mutual

/-- The selection, but everything inside it that carries a condition. -/
def unguardedInside : Selection → Selection
  | .leaf f => .leaf f
  | .branch f o ss => .branch f o (unguarded ss)
  | .inline c ds p o ss => .inline c ds p o (unguarded ss)
  | .spread n ds p => .spread n ds p

/-- The selections, but everything that carries a condition. -/
def unguarded : List Selection → List Selection
  | [] => []
  | x :: r => if hasCondition x then unguarded r else unguardedInside x :: unguarded r

end

mutual

theorem pruned_unguardedInside {r r' : List Selection} (h : Pruned r r') :
    ∀ x : Selection, Pruned (x :: r) (unguardedInside x :: r')
  | .leaf _ => .leaf h
  | .branch _ _ ss => .branch (pruned_unguarded ss) h
  | .inline _ _ _ _ ss => .inline (pruned_unguarded ss) h
  | .spread _ _ _ => .spread h

theorem pruned_unguarded : ∀ ss : List Selection, Pruned ss (unguarded ss)
  | [] => .nil
  | x :: r => by
      rw [unguarded]
      split
      · rename_i hx
        exact .drop hx (pruned_unguarded r)
      · exact pruned_unguardedInside (pruned_unguarded r) x

end

/-- The fragments, but everything inside them that carries a condition. -/
def unguardedFragments (m : OrderedMap Fragment) : OrderedMap Fragment :=
  m.map fun p => (p.1, { p.2 with selections := unguarded p.2.selections })

/-- The choice that leaves out everything that carries a condition. -/
def Choice.unguarded (g : Setting) (sets : List (List Selection)) : Choice g sets where
  left := sets.map Execution.unguarded
  fragments := unguardedFragments g.fragments
  left_pruned := List.forall₂_map_right_iff.mpr (List.forall₂_same.mpr fun ss _ =>
    pruned_unguarded ss)
  fragments_pruned := List.forall₂_map_right_iff.mpr (List.forall₂_same.mpr fun p _ =>
    ⟨rfl, _, pruned_unguarded p.2.selections, rfl⟩)

theorem unguarded_append (ss ts : List Selection) :
    unguarded (ss ++ ts) = unguarded ss ++ unguarded ts := by
  induction ss with
  | nil => rfl
  | cons x r ih =>
      rw [List.cons_append, unguarded, unguarded, ih]
      split <;> rfl

theorem unguarded_flatten (sets : List (List Selection)) :
    unguarded sets.flatten = (sets.map unguarded).flatten := by
  induction sets with
  | nil => rfl
  | cons ss sets ih => rw [List.flatten_cons, unguarded_append, ih, List.map_cons, List.flatten_cons]

/-- Whatever the second list meets, the first meets on a way without conditions. -/
def MeetsFreely (full left : List Occurrence) : Prop :=
  ∀ o' ∈ left, ∃ o ∈ full, o.conditional = false ∧ o.node.key = o'.node.key

theorem MeetsFreely.append {full full' left left' : List Occurrence} (h : MeetsFreely full left)
    (h' : MeetsFreely full' left') : MeetsFreely (full ++ full') (left ++ left') := by
  intro o' ho'
  rcases List.mem_append.mp ho' with ho' | ho'
  · obtain ⟨o, ho, hfree⟩ := h o' ho'
    exact ⟨o, List.mem_append_left _ ho, hfree⟩
  · obtain ⟨o, ho, hfree⟩ := h' o' ho'
    exact ⟨o, List.mem_append_right _ ho, hfree⟩

section Unguarded

variable {m' : OrderedMap Fragment} {expand expand' : String → Bool → List Occurrence}

mutual

theorem meetsFreely_unguardedInside
    (hexpand : ∀ n, MeetsFreely (expand n false) (expand' n false)) :
    ∀ x : Selection, hasCondition x = false →
      MeetsFreely (occurrencesOf g T keepsAll expand false x)
        (occurrencesOf { g with fragments := m' } T keepsAll expand' false (unguardedInside x))
  | .leaf f, hx => by
      intro o' ho'
      obtain rfl := List.mem_singleton.mp ho'
      exact ⟨_, List.mem_singleton_self _, hx, rfl⟩
  | .branch f op ss, hx => by
      intro o' ho'
      obtain rfl := List.mem_singleton.mp ho'
      exact ⟨_, List.mem_singleton_self _, hx, rfl⟩
  | .inline t ds p op ss, hx => by
      -- the condition stands in the directives, which the inline fragment keeps
      have hx' : hasCondition (.inline t ds p op (unguarded ss)) = false := hx
      rw [unguardedInside, occurrencesOf, occurrencesOf, hx, hx']
      simp only [keepsAll, Bool.true_and]
      split
      · exact meetsFreely_unguarded hexpand ss
      · intro o' ho'
        cases ho'
  | .spread n ds p, hx => by
      rw [unguardedInside, occurrencesOf, occurrencesOf, hx]
      exact hexpand n.text

/-- **What is left when everything with a condition is left out** was met on a way without one. -/
theorem meetsFreely_unguarded
    (hexpand : ∀ n, MeetsFreely (expand n false) (expand' n false)) :
    ∀ ss : List Selection,
      MeetsFreely (occurrencesIn g T keepsAll expand false ss)
        (occurrencesIn { g with fragments := m' } T keepsAll expand' false (unguarded ss))
  | [] => by
      intro o' ho'
      cases ho'
  | x :: r => by
      have hr := meetsFreely_unguarded hexpand r
      rw [unguarded, occurrencesIn]
      split
      · intro o' ho'
        obtain ⟨o, ho, hfree⟩ := hr o' ho'
        exact ⟨o, List.mem_append_right _ ho, hfree⟩
      · rename_i hx
        rw [Bool.not_eq_true] at hx
        exact (meetsFreely_unguardedInside hexpand x hx).append hr

end

end Unguarded

theorem meetsFreely_fragment (fuel : Nat) :
    ∀ n, MeetsFreely (occurrencesOfFragment g T keepsAll fuel n false)
      (occurrencesOfFragment { g with fragments := unguardedFragments g.fragments } T keepsAll
        fuel n false) := by
  induction fuel with
  | zero =>
      intro n o' ho'
      cases ho'
  | succ fuel ih =>
      intro n
      have hget := OrderedMap.get?_mapValues
        (fun _ f => { f with selections := unguarded f.selections }) n g.fragments
      rw [occurrencesOfFragment, occurrencesOfFragment, unguardedFragments, hget]
      cases OrderedMap.get? n g.fragments with
      | none =>
          intro o' ho'
          cases ho'
      | some f =>
          simp only [Option.map_some]
          split
          · exact meetsFreely_unguarded ih f.selections
          · intro o' ho'
            cases ho'

theorem meetsFreely_flatten (g : Setting) (T : NamedType) (sets : List (List Selection)) :
    MeetsFreely (occurrences g T keepsAll false sets.flatten)
      (occurrences { g with fragments := unguardedFragments g.fragments } T keepsAll false
        (sets.map unguarded).flatten) := by
  have hlength : (unguardedFragments g.fragments).length = g.fragments.length := List.length_map ..
  rw [occurrences, occurrences, hlength, ← unguarded_flatten]
  exact meetsFreely_unguarded (meetsFreely_fragment _) sets.flatten

/-! ## Exactness -/

/-- A key is unconditional if and only if a field with the key is met on a way without conditions. -/
theorem unconditional_iff {sets : List (List Selection)} {key : String} {e : Shape.Entry}
    (he : (key, e) ∈ collect g.schema g.fragments T false sets.flatten) :
    e.conditional = false ↔ ∃ o ∈ occurrences g T keepsAll false sets.flatten,
      o.conditional = false ∧ o.node.key = key := by
  rw [collect_eq_grouped] at he
  rw [conditional_of_mem_grouped he, List.all_eq_false]
  constructor
  · rintro ⟨o, ho, hc⟩
    obtain ⟨hmem, hkey⟩ := List.mem_filter.mp ho
    exact ⟨o, hmem, by simpa using hc, of_decide_eq_true hkey⟩
  · rintro ⟨o, ho, hc, hkey⟩
    exact ⟨o, List.mem_filter.mpr ⟨ho, decide_eq_true hkey⟩, by simp [hc]⟩

/-- **The flags are exact.**  For fragments that do not lead back to themselves: the keys that are
    collected are, in order, those for which an execution asks that leaves out nothing, and a key
    does not depend on a condition if and only if whatever is left out of the selections with
    conditions, what is left asks for it. -/
theorem conditional_iff_choices (ha : Acyclic g.fragments) (T : NamedType)
    (sets : List (List Selection)) :
    OrderedMap.keys (collect g.schema g.fragments T false sets.flatten)
        = (Choice.everything g sets).keys T
      ∧ ∀ key e, (key, e) ∈ collect g.schema g.fragments T false sets.flatten →
          (e.conditional = false ↔ ∀ c : Choice g sets, key ∈ c.keys T) := by
  constructor
  · rw [← FieldMap.keys_heads, heads_collect (Alike.refl g sets.flatten) ha T, keys_headsOf]
    rfl
  · intro key e he
    rw [unconditional_iff he]
    constructor
    · rintro ⟨o, ho, hc, rfl⟩ c
      obtain ⟨o', ho', hkey⟩ := c.keeps o ho hc
      exact (c.mem_keys_iff ha).mpr ⟨o'.node, List.mem_map_of_mem ho', hkey⟩
    · intro hall
      obtain ⟨n, hn, rfl⟩ := ((Choice.unguarded g sets).mem_keys_iff ha).mp (hall _)
      obtain ⟨o', ho', rfl⟩ := List.mem_map.mp hn
      exact meetsFreely_flatten g T sets o' ho'

/-! ## A key that loses its condition and one that keeps it -/

/-- The fragment `Friendly` asks for the id, and for the friend under a condition. -/
def guarded : Setting where
  schema := overlapping.schema
  scalars := []
  fragments :=
    [("Friendly", bareFragment "Friendly" "User"
        [.leaf (bareField "id"),
         .branch { bareField "friend" with directives := [includeMore] } .first
          [.leaf (bareField "id")]])]

/-- Both keys are first met under a condition, `... @include(if: $more) { id friend { id } }`. -/
def guardedSets : List (List Selection) :=
  [[.inline none [includeMore] .first .first
      [.leaf (bareField "id"), .branch (bareField "friend") .first [.leaf (bareField "id")]]],
   [bareSpread "Friendly"]]

theorem acyclic_guarded : Acyclic guarded.fragments := by
  refine acyclic_of_lt (fun _ => 0) ?_
  rintro n m ⟨f, hf, hm⟩
  cases List.mem_singleton.mp (OrderedMap.mem_of_get? hf)
  cases hm

theorem conditional_iff_choices_guarded :
    Acyclic guarded.fragments
      ∧ OrderedMap.keys (collect guarded.schema guarded.fragments userType false
          guardedSets.flatten) = ["id", "friend"]
      ∧ (Choice.everything guarded guardedSets).keys userType = ["id", "friend"]
      ∧ (∀ c : Choice guarded guardedSets, "id" ∈ c.keys userType)
      ∧ ¬ ∀ c : Choice guarded guardedSets, "friend" ∈ c.keys userType := by
  obtain ⟨hkeys, hexact⟩ := conditional_iff_choices acyclic_guarded userType guardedSets
  have hmem : ∀ p ∈ collect guarded.schema guarded.fragments userType false guardedSets.flatten,
      p.2.conditional = (p.1 == "friend") := by decide
  have hcollect : OrderedMap.keys (collect guarded.schema guarded.fragments userType false
      guardedSets.flatten) = ["id", "friend"] := by decide
  have hentry : ∀ key ∈ ["id", "friend"], ∃ e, (key, e)
      ∈ collect guarded.schema guarded.fragments userType false guardedSets.flatten := by
    intro key hkey
    rw [← hcollect] at hkey
    obtain ⟨⟨_, e⟩, he, rfl⟩ := List.mem_map.mp hkey
    exact ⟨e, he⟩
  obtain ⟨id, hid⟩ := hentry "id" (by decide)
  obtain ⟨friend, hfriend⟩ := hentry "friend" (by decide)
  refine ⟨acyclic_guarded, hcollect, hkeys.symm.trans hcollect, (hexact "id" id hid).mp (hmem _ hid),
    fun hall => ?_⟩
  have hfalse := (hexact "friend" friend hfriend).mpr hall
  rw [hmem _ hfriend] at hfalse
  cases hfalse

end QueryTypings.Execution
