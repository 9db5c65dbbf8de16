/-
  What is known of fields that were compared without finding a conflict.

  1. **Groups** — the fields of a selection set are grouped by their keys, and none is left out
     (`mem_getD_fieldMap_iff`).

  2. **Pairs** — that a selection set was compared with a fragment, or two fragments with one
     another, without assuming that their fields never meet, is never forgotten (`Extends`).

  3. **Agreement** — two fields agree if they never meet, or if they bear one name and what is
     selected of them agrees: its fields do, and the fragments in it were compared (`Agree`).  The
     comparison of fragments is taken on trust here, for it may still be going on: a pair is noted
     before it is compared.

  4. **Comparing** — comparing without finding a conflict makes good what it takes on trust.  Every
     pair that is noted meanwhile has been compared in the end (`Step`), and the fields that were
     compared agree as far as the pairs noted then go (`compares_conflict?`).  The induction is on the
     fuel, one case for each of the functions that compare.

  5. **All sets** — so after all selection sets of a document were gone through, nothing is taken on
     trust any more (`exists_merged_of_setConflicts`).
-/
import QueryTypings.Proofs.Check.Circles

namespace QueryTypings.Check

open QueryTypings.Graphql QueryTypings.Schema

variable {q : Inquiry}

/-! ## Groups -/

/-- The fields of a selection set, those of named fragments left out. -/
def SelectionSet.own (q : Inquiry) (x : SelectionSet) : List FieldUse :=
  fieldsOfSelections q x.parent x.selections

theorem getD_groupByKey (k : String) (fields : List FieldUse) :
    (OrderedMap.get? k (groupByKey fields)).getD []
      = fields.filter fun f => f.head.key == k := by
  have hfold : ∀ (rest : List FieldUse) (m : OrderedMap (List FieldUse)),
      (OrderedMap.get? k (rest.foldl (fun m f =>
        OrderedMap.put f.head.key ((OrderedMap.get? f.head.key m).getD [] ++ [f]) m) m)).getD []
        = (OrderedMap.get? k m).getD [] ++ rest.filter fun f => f.head.key == k := by
    intro rest
    induction rest with
    | nil =>
        intro m
        exact (List.append_nil _).symm
    | cons f r ih =>
        intro m
        rw [List.foldl_cons, ih, List.filter_cons]
        by_cases hk : f.head.key = k
        · subst hk
          rw [OrderedMap.get?_put_self, if_pos (beq_self_eq_true _), Option.getD_some,
            List.append_assoc, List.singleton_append]
        · rw [OrderedMap.get?_put_of_ne (Ne.symm hk), if_neg (by simpa using hk)]
  exact hfold fields []

/-- A field of a set is found under its key, and what is found under a key are fields of the set. -/
theorem mem_getD_fieldMap_iff {x : SelectionSet} {a : FieldUse} {k : String} :
    a ∈ (OrderedMap.get? k (x.fieldMap q)).getD [] ↔ a ∈ x.own q ∧ a.head.key = k := by
  rw [SelectionSet.fieldMap, getD_groupByKey, List.mem_filter, beq_iff_eq]
  exact Iff.rfl

theorem nodup_keys_fieldMap (x : SelectionSet) : (OrderedMap.keys (x.fieldMap q)).Nodup := by
  have hfold : ∀ (rest : List FieldUse) (m : OrderedMap (List FieldUse)),
      (OrderedMap.keys m).Nodup → (OrderedMap.keys (rest.foldl (fun m f =>
        OrderedMap.put f.head.key ((OrderedMap.get? f.head.key m).getD [] ++ [f]) m) m)).Nodup := by
    intro rest
    induction rest with
    | nil =>
        intro m hm
        exact hm
    | cons f r ih =>
        intro m hm
        apply ih
        exact OrderedMap.nodup_keys_put hm _ _
  exact hfold _ [] List.nodup_nil

/-- A group holds the fields of the set that bear its key. -/
theorem group_of_mem_fieldMap {x : SelectionSet} {k : String} {group : List FieldUse}
    (h : (k, group) ∈ x.fieldMap q) : ∀ a ∈ group, a ∈ x.own q ∧ a.head.key = k := by
  have hget := OrderedMap.get?_of_mem (nodup_keys_fieldMap x) h
  intro a ha
  exact mem_getD_fieldMap_iff.mp (by rw [hget]; exact ha)

/-- Every field of a set is in a group. -/
theorem exists_group_of_mem_own {x : SelectionSet} {a : FieldUse} (h : a ∈ x.own q) :
    ∃ group, (a.head.key, group) ∈ x.fieldMap q ∧ a ∈ group
      ∧ group = (x.own q).filter fun f => f.head.key == a.head.key := by
  have hmem : a ∈ (OrderedMap.get? a.head.key (x.fieldMap q)).getD [] :=
    mem_getD_fieldMap_iff.mpr ⟨h, rfl⟩
  cases hget : OrderedMap.get? a.head.key (x.fieldMap q) with
  | none =>
      rw [hget] at hmem
      cases hmem
  | some group =>
      rw [hget] at hmem
      refine ⟨group, OrderedMap.mem_of_get? hget, hmem, ?_⟩
      have hall := getD_groupByKey a.head.key (x.own q)
      rw [show groupByKey (x.own q) = x.fieldMap q from rfl, hget] at hall
      exact hall

/-! ## Pairs -/

/-- A set was compared with a fragment, and no exclusion was assumed. -/
def Compared.HasSet (S : Compared) (opening : Position) (fragment : String) : Prop :=
  S.sets.get? (opening, fragment) = some false

/-- A pair of fragments was compared, and no exclusion was assumed. -/
def Compared.HasPair (S : Compared) (pair : String × String) : Prop :=
  S.fragments.get? pair = some false

/-- Two fragments were compared, unless they are one. -/
def Compared.Covers (S : Compared) (a b : String) : Prop := a = b ∨ S.HasPair (unordered a b)

/-- What was compared is still known. -/
structure Extends (S S' : Compared) : Prop where
  sets : ∀ o n, S.HasSet o n → S'.HasSet o n
  pairs : ∀ p, S.HasPair p → S'.HasPair p

theorem Extends.refl (S : Compared) : Extends S S := ⟨fun _ _ h => h, fun _ h => h⟩

theorem Extends.trans {S S' S'' : Compared} (h : Extends S S') (h' : Extends S' S'') :
    Extends S S'' :=
  ⟨fun o n hn => h'.sets o n (h.sets o n hn), fun p hp => h'.pairs p (h.pairs p hp)⟩

theorem isCompared_false_iff {α : Type} [BEq α] [Hashable α] {pair : α}
    {done : Std.HashMap α Bool} :
    isCompared false pair done = true ↔ done.get? pair = some false := by
  rw [isCompared]
  cases done.get? pair with
  | none => exact ⟨fun h => (by cases h), fun h => (by cases h)⟩
  | some b => cases b <;> simp

/-- Noting a new pair leaves the others as they are. -/
theorem get?_insert_iff {α : Type} [BEq α] [LawfulBEq α] [Hashable α] {pair : α}
    {done : Std.HashMap α Bool} {exclusive : Bool}
    (h : ¬ isCompared exclusive pair done = true) (other : α) :
    (done.insert pair exclusive).get? other = some false
      ↔ done.get? other = some false ∨ (exclusive = false ∧ other = pair) := by
  rw [Std.HashMap.get?_insert]
  by_cases hp : pair = other
  · subst hp
    rw [beq_self_eq_true, if_pos rfl]
    have hnot : done.get? pair ≠ some false := fun hget => h (by rw [isCompared, hget]; simp)
    constructor
    · intro hnew
      exact Or.inr ⟨Option.some.inj hnew, rfl⟩
    · rintro (hget | ⟨he, -⟩)
      · exact absurd hget hnot
      · exact congrArg some he
  · rw [beq_false_of_ne hp]
    simp [Ne.symm hp]

/-! ## Agreement -/

/-- The fragments in two selection sets were compared with the sets, and with one another. -/
structure Noted (S : Compared) (x y : SelectionSet) : Prop where
  right : ∀ n ∈ y.fragments, S.HasSet x.opening n
  left : ∀ n ∈ x.fragments, S.HasSet y.opening n
  both : ∀ n ∈ x.fragments, ∀ m ∈ y.fragments, S.Covers n m

/-- Two fields never meet, or they bear one name and what is selected of them agrees. -/
inductive Agree (q : Inquiry) (S : Compared) : FieldUse → FieldUse → Prop
  | apart {a b : FieldUse} : neverMeet a b = true → Agree q S a b
  | same {a b : FieldUse} : a.head.name.text = b.head.name.text →
      (∀ x y, a.selectionSet? q = some x → b.selectionSet? q = some y →
        ∀ c ∈ x.own q, ∀ d ∈ y.own q, c.head.key = d.head.key → Agree q S c d) →
      (∀ x y, a.selectionSet? q = some x → b.selectionSet? q = some y → Noted S x y) →
      Agree q S a b

/-- The fields of two selection sets agree where they share a key. -/
def AgreeOwn (q : Inquiry) (S : Compared) (x y : SelectionSet) : Prop :=
  ∀ a ∈ x.own q, ∀ b ∈ y.own q, a.head.key = b.head.key → Agree q S a b

/-- What it means that a selection set was compared with a fragment. -/
structure SetCompared (q : Inquiry) (S : Compared) (x : SelectionSet) (f : Fragment) : Prop where
  own : AgreeOwn q S x (ofFragment q f)
  fragments : ∀ n ∈ (ofFragment q f).fragments, S.HasSet x.opening n

/-- What it means that two fragments were compared. -/
structure PairCompared (q : Inquiry) (S : Compared) (f g : Fragment) : Prop where
  own : AgreeOwn q S (ofFragment q f) (ofFragment q g)
  right : ∀ n ∈ (ofFragment q g).fragments, S.Covers f.name.text n
  left : ∀ n ∈ (ofFragment q f).fragments, S.Covers n g.name.text

/-- The selection set that begins at a place was compared with a fragment, as far as both are
    there.  A fragment is not compared with itself. -/
def SetMadeGood (q : Inquiry) (sets : List SelectionSet) (S : Compared) (opening : Position)
    (n : String) : Prop :=
  ∀ x ∈ sets, x.opening = opening → ∀ f, q.fragment? n = some f → f.opening ≠ opening →
    SetCompared q S x f

/-- A pair of fragments was compared, in one order, as far as both are there. -/
def PairMadeGood (q : Inquiry) (S : Compared) (pair : String × String) : Prop :=
  ∃ a b, unordered a b = pair ∧ ∀ f g, q.fragment? a = some f → q.fragment? b = some g →
    PairCompared q S f g

/-! ## Comparing -/

/-- From one state to a later one no pair is forgotten; those that are noted meanwhile have been
    compared, whatever comes later. -/
structure Step (q : Inquiry) (sets : List SelectionSet) (σ σ' : Compared) : Prop where
  grows : Extends σ σ'
  sets : ∀ S, Extends σ' S → ∀ o n, σ'.HasSet o n → σ.HasSet o n ∨ SetMadeGood q sets S o n
  pairs : ∀ S, Extends σ' S → ∀ p, σ'.HasPair p → σ.HasPair p ∨ PairMadeGood q S p

variable {sets : List SelectionSet} {σ σ' σ'' : Compared}

theorem Step.refl (σ : Compared) : Step q sets σ σ :=
  ⟨.refl σ, fun _ _ _ _ h => Or.inl h, fun _ _ _ h => Or.inl h⟩

theorem Step.trans (h : Step q sets σ σ') (h' : Step q sets σ' σ'') : Step q sets σ σ'' := by
  refine ⟨h.grows.trans h'.grows, ?_, ?_⟩
  · intro S hS o n hn
    rcases h'.sets S hS o n hn with hn | hgood
    · exact h.sets S (h'.grows.trans hS) o n hn
    · exact Or.inr hgood
  · intro S hS p hp
    rcases h'.pairs S hS p hp with hp | hgood
    · exact h.pairs S (h'.grows.trans hS) p hp
    · exact Or.inr hgood

/-- The pair of a set and a fragment that is noted at first is made good by what follows. -/
theorem Step.of_noting_set {exclusive : Bool} {o : Position} {n : String}
    (hnew : ¬ isCompared exclusive (o, n) σ.sets = true)
    (h : Step q sets { σ with sets := σ.sets.insert (o, n) exclusive } σ')
    (hgood : ∀ S, Extends σ' S → exclusive = false → SetMadeGood q sets S o n) :
    Step q sets σ σ' := by
  have hget (o' : Position) (n' : String) := get?_insert_iff hnew (o', n')
  have hgrows : Extends σ { σ with sets := σ.sets.insert (o, n) exclusive } := by
    refine ⟨?_, fun p hp => hp⟩
    intro o' n' hn
    exact (hget o' n').mpr (Or.inl hn)
  refine ⟨hgrows.trans h.grows, ?_, h.pairs⟩
  intro S hS o' n' hn
  rcases h.sets S hS o' n' hn with hn | hn
  · rcases (hget o' n').mp hn with hn | ⟨he, heq⟩
    · exact Or.inl hn
    · obtain ⟨rfl, rfl⟩ := Prod.mk.inj heq
      exact Or.inr (hgood S hS he)
  · exact Or.inr hn

/-- The pair of two fragments that is noted at first is made good by what follows. -/
theorem Step.of_noting_pair {exclusive : Bool} {pair : String × String}
    (hnew : ¬ isCompared exclusive pair σ.fragments = true)
    (h : Step q sets { σ with fragments := σ.fragments.insert pair exclusive } σ')
    (hgood : ∀ S, Extends σ' S → exclusive = false → PairMadeGood q S pair) :
    Step q sets σ σ' := by
  have hget := get?_insert_iff hnew
  have hgrows : Extends σ { σ with fragments := σ.fragments.insert pair exclusive } := by
    refine ⟨fun o n hn => hn, ?_⟩
    intro p hp
    exact (hget p).mpr (Or.inl hp)
  refine ⟨hgrows.trans h.grows, h.sets, ?_⟩
  intro S hS p hp
  rcases h.pairs S hS p hp with hp | hp
  · rcases (hget p).mp hp with hp | ⟨he, rfl⟩
    · exact Or.inl hp
    · exact Or.inr (hgood S hS he)
  · exact Or.inr hp

/-- If comparing finds no conflict, this was a step, and something is known from then on. -/
def Compares (q : Inquiry) (sets : List SelectionSet) (m : Comparing (List Conflict))
    (Q : Compared → Prop) : Prop :=
  ∀ σ σ', m.run σ = some ([], σ') → Step q sets σ σ' ∧ ∀ S, Extends σ' S → Q S

section Combining

variable {α β : Type} {m m' m₃ m₄ : Comparing (List Conflict)} {P Q P₃ P₄ : Compared → Prop}

theorem run_bind_eq_some {m : Comparing α} {f : α → Comparing β} {b : β} :
    (m >>= f).run σ = some (b, σ'') ↔
      ∃ a σ', m.run σ = some (a, σ') ∧ (f a).run σ' = some (b, σ'') := by
  rw [StateT.run_bind]
  show (m.run σ).bind _ = _ ↔ _
  rw [Option.bind_eq_some_iff, Prod.exists]

theorem run_pure_eq_some {a b : α} : (pure a : Comparing α).run σ = some (b, σ') ↔
    a = b ∧ σ = σ' := by
  show some (a, σ) = some (b, σ') ↔ _
  rw [Option.some.injEq, Prod.mk.injEq]

theorem Compares.mono (h : Compares q sets m P) (hPQ : ∀ S, P S → Q S) : Compares q sets m Q :=
  fun σ σ' hrun => ⟨(h σ σ' hrun).1, fun S hS => hPQ S ((h σ σ' hrun).2 S hS)⟩

theorem compares_nil (h : ∀ S, Q S) : Compares q sets (pure []) Q := by
  intro σ σ' hrun
  obtain ⟨-, rfl⟩ := run_pure_eq_some.mp hrun
  exact ⟨.refl σ, fun S _ => h S⟩

theorem compares_failure : Compares q sets failure Q := fun σ σ' hrun => by cases hrun

/-- A conflict that was found is not lost. -/
theorem compares_cons {c : Conflict} {cs : List Conflict} : Compares q sets (pure (c :: cs)) Q := by
  intro σ σ' hrun
  cases (run_pure_eq_some.mp hrun).1

/-- Comparing twice, what is known after the first time is known after the second time. -/
theorem Compares.append (h : Compares q sets m P) (h' : Compares q sets m' Q) :
    Compares q sets (do let a ← m; let b ← m'; return a ++ b) fun S => P S ∧ Q S := by
  intro σ σ₂ hrun
  obtain ⟨a, σ₁, hfirst, hrun⟩ := run_bind_eq_some.mp hrun
  obtain ⟨b, σ₂', hsecond, hrun⟩ := run_bind_eq_some.mp hrun
  obtain ⟨hnil, rfl⟩ := run_pure_eq_some.mp hrun
  obtain ⟨rfl, rfl⟩ := List.append_eq_nil_iff.mp hnil
  obtain ⟨hstep, hP⟩ := h _ _ hfirst
  obtain ⟨hstep', hQ⟩ := h' _ _ hsecond
  exact ⟨hstep.trans hstep', fun S hS => ⟨hP S (hstep'.grows.trans hS), hQ S hS⟩⟩

theorem Compares.append₃ (h : Compares q sets m P) (h' : Compares q sets m' Q)
    (h₃ : Compares q sets m₃ P₃) :
    Compares q sets (do let a ← m; let b ← m'; let c ← m₃; return a ++ b ++ c)
      fun S => P S ∧ Q S ∧ P₃ S := by
  have heq : (do let a ← m; let b ← m'; let c ← m₃; return a ++ b ++ c)
      = (do let a ← m; let b ← (do let b ← m'; let c ← m₃; return b ++ c); return a ++ b) := by
    simp
  rw [heq]
  exact h.append (h'.append h₃)

theorem Compares.append₄ (h : Compares q sets m P) (h' : Compares q sets m' Q)
    (h₃ : Compares q sets m₃ P₃) (h₄ : Compares q sets m₄ P₄) :
    Compares q sets (do
        let a ← m
        let b ← m'
        let c ← m₃
        let d ← m₄
        return a ++ b ++ c ++ d) fun S => P S ∧ Q S ∧ P₃ S ∧ P₄ S := by
  have heq : (do let a ← m; let b ← m'; let c ← m₃; let d ← m₄; return a ++ b ++ c ++ d)
      = (do
          let a ← m
          let b ← (do let b ← m'; let c ← m₃; let d ← m₄; return b ++ c ++ d)
          return a ++ b) := by
    simp
  rw [heq]
  exact h.append (h'.append₃ h₃ h₄)

theorem conflictsOfEach_cons (x : α) (r : List α) (f : α → Comparing (List Conflict)) :
    conflictsOfEach (x :: r) f
      = do let a ← f x; let b ← conflictsOfEach r f; return a ++ b := by
  simp [conflictsOfEach, List.mapM_cons]

theorem compares_each {xs : List α} {f : α → Comparing (List Conflict)} {R : α → Compared → Prop}
    (h : ∀ x ∈ xs, Compares q sets (f x) (R x)) :
    Compares q sets (conflictsOfEach xs f) fun S => ∀ x ∈ xs, R x S := by
  induction xs with
  | nil => exact compares_nil fun S x hx => absurd hx List.not_mem_nil
  | cons x r ih =>
      obtain ⟨hx, hr⟩ := List.forall_mem_cons.mp h
      rw [conflictsOfEach_cons]
      exact (hx.append (ih hr)).mono fun S hS => List.forall_mem_cons.mpr hS

theorem compares_pairs {xs : List α} {f : α → α → Comparing (List Conflict)}
    {R : α → α → Compared → Prop} (h : ∀ x ∈ xs, ∀ y ∈ xs, Compares q sets (f x y) (R x y)) :
    Compares q sets (conflictsOfPairs f xs) fun S => xs.Pairwise fun x y => R x y S := by
  induction xs with
  | nil => exact compares_nil fun S => .nil
  | cons x r ih =>
      obtain ⟨hx, hr⟩ := List.forall_mem_cons.mp h
      rw [conflictsOfPairs]
      have hfirst : Compares q sets (conflictsOfEach r (f x)) fun S => ∀ y ∈ r, R x y S :=
        compares_each fun y hy => hx y (List.mem_cons_of_mem _ hy)
      have hrest : Compares q sets (conflictsOfPairs f r) fun S => r.Pairwise fun x y => R x y S :=
        ih fun y hy z hz => hr y hy z (List.mem_cons_of_mem _ hz)
      exact (hfirst.append hrest).mono fun S hS => List.pairwise_cons.mpr hS

/-- The pair of a set and a fragment is noted, and then made good. -/
theorem compares_claimSet {exclusive : Bool} {o : Position} {n : String}
    (h : Compares q sets m fun S => exclusive = false → SetMadeGood q sets S o n) :
    Compares q sets (do
        if !(← claimSet exclusive o n) then return []
        m) fun S => exclusive = false → S.HasSet o n := by
  intro σ σ₂ hrun
  obtain ⟨b, σ₁, hclaim, hrun⟩ := run_bind_eq_some.mp hrun
  have hclaim' : (if isCompared exclusive (o, n) σ.sets then (false, σ)
      else (true, { σ with sets := σ.sets.insert (o, n) exclusive })) = (b, σ₁) :=
    Option.some.inj hclaim
  by_cases hdone : isCompared exclusive (o, n) σ.sets = true
  · rw [if_pos hdone] at hclaim'
    obtain ⟨rfl, rfl⟩ := Prod.mk.inj hclaim'
    obtain ⟨-, rfl⟩ := run_pure_eq_some.mp hrun
    refine ⟨.refl _, ?_⟩
    rintro S hS rfl
    exact hS.sets o n (isCompared_false_iff.mp hdone)
  · rw [if_neg hdone] at hclaim'
    obtain ⟨rfl, rfl⟩ := Prod.mk.inj hclaim'
    obtain ⟨hstep, hgood⟩ := h _ _ hrun
    refine ⟨hstep.of_noting_set hdone hgood, ?_⟩
    intro S hS he
    have hnoted := (get?_insert_iff hdone (o, n)).mpr (Or.inr ⟨he, rfl⟩)
    exact (hstep.grows.trans hS).sets o n hnoted

/-- The pair of two fragments is noted, and then made good. -/
theorem compares_claimFragments {exclusive : Bool} {a b : String}
    (h : Compares q sets m fun S => exclusive = false → PairMadeGood q S (unordered a b)) :
    Compares q sets (do
        if !(← claimFragments exclusive a b) then return []
        m) fun S => exclusive = false → S.HasPair (unordered a b) := by
  intro σ σ₂ hrun
  obtain ⟨c, σ₁, hclaim, hrun⟩ := run_bind_eq_some.mp hrun
  have hclaim' : (if isCompared exclusive (unordered a b) σ.fragments then (false, σ)
      else (true, { σ with fragments := σ.fragments.insert (unordered a b) exclusive })) = (c, σ₁) :=
    Option.some.inj hclaim
  by_cases hdone : isCompared exclusive (unordered a b) σ.fragments = true
  · rw [if_pos hdone] at hclaim'
    obtain ⟨rfl, rfl⟩ := Prod.mk.inj hclaim'
    obtain ⟨-, rfl⟩ := run_pure_eq_some.mp hrun
    refine ⟨.refl _, ?_⟩
    rintro S hS rfl
    exact hS.pairs _ (isCompared_false_iff.mp hdone)
  · rw [if_neg hdone] at hclaim'
    obtain ⟨rfl, rfl⟩ := Prod.mk.inj hclaim'
    obtain ⟨hstep, hgood⟩ := h _ _ hrun
    refine ⟨hstep.of_noting_pair hdone hgood, ?_⟩
    intro S hS he
    have hnoted := (get?_insert_iff hdone (unordered a b)).mpr (Or.inr ⟨he, rfl⟩)
    exact (hstep.grows.trans hS).pairs _ hnoted

end Combining

/-- The selection sets of a document: they begin at different places, and what is selected of their
    fields is one of them, as are those of the fragments. -/
structure SetsOf (q : Inquiry) (sets : List SelectionSet) : Prop where
  apart : (sets.map SelectionSet.opening).Nodup
  below : ∀ x ∈ sets, ∀ a ∈ x.own q, ∀ y, a.selectionSet? q = some y → y ∈ sets
  fragments : ∀ f ∈ q.document.fragments, ofFragment q f ∈ sets

theorem SetsOf.eq_of_opening (h : SetsOf q sets) {x y : SelectionSet} (hx : x ∈ sets)
    (hy : y ∈ sets) (heq : x.opening = y.opening) : x = y :=
  List.inj_on_of_nodup_map h.apart hx hy heq

/-- What the functions that compare find out, if their fuel does not exceed a bound. -/
structure Comparisons (q : Inquiry) (sets : List SelectionSet) (fuel : Nat) : Prop where
  conflict : ∀ exclusive key a b, (∀ x, a.selectionSet? q = some x → x ∈ sets) →
    (∀ y, b.selectionSet? q = some y → y ∈ sets) →
    Compares q sets (conflict? q fuel exclusive key a b) fun S => exclusive = false → Agree q S a b
  maps : ∀ exclusive, ∀ x ∈ sets, ∀ y ∈ sets,
    Compares q sets (betweenMaps q fuel exclusive (x.fieldMap q) (y.fieldMap q)) fun S =>
      exclusive = false → AgreeOwn q S x y
  set : ∀ exclusive n, ∀ x ∈ sets, Compares q sets (withFragment q fuel exclusive x n) fun S =>
    exclusive = false → S.HasSet x.opening n
  pair : ∀ exclusive a b, Compares q sets (betweenFragments q fuel exclusive a b) fun S =>
    exclusive = false → S.Covers a b
  both : ∀ exclusive, ∀ x ∈ sets, ∀ y ∈ sets, Compares q sets (betweenSets q fuel exclusive x y)
    fun S => exclusive = false → AgreeOwn q S x y ∧ Noted S x y

section Functions

variable {fuel : Nat}

theorem compares_betweenMaps (hs : SetsOf q sets) (h : Comparisons q sets fuel) (exclusive : Bool)
    {x y : SelectionSet} (hx : x ∈ sets) (hy : y ∈ sets) :
    Compares q sets (betweenMaps q (fuel + 1) exclusive (x.fieldMap q) (y.fieldMap q)) fun S =>
      exclusive = false → AgreeOwn q S x y := by
  rw [betweenMaps]
  have hgroups : ∀ p ∈ x.fieldMap q, Compares q sets
      (conflictsOfEach p.2 fun a => conflictsOfEach ((OrderedMap.get? p.1 (y.fieldMap q)).getD [])
        fun b => conflict? q fuel exclusive p.1 a b)
      fun S => ∀ a ∈ p.2, ∀ b ∈ (OrderedMap.get? p.1 (y.fieldMap q)).getD [],
        exclusive = false → Agree q S a b := by
    intro p hp
    apply compares_each
    intro a ha
    apply compares_each
    intro b hb
    apply h.conflict
    · exact hs.below x hx a (group_of_mem_fieldMap hp a ha).1
    · exact hs.below y hy b (mem_getD_fieldMap_iff.mp hb).1
  refine (compares_each hgroups).mono ?_
  intro S hS he a ha b hb hkey
  -- the pair was met in the group of the first field
  obtain ⟨group, hgroup, hmem, -⟩ := exists_group_of_mem_own ha
  exact hS _ hgroup a hmem b (mem_getD_fieldMap_iff.mpr ⟨hb, hkey.symm⟩) he

theorem compares_countFields {P : Compared → Prop} (h : Compares q sets m P) :
    Compares q sets (do countFields; m) P := by
  intro σ σ₂ hrun
  obtain ⟨u, σ₁, hcount, hrun⟩ := run_bind_eq_some.mp hrun
  have hsame : σ₁.sets = σ.sets ∧ σ₁.fragments = σ.fragments := by
    rw [countFields] at hcount
    obtain ⟨done, σ₀, hget, hcount⟩ := run_bind_eq_some.mp hcount
    obtain ⟨rfl, rfl⟩ := Prod.mk.inj (Option.some.inj hget)
    split at hcount
    · cases hcount
    · obtain ⟨-, rfl⟩ := Prod.mk.inj (Option.some.inj hcount)
      exact ⟨rfl, rfl⟩
  obtain ⟨hstep, hP⟩ := h _ _ hrun
  have hset (o : Position) (n : String) : σ₁.HasSet o n ↔ σ.HasSet o n := by
    rw [Compared.HasSet, hsame.1]
    exact Iff.rfl
  have hpair (p : String × String) : σ₁.HasPair p ↔ σ.HasPair p := by
    rw [Compared.HasPair, hsame.2]
    exact Iff.rfl
  have hcounted : Step q sets σ σ₁ := by
    refine ⟨⟨?_, ?_⟩, ?_, ?_⟩
    · intro o n hn
      exact (hset o n).mpr hn
    · intro p hp
      exact (hpair p).mpr hp
    · intro S _ o n hn
      exact Or.inl ((hset o n).mp hn)
    · intro S _ p hp
      exact Or.inl ((hpair p).mp hp)
  exact ⟨hcounted.trans hstep, hP⟩

theorem compares_conflict? (h : Comparisons q sets fuel) (exclusive : Bool)
    (key : String) {a b : FieldUse} (ha : ∀ x, a.selectionSet? q = some x → x ∈ sets)
    (hb : ∀ y, b.selectionSet? q = some y → y ∈ sets) :
    Compares q sets (conflict? q (fuel + 1) exclusive key a b) fun S =>
      exclusive = false → Agree q S a b := by
  rw [conflict?]
  refine compares_countFields ?_
  dsimp only
  split
  · exact compares_cons
  · rename_i hdirect
    -- without an exclusion the fields bear one name
    have hname : neverMeet a b = false → exclusive = false →
        a.head.name.text = b.head.name.text := by
      rintro hmeet rfl
      by_contra hne
      simp [directConflict?, hmeet, hne] at hdirect
    split
    · rename_i x y hx hy
      intro σ σ₂ hrun
      obtain ⟨found, σ₁, hfound, hrun⟩ := run_bind_eq_some.mp hrun
      split at hrun
      · rename_i hempty
        obtain rfl := List.isEmpty_iff.mp hempty
        obtain ⟨-, rfl⟩ := run_pure_eq_some.mp hrun
        obtain ⟨hstep, hsets⟩ :=
          h.both (exclusive || neverMeet a b) x (ha x hx) y (hb y hy) _ _ hfound
        refine ⟨hstep, ?_⟩
        intro S hS he
        cases hmeet : neverMeet a b with
        | true => exact .apart hmeet
        | false =>
            obtain ⟨hown, hnoted⟩ := hsets S hS (by rw [he, hmeet]; rfl)
            apply Agree.same (hname hmeet he)
            · intro x' y' hx' hy'
              obtain rfl := Option.some.inj (hx.symm.trans hx')
              obtain rfl := Option.some.inj (hy.symm.trans hy')
              exact hown
            · intro x' y' hx' hy'
              obtain rfl := Option.some.inj (hx.symm.trans hx')
              obtain rfl := Option.some.inj (hy.symm.trans hy')
              exact hnoted
      · cases (run_pure_eq_some.mp hrun).1
    · rename_i hnone
      apply compares_nil
      intro S he
      cases hmeet : neverMeet a b with
      | true => exact .apart hmeet
      | false =>
          apply Agree.same (hname hmeet he)
          · intro x y hx hy
            exact absurd hy (hnone x y hx)
          · intro x y hx hy
            exact absurd hy (hnone x y hx)

theorem compares_withFragment (hs : SetsOf q sets) (h : Comparisons q sets fuel) (exclusive : Bool)
    (n : String) {x : SelectionSet} (hx : x ∈ sets) :
    Compares q sets (withFragment q (fuel + 1) exclusive x n) fun S =>
      exclusive = false → S.HasSet x.opening n := by
  rw [withFragment]
  refine compares_claimSet ?_
  split
  · rename_i hnone
    apply compares_nil
    intro S _ x' _ _ f hf
    rw [hnone] at hf
    cases hf
  · rename_i f hf
    dsimp only
    split
    · rename_i hsame
      apply compares_nil
      intro S _ x' _ _ f' hf' hne
      obtain rfl := Option.some.inj (hf.symm.trans hf')
      exact absurd (eq_of_beq hsame).symm hne
    · have hy := hs.fragments f (name_of_fragment? hf).1
      refine ((h.maps exclusive x hx _ hy).append
        (compares_each fun m _ => h.set exclusive m x hx)).mono ?_
      rintro S ⟨hown, hnested⟩ he x' hx' hopening f' hf' -
      -- the set that begins there is this one
      obtain rfl := hs.eq_of_opening hx' hx hopening
      obtain rfl := Option.some.inj (hf.symm.trans hf')
      refine ⟨hown he, ?_⟩
      intro m hm
      exact hnested m hm he

theorem compares_betweenFragments (hs : SetsOf q sets) (h : Comparisons q sets fuel)
    (exclusive : Bool) (a b : String) :
    Compares q sets (betweenFragments q (fuel + 1) exclusive a b) fun S =>
      exclusive = false → S.Covers a b := by
  rw [betweenFragments]
  split
  · rename_i hsame
    exact compares_nil fun S _ => Or.inl (eq_of_beq hsame)
  · refine Compares.mono (compares_claimFragments ?_) fun S hS he => Or.inr (hS he)
    split
    · rename_i f g hf hg
      have hfa := name_of_fragment? hf
      have hgb := name_of_fragment? hg
      refine ((h.maps exclusive _ (hs.fragments f hfa.1) _ (hs.fragments g hgb.1)).append₃
        (compares_each fun m _ => h.pair exclusive a m)
        (compares_each fun m _ => h.pair exclusive m b)).mono ?_
      rintro S ⟨hown, hright, hleft⟩ he
      refine ⟨a, b, rfl, ?_⟩
      intro f' g' hf' hg'
      obtain rfl := Option.some.inj (hf.symm.trans hf')
      obtain rfl := Option.some.inj (hg.symm.trans hg')
      refine ⟨hown he, ?_, ?_⟩
      · intro n hn
        exact hfa.2.symm ▸ hright n hn he
      · intro n hn
        exact hgb.2.symm ▸ hleft n hn he
    · rename_i hnone
      apply compares_nil
      intro S _
      refine ⟨a, b, rfl, ?_⟩
      intro f g hf hg
      exact absurd hg (hnone f g hf)

theorem compares_betweenSets (h : Comparisons q sets fuel) (exclusive : Bool)
    {x y : SelectionSet} (hx : x ∈ sets) (hy : y ∈ sets) :
    Compares q sets (betweenSets q (fuel + 1) exclusive x y) fun S =>
      exclusive = false → AgreeOwn q S x y ∧ Noted S x y := by
  rw [betweenSets]
  refine ((h.maps exclusive x hx y hy).append₄ (compares_each fun n _ => h.set exclusive n x hx)
    (compares_each fun n _ => h.set exclusive n y hy)
    (compares_each fun p _ => h.pair exclusive p.1 p.2)).mono ?_
  rintro S ⟨hown, hright, hleft, hboth⟩ he
  refine ⟨hown he, ?_, ?_, ?_⟩
  · intro n hn
    exact hright n hn he
  · intro n hn
    exact hleft n hn he
  · intro n hn m hm
    have hpair : (n, m) ∈ x.fragments.flatMap fun n => y.fragments.map fun m => (n, m) :=
      List.mem_flatMap.mpr ⟨n, hn, List.mem_map_of_mem hm⟩
    exact hboth (n, m) hpair he

/-- **Comparing makes good what it takes on trust.** -/
theorem comparisons (hs : SetsOf q sets) (fuel : Nat) : Comparisons q sets fuel := by
  induction fuel with
  | zero =>
      -- without fuel nothing is compared to the end
      constructor
      case conflict =>
        intros
        rw [conflict?]
        exact compares_failure
      case maps =>
        intros
        rw [betweenMaps]
        exact compares_failure
      case set =>
        intros
        rw [withFragment]
        exact compares_failure
      case pair =>
        intros
        rw [betweenFragments]
        exact compares_failure
      case both =>
        intros
        rw [betweenSets]
        exact compares_failure
  | succ fuel ih =>
      constructor
      case conflict =>
        intro exclusive key a b ha hb
        exact compares_conflict? ih exclusive key ha hb
      case maps =>
        intro exclusive x hx y hy
        exact compares_betweenMaps hs ih exclusive hx hy
      case set =>
        intro exclusive n x hx
        exact compares_withFragment hs ih exclusive n hx
      case pair =>
        intro exclusive a b
        exact compares_betweenFragments hs ih exclusive a b
      case both =>
        intro exclusive x hx y hy
        exact compares_betweenSets ih exclusive hx hy

end Functions

/-! ## All sets -/

/-- What is known of a selection set that was gone through: its fields agree with one another where
    they share a key, and it was compared with its fragments, as were they with one another. -/
structure Within (q : Inquiry) (S : Compared) (x : SelectionSet) : Prop where
  own : ∀ a ∈ x.own q, ∀ b ∈ x.own q, a.head.key = b.head.key →
    a = b ∨ Agree q S a b ∨ Agree q S b a
  fragments : ∀ n ∈ x.fragments, S.HasSet x.opening n
  both : ∀ n ∈ x.fragments, ∀ m ∈ x.fragments, S.Covers n m

theorem compares_withinSet_fragments (hs : SetsOf q sets) (fuel : Nat) {x : SelectionSet}
    (hx : x ∈ sets) (names : List String) :
    Compares q sets (withinSet.fragments q fuel x names) fun S =>
      (∀ n ∈ names, S.HasSet x.opening n) ∧ names.Pairwise S.Covers := by
  have h := comparisons hs fuel
  induction names with
  | nil => exact compares_nil fun S => ⟨fun n hn => absurd hn List.not_mem_nil, .nil⟩
  | cons n r ih =>
      rw [withinSet.fragments]
      refine ((h.set false n x hx).append₃ (compares_each fun m _ => h.pair false n m) ih).mono ?_
      rintro S ⟨hset, hpairs, hsets, hrest⟩
      constructor
      · exact List.forall_mem_cons.mpr ⟨hset rfl, hsets⟩
      · exact List.pairwise_cons.mpr ⟨fun m hm => hpairs m hm rfl, hrest⟩

/-- Of two different elements of a list one stands in front of the other. -/
theorem pairwise_or_of_mem {α : Type} {R : α → α → Prop} {xs : List α} (h : xs.Pairwise R)
    {a b : α} (ha : a ∈ xs) (hb : b ∈ xs) : a = b ∨ R a b ∨ R b a := by
  induction h with
  | nil => cases ha
  | cons hx _ ih =>
      rcases List.mem_cons.mp ha with rfl | ha'
      · rcases List.mem_cons.mp hb with rfl | hb'
        · exact Or.inl rfl
        · exact Or.inr (Or.inl (hx b hb'))
      · rcases List.mem_cons.mp hb with rfl | hb'
        · exact Or.inr (Or.inr (hx a ha'))
        · exact ih ha' hb'

theorem unordered_comm (a b : String) : unordered a b = unordered b a := by
  rw [unordered, unordered]
  by_cases hab : a < b
  · rw [if_pos hab, if_neg (String.lt_asymm hab)]
  · by_cases hba : b < a
    · rw [if_neg hab, if_pos hba]
    · rw [String.le_antisymm (String.not_lt.mp hba) (String.not_lt.mp hab)]

theorem Compared.Covers.symm {S : Compared} {a b : String} (h : S.Covers a b) : S.Covers b a :=
  h.imp Eq.symm fun hp => unordered_comm a b ▸ hp

theorem compares_withinSet (hs : SetsOf q sets) (fuel : Nat) {x : SelectionSet} (hx : x ∈ sets) :
    Compares q sets (withinSet q fuel x) fun S => Within q S x := by
  have h := comparisons hs fuel
  have hown : ∀ p ∈ x.fieldMap q, Compares q sets
      (conflictsOfPairs (conflict? q fuel false p.1) p.2)
      fun S => p.2.Pairwise fun a b => Agree q S a b := by
    intro p hp
    have hbelow : ∀ a ∈ p.2, ∀ y, a.selectionSet? q = some y → y ∈ sets := by
      intro a ha
      exact hs.below x hx a (group_of_mem_fieldMap hp a ha).1
    have hpairs : Compares q sets (conflictsOfPairs (conflict? q fuel false p.1) p.2)
        fun S => p.2.Pairwise fun a b => false = false → Agree q S a b := by
      apply compares_pairs
      intro a ha b hb
      exact h.conflict false p.1 a b (hbelow a ha) (hbelow b hb)
    exact hpairs.mono fun S hS => hS.imp fun hab => hab rfl
  rw [withinSet]
  refine ((compares_each hown).append (compares_withinSet_fragments hs fuel hx x.fragments)).mono ?_
  rintro S ⟨hgroups, hfragments, hpairs⟩
  refine ⟨?_, hfragments, ?_⟩
  · intro a ha b hb hkey
    -- both fields are in the group of their key
    obtain ⟨group, hgroup, hmem, hall⟩ := exists_group_of_mem_own ha
    refine pairwise_or_of_mem (hgroups _ hgroup) hmem ?_
    rw [hall]
    exact List.mem_filter.mpr ⟨hb, beq_iff_eq.mpr hkey.symm⟩
  · intro n hn m hm
    rcases pairwise_or_of_mem hpairs hn hm with rfl | hnm | hmn
    · exact Or.inl rfl
    · exact hnm
    · exact hmn.symm

/-- What is known in the end: every pair that is noted was compared, and every selection set was gone
    through. -/
structure Merged (q : Inquiry) (sets : List SelectionSet) (S : Compared) : Prop where
  within : ∀ x ∈ sets, Within q S x
  pairs : ∀ p, S.HasPair p → PairMadeGood q S p
  sets : ∀ o n, S.HasSet o n → SetMadeGood q sets S o n

theorem exists_end_of_conflictsFrom (hs : SetsOf q sets) {fuel : Nat} {rest : List SelectionSet}
    (hsub : ∀ x ∈ rest, x ∈ sets) {σ : Compared}
    (h : ∀ p ∈ conflictsFrom q fuel rest σ, p.2 = []) :
    ∃ S, Step q sets σ S ∧ ∀ x ∈ rest, ∀ S', Extends S S' → Within q S' x := by
  induction rest generalizing σ with
  | nil => exact ⟨σ, .refl σ, fun x hx => absurd hx List.not_mem_nil⟩
  | cons x r ih =>
      obtain ⟨hx, hr⟩ := List.forall_mem_cons.mp hsub
      rw [conflictsFrom] at h
      split at h
      · cases List.forall_mem_singleton.mp h
      · rename_i conflicts σ₁ hrun
        obtain ⟨hnow, hlater⟩ := List.forall_mem_cons.mp h
        obtain rfl := List.map_eq_nil_iff.mp hnow
        obtain ⟨hstep, hwithin⟩ := compares_withinSet hs fuel hx _ _ hrun
        obtain ⟨S, hS, hrest⟩ := ih hr hlater
        refine ⟨S, hstep.trans hS, List.forall_mem_cons.mpr ⟨?_, hrest⟩⟩
        intro S' hS'
        exact hwithin S' (hS.grows.trans hS')

theorem keys_conflictsFrom_sublist (fuel : Nat) (rest : List SelectionSet) (σ : Compared) :
    ((conflictsFrom q fuel rest σ).map (·.1)).Sublist (rest.map SelectionSet.opening) := by
  induction rest generalizing σ with
  | nil => exact .slnil
  | cons x r ih =>
      rw [conflictsFrom]
      split
      · exact (List.nil_sublist _).cons_cons _
      · exact (ih _).cons_cons _

/-- **Where no conflicts are found**, all that was taken on trust is made good in the end. -/
theorem exists_merged_of_setConflicts (hs : SetsOf q (q.document.flatMap (setsInDefinition q)))
    (h : ∀ x ∈ q.document.flatMap (setsInDefinition q), foundAt x.opening (setConflicts q) = []) :
    ∃ S, Merged q (q.document.flatMap (setsInDefinition q)) S := by
  have hkeys := keys_conflictsFrom_sublist (q := q)
    (comparingFuel q (q.document.flatMap (setsInDefinition q)).length)
    (q.document.flatMap (setsInDefinition q)) ⟨∅, ∅, 0⟩
  have hnone : ∀ p ∈ setConflicts q, p.2 = [] := by
    intro p hp
    obtain ⟨x, hx, hopening⟩ := List.mem_map.mp (hkeys.subset (List.mem_map_of_mem hp))
    rw [← foundAt_of_mem (hs.apart.sublist hkeys) hp, ← hopening]
    exact h x hx
  obtain ⟨S, hstep, hwithin⟩ := exists_end_of_conflictsFrom hs (fun _ hx => hx) hnone
  -- nothing was noted at first
  have hempty (o : Position) (n : String) : ¬ Compared.HasSet ⟨∅, ∅, 0⟩ o n := by
    intro hn
    simp [Compared.HasSet] at hn
  have hempty' (p : String × String) : ¬ Compared.HasPair ⟨∅, ∅, 0⟩ p := by
    intro hp
    simp [Compared.HasPair] at hp
  refine ⟨S, ?_, ?_, ?_⟩
  · intro x hx
    exact hwithin x hx S (.refl S)
  · intro p hp
    exact (hstep.pairs S (.refl S) p hp).resolve_left (hempty' p)
  · intro o n hn
    exact (hstep.sets S (.refl S) o n hn).resolve_left (hempty o n)

end QueryTypings.Check
