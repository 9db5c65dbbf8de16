/-
  The fragments that selections need are those that spreads lead to.

  1. **Spreads** — a name is spread by a selection if it stands in one, at any depth
     (`Selection.Spreads`); the list of spreads holds these names (`mem_spreads_iff`).

  2. **Working off** — whatever holds of the names that are to be worked off and is handed on by
     spreads holds of all names that are found (`reach_induction`).  The names that are found are
     closed under spreads if there is enough fuel: each fragment is opened once, so what may still
     come are the spreads of those not yet opened (`reach_closed`).

  3. **Reachability** — so the names found are those of the fragments that spreads lead to, one
     after another (`mem_usedFragments_iff`).
-/
import QueryTypings.Graphql.Document.Spreads
import Mathlib.Data.List.Basic

namespace QueryTypings.Graphql

/-! ## Spreads -/

/-- A selection spreads a fragment of a given name, itself or somewhere below. -/
inductive Selection.Spreads (k : String) : Selection → Prop
  | here {name : Name} {ds : List Directive} {p : Position} (named : name.text = k) :
      Spreads k (.spread name ds p)
  | branch {f : FieldHead} {opening : Position} {ss : List Selection} {s : Selection}
      (mem : s ∈ ss) (below : s.Spreads k) : Spreads k (.branch f opening ss)
  | inline {c : Option Name} {ds : List Directive} {p opening : Position} {ss : List Selection}
      {s : Selection} (mem : s ∈ ss) (below : s.Spreads k) :
      Spreads k (.inline c ds p opening ss)

/-- One of some selections spreads a fragment of a given name. -/
def Spreading (k : String) (ss : List Selection) : Prop := ∃ s ∈ ss, s.Spreads k

mutual

theorem Selection.mem_spreads_iff {k : String} :
    ∀ {s : Selection}, k ∈ s.spreads ↔ s.Spreads k
  | .leaf f => ⟨fun h => by simp [Selection.spreads] at h, fun h => nomatch h⟩
  | .branch f opening ss => by
      rw [Selection.spreads, spreading_iff_mem]
      exact ⟨fun ⟨s, hs, hk⟩ => .branch hs hk, fun | .branch hs hk => ⟨_, hs, hk⟩⟩
  | .inline c ds p opening ss => by
      rw [Selection.spreads, spreading_iff_mem]
      exact ⟨fun ⟨s, hs, hk⟩ => .inline hs hk, fun | .inline hs hk => ⟨_, hs, hk⟩⟩
  | .spread name ds p => by
      rw [Selection.spreads, List.mem_singleton]
      exact ⟨fun hk => .here hk.symm, fun | .here hk => hk.symm⟩

theorem spreading_iff_mem {k : String} : ∀ {ss : List Selection}, k ∈ spreads ss ↔ Spreading k ss
  | [] => by simp [spreads, Spreading]
  | s :: r => by
      rw [spreads, List.mem_append, Selection.mem_spreads_iff, spreading_iff_mem, Spreading,
        Spreading, List.exists_mem_cons_iff]

end

/-! ## Working off -/

variable {m : OrderedMap Fragment}

theorem spreadCount_cons (p : String × Fragment) (m : OrderedMap Fragment) :
    spreadCount (p :: m) = (spreads p.2.selections).length + spreadCount m := by
  rw [spreadCount, List.map_cons, List.foldl_cons, Nat.zero_add]
  exact @List.foldl_assoc Nat (· + ·) _ (m.map fun p => (spreads p.2.selections).length) _ 0

theorem spreadCount_le_of_sublist {m m' : OrderedMap Fragment} (h : List.Sublist m m') :
    spreadCount m ≤ spreadCount m' := by
  induction h with
  | slnil => exact Nat.le_refl _
  | cons p _ ih =>
      rw [spreadCount_cons]
      omega
  | cons_cons p _ ih =>
      rw [spreadCount_cons, spreadCount_cons]
      omega

/-- The number of spreads in the fragments that have not been opened. -/
def unopened (m : OrderedMap Fragment) (seen : List String) : Nat :=
  spreadCount (m.filter fun p => !seen.contains p.1)

theorem unopened_cons_le (m : OrderedMap Fragment) (name : String) (seen : List String) :
    unopened m (name :: seen) ≤ unopened m seen := by
  refine spreadCount_le_of_sublist (List.monotone_filter_right m ?_)
  intro p hp
  simp only [List.contains_cons, Bool.not_or, Bool.and_eq_true] at hp
  exact hp.2

/-- Opening a fragment takes its spreads from the number. -/
theorem unopened_cons {name : String} {f : Fragment} {seen : List String}
    (hf : OrderedMap.get? name m = some f) (hnew : seen.contains name = false) :
    unopened m (name :: seen) + (spreads f.selections).length ≤ unopened m seen := by
  induction m with
  | nil => cases hf
  | cons p r ih =>
      obtain ⟨key, g⟩ := p
      rw [OrderedMap.get?] at hf
      split at hf
      · rename_i hkey
        obtain rfl := Option.some.inj hf
        have hrest := unopened_cons_le r name seen
        subst hkey
        simp only [unopened, List.filter_cons, List.contains_cons, beq_self_eq_true, hnew,
          Bool.true_or, Bool.not_true, Bool.not_false, Bool.false_eq_true, if_true, if_false,
          spreadCount_cons] at hrest ⊢
        omega
      · rename_i hkey
        have hrest := ih hf
        have hother : (key == name) = false := beq_false_of_ne hkey
        simp only [unopened, List.filter_cons, List.contains_cons, hother, Bool.false_or]
          at hrest ⊢
        split
        · simp only [spreadCount_cons]
          omega
        · exact hrest

theorem unopened_nil (m : OrderedMap Fragment) : unopened m [] = spreadCount m :=
  congrArg spreadCount (List.filter_eq_self.mpr fun _ _ => rfl)

/-- What holds of the names to be worked off, and is handed on by spreads, holds of all names that
    are found. -/
theorem reach_induction {P : String → Prop}
    (hstep : ∀ n f, P n → OrderedMap.get? n m = some f → ∀ k ∈ spreads f.selections, P k) :
    ∀ (fuel : Nat) (pending seen : List String), (∀ n ∈ pending, P n) →
      (∀ n ∈ seen, P n ∧ (OrderedMap.get? n m).isSome) →
      ∀ n ∈ reach m fuel pending seen, P n ∧ (OrderedMap.get? n m).isSome
  | 0, _, _, _, hseen => hseen
  | _ + 1, [], _, _, hseen => hseen
  | fuel + 1, name :: pending, seen, hpending, hseen => by
      obtain ⟨hname, hrest⟩ := List.forall_mem_cons.mp hpending
      rw [reach]
      split
      · exact reach_induction hstep fuel pending seen hrest hseen
      · split
        · exact reach_induction hstep fuel pending seen hrest hseen
        · rename_i f hf
          refine reach_induction hstep fuel _ _ (fun n hn => ?_) (List.forall_mem_cons.mpr
            ⟨⟨hname, Option.isSome_iff_exists.mpr ⟨f, hf⟩⟩, hseen⟩)
          rcases List.mem_append.mp hn with hn | hn
          · exact hstep name f hname hf n (List.mem_reverse.mp hn)
          · exact hrest n hn

/-- All that the opened fragments spread is opened too, or still to be worked off. -/
def Pursued (m : OrderedMap Fragment) (pending seen : List String) : Prop :=
  ∀ n ∈ seen, ∀ f, OrderedMap.get? n m = some f →
    ∀ k ∈ spreads f.selections, (OrderedMap.get? k m).isSome → k ∈ seen ∨ k ∈ pending

/-- A name that was opened, or that no fragment bears, need not be worked off. -/
theorem Pursued.skip {name : String} {pending seen : List String}
    (h : Pursued m (name :: pending) seen)
    (hname : (OrderedMap.get? name m).isSome → name ∈ seen) : Pursued m pending seen := by
  intro n hn f hf k hk hsome
  rcases h n hn f hf k hk hsome with hmem | hmem
  · exact Or.inl hmem
  · rcases List.mem_cons.mp hmem with rfl | hmem
    · exact Or.inl (hname hsome)
    · exact Or.inr hmem

/-- When a fragment is opened, its spreads are to be worked off. -/
theorem Pursued.opened {name : String} {f : Fragment} {pending seen : List String}
    (h : Pursued m (name :: pending) seen) (hf : OrderedMap.get? name m = some f) :
    Pursued m ((spreads f.selections).reverse ++ pending) (name :: seen) := by
  intro n hn g hg k hk hsome
  rcases List.mem_cons.mp hn with rfl | hn
  · obtain rfl := Option.some.inj (hf.symm.trans hg)
    exact Or.inr (List.mem_append_left _ (List.mem_reverse.mpr hk))
  · rcases h n hn g hg k hk hsome with hmem | hmem
    · exact Or.inl (List.mem_cons_of_mem _ hmem)
    · rcases List.mem_cons.mp hmem with rfl | hmem
      · exact Or.inl List.mem_cons_self
      · exact Or.inr (List.mem_append_right _ hmem)

/-- **With enough fuel all is found**: what was opened before, what was to be worked off, and what
    the fragments that are found spread. -/
theorem reach_closed :
    ∀ (fuel : Nat) (pending seen : List String), pending.length + unopened m seen < fuel →
      Pursued m pending seen →
      (∀ n ∈ seen, n ∈ reach m fuel pending seen)
      ∧ (∀ n ∈ pending, (OrderedMap.get? n m).isSome → n ∈ reach m fuel pending seen)
      ∧ Pursued m [] (reach m fuel pending seen)
  | 0, _, _, hfuel, _ => absurd hfuel (Nat.not_lt_zero _)
  | fuel + 1, [], seen, _, hpursued => ⟨fun _ hn => hn, fun n hn => (by cases hn), hpursued⟩
  | fuel + 1, name :: pending, seen, hfuel, hpursued => by
      have hlength : (name :: pending).length = pending.length + 1 := rfl
      have hskip : ((OrderedMap.get? name m).isSome → name ∈ seen) →
          (∀ n ∈ seen, n ∈ reach m fuel pending seen)
          ∧ (∀ n ∈ name :: pending, (OrderedMap.get? n m).isSome → n ∈ reach m fuel pending seen)
          ∧ Pursued m [] (reach m fuel pending seen) := by
        intro hname
        obtain ⟨hseen, hpending, hclosed⟩ :=
          reach_closed fuel pending seen (by omega) (hpursued.skip hname)
        refine ⟨hseen, fun n hn hsome => ?_, hclosed⟩
        rcases List.mem_cons.mp hn with rfl | hn
        · exact hseen n (hname hsome)
        · exact hpending n hn hsome
      rw [reach]
      split
      · rename_i hold
        exact hskip fun _ => List.contains_iff_mem.mp hold
      · rename_i hnew
        split
        · rename_i hnone
          refine hskip fun hsome => ?_
          rw [hnone] at hsome
          cases hsome
        · rename_i f hf
          -- the spreads that are added are no longer among those that may still come
          have hopened := unopened_cons hf (by simpa using hnew)
          obtain ⟨hseen, hpending, hclosed⟩ := reach_closed fuel
            ((spreads f.selections).reverse ++ pending) (name :: seen)
            (by rw [List.length_append, List.length_reverse]; omega) (hpursued.opened hf)
          refine ⟨fun n hn => hseen n (List.mem_cons_of_mem _ hn), fun n hn hsome => ?_, hclosed⟩
          rcases List.mem_cons.mp hn with rfl | hn
          · exact hseen n List.mem_cons_self
          · exact hpending n (List.mem_append_right _ hn) hsome

/-! ## Reachability -/

/-- The fragments of a list to which spreads lead from selections. -/
inductive Reaches (fs : List Fragment) (ss : List Selection) : Fragment → Prop
  | direct {f : Fragment} (mem : f ∈ fs) (spread : Spreading f.name.text ss) : Reaches fs ss f
  | through {f g : Fragment} (before : Reaches fs ss f) (mem : g ∈ fs)
      (spread : Spreading g.name.text f.selections) : Reaches fs ss g

theorem Reaches.mem {fs : List Fragment} {ss : List Selection} {f : Fragment}
    (h : Reaches fs ss f) : f ∈ fs := by
  cases h with
  | direct mem _ => exact mem
  | through _ mem _ => exact mem

/-- A map holds some fragments by their names. -/
def Lists (m : OrderedMap Fragment) (fs : List Fragment) : Prop :=
  ∀ k f, OrderedMap.get? k m = some f ↔ f ∈ fs ∧ f.name.text = k

/-- **The names that are found are those of the fragments to which spreads lead.** -/
theorem mem_usedFragments_iff {fs : List Fragment} (hm : Lists m fs) {ss : List Selection}
    {k : String} : k ∈ usedFragments m ss ↔ ∃ f, Reaches fs ss f ∧ f.name.text = k := by
  constructor
  · -- what is found under a name is reached, whichever fragment it is
    intro hk
    have hfound := reach_induction
      (P := fun k => ∀ f, OrderedMap.get? k m = some f → Reaches fs ss f)
      (m := m) ?_ _ _ _ ?_ ?_ k hk
    · obtain ⟨f, hf⟩ := Option.isSome_iff_exists.mp hfound.2
      exact ⟨f, hfound.1 f hf, ((hm k f).mp hf).2⟩
    · intro n f hn hf k' hk' g hg
      obtain ⟨hmem, rfl⟩ := (hm k' g).mp hg
      exact .through (hn f hf) hmem (spreading_iff_mem.mp hk')
    · intro n hn f hf
      obtain ⟨hmem, rfl⟩ := (hm n f).mp hf
      exact .direct hmem (spreading_iff_mem.mp (List.mem_reverse.mp hn))
    · exact fun n hn => (by cases hn)
  · rintro ⟨f, hreaches, rfl⟩
    have hsome {g : Fragment} (hg : g ∈ fs) : OrderedMap.get? g.name.text m = some g :=
      (hm _ g).mpr ⟨hg, rfl⟩
    obtain ⟨_, hfirst, hclosed⟩ := @reach_closed m
      ((spreads ss).reverse.length + spreadCount m + 1) (spreads ss).reverse []
      (by rw [← unopened_nil]; exact Nat.lt_succ_self _) (fun n hn => (by cases hn))
    induction hreaches with
    | direct mem hspread =>
        exact hfirst _ (List.mem_reverse.mpr (spreading_iff_mem.mpr hspread))
          (Option.isSome_iff_exists.mpr ⟨_, hsome mem⟩)
    | through before mem hspread ih =>
        rcases hclosed _ ih _ (hsome before.mem) _ (spreading_iff_mem.mpr hspread)
          (Option.isSome_iff_exists.mpr ⟨_, hsome mem⟩) with hin | hin
        · exact hin
        · cases hin

end QueryTypings.Graphql
