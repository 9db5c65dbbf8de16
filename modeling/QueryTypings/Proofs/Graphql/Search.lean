/-
  The search for the fragments that selections need: it ends, and it finds what spreads lead to.

  Nothing is assumed of the fragments.  They may spread one another in circles or themselves, a name
  may be spread many times or stand for no fragment, and a fragment may stand under another name
  than its own.

  1. **Steps** — a search holds the names that are to be worked off and those that were found.  A
     step takes one name: it is passed over if it was found before or stands for no fragment, else
     it is found and its fragment's spreads are to be worked off too (`Search.Step`).

  2. **The search ends** — every fragment is opened once.  So the names to be worked off, and the
     spreads of the fragments that were not opened yet, get fewer with every step
     (`Search.Step.effort_lt`), and no search goes on forever (`Search.wellFounded_step`).

  3. **Where it ends** — `usedFragments` is what has been found when nothing is left to be worked
     off (`Search.run_usedFragments`).

  4. **Reachability** — and that is all that spreads lead to (`usedFragments_reachable`).
-/
import QueryTypings.Proofs.Graphql.Reachability
import Mathlib.Logic.Relation

namespace QueryTypings.Graphql

open Relation

variable {m : OrderedMap Fragment} {ss : List Selection}

/-! ## Steps -/

/-- Where a search stands: the names to be worked off, and those that were found. -/
structure Search where
  pending : List String
  found : List String

namespace Search

/-- A name is worked off. -/
inductive Step (m : OrderedMap Fragment) : Search → Search → Prop
  | skip {name : String} {pending found : List String} :
      name ∈ found ∨ OrderedMap.get? name m = none →
      Step m ⟨name :: pending, found⟩ ⟨pending, found⟩
  | opened {name : String} {f : Fragment} {pending found : List String} :
      name ∉ found → OrderedMap.get? name m = some f →
      Step m ⟨name :: pending, found⟩ ⟨(spreads f.selections).reverse ++ pending, name :: found⟩

/-- The search for what selections need, before its first step.  The last name comes first. -/
def start (ss : List Selection) : Search := ⟨(spreads ss).reverse, []⟩

/-- There is one way to go on. -/
theorem Step.unique {s t t' : Search} (h : s.Step m t) (h' : s.Step m t') : t = t' := by
  cases h with
  | skip hold =>
      cases h' with
      | skip _ => rfl
      | opened hnew hf =>
          rcases hold with hold | hnone
          · exact absurd hold hnew
          · rw [hf] at hnone
            cases hnone
  | opened hnew hf =>
      cases h' with
      | skip hold =>
          rcases hold with hold | hnone
          · exact absurd hold hnew
          · rw [hf] at hnone
            cases hnone
      | opened _ hf' =>
          obtain rfl := Option.some.inj (hf.symm.trans hf')
          rfl

/-- Where nothing is left to be worked off, there is no step. -/
theorem Step.pending_ne_nil {s t : Search} (h : s.Step m t) : s.pending ≠ [] := by
  cases h <;> exact List.cons_ne_nil _ _

/-! ## The search ends -/

/-- What may still have to be worked off. -/
def effort (m : OrderedMap Fragment) (s : Search) : Nat := s.pending.length + unopened m s.found

/-- Every step leaves less to be done. -/
theorem Step.effort_lt {s t : Search} (h : s.Step m t) : t.effort m < s.effort m := by
  cases h with
  | @skip name pending found _ =>
      show pending.length + unopened m found < (pending.length + 1) + unopened m found
      omega
  | @opened name f pending found hnew hf =>
      -- the spreads that are added are no longer among those of fragments not yet opened
      have hnew' : found.contains name = false := by simpa using hnew
      have hopened := unopened_cons hf hnew'
      show ((spreads f.selections).reverse ++ pending).length + unopened m (name :: found)
        < (pending.length + 1) + unopened m found
      rw [List.length_append, List.length_reverse]
      omega

/-- **No search goes on forever**, from wherever it begins. -/
theorem wellFounded_step (m : OrderedMap Fragment) :
    WellFounded fun t s : Search => s.Step m t := by
  refine Subrelation.wf ?_ (measure (effort m)).wf
  intro t s h
  exact h.effort_lt

/-! ## Where it ends -/

/-- With enough fuel a search is gone through to its end. -/
theorem run_reach :
    ∀ (fuel : Nat) (s : Search), s.effort m < fuel →
      ReflTransGen (Step m) s ⟨[], reach m fuel s.pending s.found⟩
  | 0, _, hfuel => absurd hfuel (Nat.not_lt_zero _)
  | fuel + 1, ⟨[], found⟩, _ => .refl
  | fuel + 1, ⟨name :: pending, found⟩, hfuel => by
      have hgoes : ∀ t, Step m ⟨name :: pending, found⟩ t →
          ReflTransGen (Step m) ⟨name :: pending, found⟩ ⟨[], reach m fuel t.pending t.found⟩ := by
        intro t hstep
        have hless := hstep.effort_lt
        exact .head hstep (run_reach fuel t (by omega))
      rw [reach]
      split
      · rename_i hold
        exact hgoes _ (.skip (Or.inl (List.contains_iff_mem.mp hold)))
      · rename_i hnew
        split
        · rename_i hnone
          exact hgoes _ (.skip (Or.inr hnone))
        · rename_i f hf
          exact hgoes _ (.opened (fun hold => hnew (List.contains_iff_mem.mpr hold)) hf)

/-- A search ends with the names that are used. -/
theorem run_usedFragments (m : OrderedMap Fragment) (ss : List Selection) :
    ReflTransGen (Step m) (start ss) ⟨[], usedFragments m ss⟩ := by
  have heffort : (start ss).effort m < (spreads ss).reverse.length + spreadCount m + 1 := by
    rw [← unopened_nil m]
    exact Nat.lt_succ_self _
  exact run_reach _ (start ss) heffort

/-- Wherever a search has come, it goes on to this end. -/
theorem run_of_run {s : Search} (h : ReflTransGen (Step m) (start ss) s) :
    ReflTransGen (Step m) s ⟨[], usedFragments m ss⟩ := by
  have hunique : Relator.RightUnique (Step m) := fun _ _ _ => Step.unique
  rcases ReflTransGen.total_of_right_unique hunique h (run_usedFragments m ss) with hon | hback
  · exact hon
  · -- nothing comes after the end, so this is the end
    rcases ReflTransGen.cases_head hback with heq | ⟨t, hstep, -⟩
    · exact heq ▸ .refl
    · exact absurd rfl hstep.pending_ne_nil

/-- No name is found twice. -/
theorem nodup_found {s t : Search} (h : ReflTransGen (Step m) s t) (hs : s.found.Nodup) :
    t.found.Nodup := by
  induction h with
  | refl => exact hs
  | tail _ hstep ih =>
      cases hstep with
      | skip _ => exact ih
      | opened hnew _ => exact List.nodup_cons.mpr ⟨hnew, ih⟩

end Search

/-! ## Reachability -/

/-- The fragment that stands under one name spreads the other name, at any depth. -/
def Follows (m : OrderedMap Fragment) (n k : String) : Prop :=
  ∃ f, OrderedMap.get? n m = some f ∧ Spreading k f.selections

/-- From selections spreads lead to a name, through fragments that are there. -/
def Leads (m : OrderedMap Fragment) (ss : List Selection) (k : String) : Prop :=
  ∃ n, Spreading n ss ∧ ReflTransGen (Follows m) n k

theorem mem_keys_iff_isSome {k : String} :
    k ∈ OrderedMap.keys m ↔ (OrderedMap.get? k m).isSome := by
  rw [← not_iff_not, ← OrderedMap.get?_eq_none_iff, Option.not_isSome_iff_eq_none]

/-- What is found is there, and spreads lead to it. -/
theorem leads_of_mem_usedFragments {k : String} (hk : k ∈ usedFragments m ss) :
    Leads m ss k ∧ (OrderedMap.get? k m).isSome := by
  refine reach_induction (P := Leads m ss) ?_ _ _ [] ?_ ?_ k hk
  · rintro n f ⟨first, hfirst, hway⟩ hf k hk
    exact ⟨first, hfirst, hway.tail ⟨f, hf, spreading_iff_mem.mp hk⟩⟩
  · intro n hn
    exact ⟨n, spreading_iff_mem.mp (List.mem_reverse.mp hn), .refl⟩
  · intro n hn
    cases hn

/-- What spreads lead to is found, if it is there. -/
theorem mem_usedFragments_of_leads {k : String} (hk : Leads m ss k)
    (hthere : (OrderedMap.get? k m).isSome) : k ∈ usedFragments m ss := by
  obtain ⟨-, hfirst, hclosed⟩ := @reach_closed m
    ((spreads ss).reverse.length + spreadCount m + 1) (spreads ss).reverse []
    (by rw [← unopened_nil]; exact Nat.lt_succ_self _) (fun n hn => (by cases hn))
  obtain ⟨n, hn, hway⟩ := hk
  induction hway with
  | refl => exact hfirst n (List.mem_reverse.mpr (spreading_iff_mem.mpr hn)) hthere
  | tail _ hstep ih =>
      obtain ⟨f, hf, hspread⟩ := hstep
      have hbefore := ih (Option.isSome_iff_exists.mpr ⟨f, hf⟩)
      rcases hclosed _ hbefore f hf _ (spreading_iff_mem.mpr hspread) hthere with hin | hin
      · exact hin
      · cases hin

/-- **The fragments that are used are those that spreads lead to**, for any selections and any map
    of fragments.  No search goes on forever; wherever one that began with the spreads of the
    selections has come, it goes on to end with the names that are used.  No name is among them
    twice, and they are the names in the map to which spreads lead from the selections. -/
theorem usedFragments_reachable (m : OrderedMap Fragment) (ss : List Selection) :
    (WellFounded fun t s : Search => s.Step m t)
      ∧ (∀ s, ReflTransGen (Search.Step m) (Search.start ss) s →
          ReflTransGen (Search.Step m) s ⟨[], usedFragments m ss⟩)
      ∧ (usedFragments m ss).Nodup
      ∧ ∀ k, k ∈ usedFragments m ss ↔ k ∈ OrderedMap.keys m ∧ Leads m ss k := by
  refine ⟨Search.wellFounded_step m, fun s hs => Search.run_of_run hs, ?_, fun k => ?_⟩
  · exact Search.nodup_found (Search.run_usedFragments m ss) List.nodup_nil
  · rw [mem_keys_iff_isSome]
    constructor
    · intro hk
      obtain ⟨hleads, hthere⟩ := leads_of_mem_usedFragments hk
      exact ⟨hthere, hleads⟩
    · rintro ⟨hthere, hleads⟩
      exact mem_usedFragments_of_leads hleads hthere

end QueryTypings.Graphql
