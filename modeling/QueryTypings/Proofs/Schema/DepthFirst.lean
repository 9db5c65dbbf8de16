/-
  Searches for circles, depth first.

  A schema is searched for circles in two ways: through default values, and through fields that keep
  an object from having a finite value.  Both searches go from name to name.  They remember the
  names that they have come to, and know which of them are open; an open name that is come to again
  closes a circle, which is told, and any other one is passed.

  1. **Ends** — from a name no way goes on forever (`Ends`).  What was visited is open, or all ways
     from it end (`Known`).

  2. **Silence** — a search that tells of no circle has shown that all ways from its targets end
     (`Settles`).  Each step of a search has this property if the steps inside have it, with one
     more name open (`Settles.visit`).

  3. **Ends are enough** — where all ways end, a search tells of nothing (`Passes`), for names that
     are open lead to the one that is come to (`Clear`).

  So whether a search tells of a circle depends on its targets only, not on their order.
-/
import QueryTypings.Schema.Check
import Mathlib.Data.List.Perm.Subperm
import Mathlib.Logic.Relation

namespace QueryTypings.Schema

open Relation

/-! ## Ends -/

/-- No way from a name goes on forever. -/
def Ends (R : String → String → Prop) (n : String) : Prop := Acc (fun m k => R k m) n

/-- What was visited is open, or all ways from it end. -/
def Known (R : String → String → Prop) (path visited : List String) : Prop :=
  ∀ n ∈ visited, n ∈ path ∨ Ends R n

variable {R : String → String → Prop} {n m : String} {path : List String}

/-- No way from such a name leads back to it. -/
theorem Ends.not_circle (h : Ends R n) : ¬ TransGen R n n := by
  induction h with
  | intro n _ ih =>
      intro hcircle
      obtain ⟨m, hnm, hmn⟩ := TransGen.head'_iff.mp hcircle
      -- the circle can be entered one name later
      exact ih m hnm (TransGen.tail' hmn hnm)

/-- Different names, out of some, are open. -/
structure Opened (names path : List String) : Prop where
  nodup : path.Nodup
  sub : ∀ n ∈ path, n ∈ names

theorem opened_nil (names : List String) : Opened names [] :=
  ⟨List.nodup_nil, fun _ hn => absurd hn List.not_mem_nil⟩

/-- No more names are open than there are. -/
theorem Opened.length_le {names : List String} (h : Opened names path) :
    path.length ≤ names.length :=
  (List.subperm_of_subset h.nodup h.sub).length_le

theorem Opened.concat {names : List String} (h : Opened names path) (hn : n ∈ names)
    (hclosed : n ∉ path) : Opened names (path ++ [n]) := by
  refine ⟨List.nodup_append.mpr ⟨h.nodup, List.pairwise_singleton _ n, fun a ha b hb hab => ?_⟩,
    List.forall_mem_append.mpr ⟨h.sub, List.forall_mem_singleton.mpr hn⟩⟩
  exact hclosed (List.mem_singleton.mp hb ▸ hab ▸ ha)

/-- What a search remembers. -/
structure Memory (σ : Type) where
  visited : σ → List String
  faults : σ → List Fault

variable {σ : Type} {k : Memory σ}

/-! ## Silence -/

/-- If a step of a search tells of nothing, nothing was told before, all ways from the step's targets
    end, and what is visited is known again. -/
structure Settles (k : Memory σ) (R : String → String → Prop) (path : List String)
    (targets : String → Prop) (step : σ → σ) : Prop where
  before : ∀ st, k.faults (step st) = [] → k.faults st = []
  settled : ∀ st, k.faults (step st) = [] → Known R path (k.visited st) →
    (∀ n, targets n → Ends R n) ∧ Known R path (k.visited (step st))

namespace Settles

variable {targets : String → Prop} {step : σ → σ}

theorem mono (h : Settles k R path targets step) {targets' : String → Prop}
    (hsub : ∀ n, targets' n → targets n) : Settles k R path targets' step where
  before := h.before
  settled st hst hknown := (h.settled st hst hknown).imp (fun hends n hn => hends n (hsub n hn)) id

/-- Nothing is done. -/
theorem skip (htargets : ∀ n, ¬ targets n) : Settles k R path targets id where
  before _ h := h
  settled _ _ hknown := ⟨fun n hn => absurd hn (htargets n), hknown⟩

/-- A circle is told. -/
theorem tell (h : ∀ st, k.faults (step st) ≠ []) : Settles k R path targets step where
  before st hst := absurd hst (h st)
  settled st hst := absurd hst (h st)

/-- One step after the other. -/
theorem foldl {α : Type} {xs : List α} (targets : α → String → Prop) {step : σ → α → σ}
    (h : ∀ x ∈ xs, Settles k R path (targets x) fun st => step st x) :
    Settles k R path (fun n => ∃ x ∈ xs, targets x n) fun st => xs.foldl step st := by
  induction xs with
  | nil => exact skip fun n ⟨x, hx, _⟩ => absurd hx List.not_mem_nil
  | cons x r ih =>
      obtain ⟨hx, hr⟩ := List.forall_mem_cons.mp h
      have hrest := ih hr
      refine ⟨fun st hst => hx.before st (hrest.before _ hst), fun st hst hknown => ?_⟩
      obtain ⟨hxends, hxknown⟩ := hx.settled st (hrest.before _ hst) hknown
      obtain ⟨hends, hknown⟩ := hrest.settled _ hst hxknown
      refine ⟨fun n hn => ?_, hknown⟩
      obtain ⟨y, hy, hn⟩ := hn
      rcases List.mem_cons.mp hy with rfl | hy
      · exact hxends n hn
      · exact hends n ⟨y, hy, hn⟩

/-- Coming to a name that is not open: it is passed if it was visited, else it is opened and searched
    for the names that follow it. -/
theorem visit (mark inner : σ → σ) (hclosed : n ∉ path)
    (hstep : ∀ st, step st = if (k.visited st).contains n then st else inner (mark st))
    (hmark : ∀ st, k.visited (mark st) = n :: k.visited st ∧ k.faults (mark st) = k.faults st)
    (hinner : Settles k R (path ++ [n]) (R n) inner) : Settles k R path (· = n) step := by
  constructor
  · intro st hst
    rw [hstep] at hst
    split at hst
    · exact hst
    · rw [← (hmark st).2]
      exact hinner.before _ hst
  · intro st hst hknown
    rw [hstep] at hst ⊢
    split at hst
    · rename_i hn
      rw [if_pos hn]
      refine ⟨fun m hm => ?_, hknown⟩
      exact hm ▸ (hknown n (List.contains_iff_mem.mp hn)).resolve_left hclosed
    · rename_i hn
      rw [if_neg hn]
      have hopened : Known R (path ++ [n]) (k.visited (mark st)) := by
        rw [(hmark st).1]
        intro m hm
        rcases List.mem_cons.mp hm with rfl | hm
        · exact Or.inl (List.mem_append_right _ (List.mem_singleton.mpr rfl))
        · exact (hknown m hm).imp (List.mem_append_left _) id
      obtain ⟨hends, hknown'⟩ := hinner.settled _ hst hopened
      -- all ways from what follows end, so those from here do
      have hend : Ends R n := Acc.intro n fun m hm => hends m hm
      refine ⟨fun m hm => hm ▸ hend, fun m hm => ?_⟩
      rcases hknown' m hm with hm | hm
      · rcases List.mem_append.mp hm with hm | hm
        · exact Or.inl hm
        · exact Or.inr (List.mem_singleton.mp hm ▸ hend)
      · exact Or.inr hm

end Settles

/-! ## Ends are enough -/

/-- A name that may be come to: all ways from it end, and those that are open lead to it. -/
structure Clear (R : String → String → Prop) (path : List String) (n : String) : Prop where
  ends : Ends R n
  led : ∀ m ∈ path, TransGen R m n

/-- It is not open. -/
theorem Clear.not_mem (h : Clear R path n) : n ∉ path := fun hn => h.ends.not_circle (h.led n hn)

/-- What follows it may be come to when it is open. -/
theorem Clear.next (h : Clear R path n) (hm : R n m) : Clear R (path ++ [n]) m := by
  refine ⟨h.ends.inv hm, fun l hl => ?_⟩
  rcases List.mem_append.mp hl with hl | hl
  · exact (h.led l hl).tail hm
  · exact List.mem_singleton.mp hl ▸ .single hm

/-- Nothing is told. -/
def Passes (k : Memory σ) (step : σ → σ) : Prop := ∀ st, k.faults (step st) = k.faults st

theorem Passes.foldl {α : Type} {xs : List α} {step : σ → α → σ}
    (h : ∀ x ∈ xs, Passes k fun st => step st x) : Passes k fun st => xs.foldl step st := by
  intro st
  induction xs generalizing st with
  | nil => rfl
  | cons x r ih =>
      obtain ⟨hx, hr⟩ := List.forall_mem_cons.mp h
      exact (ih hr _).trans (hx st)

theorem Passes.visit {step : σ → σ} (mark inner : σ → σ)
    (hstep : ∀ st, step st = if (k.visited st).contains n then st else inner (mark st))
    (hmark : ∀ st, k.visited (mark st) = n :: k.visited st ∧ k.faults (mark st) = k.faults st)
    (hinner : Passes k inner) : Passes k step := by
  intro st
  rw [hstep]
  split
  · rfl
  · rw [hinner, (hmark st).2]

end QueryTypings.Schema
