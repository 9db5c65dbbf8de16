/-
  What is left of a list when each element is taken once, at its first place.

  1. **Once** — no element is there twice (`nodup_eraseDups`), and nothing is lost where none was
     (`eraseDups_of_nodup`).

  2. **Order** — elements come in the order of their first places (`idxOf_eraseDups_lt_iff`).
-/
import Mathlib.Data.List.Nodup

namespace QueryTypings

variable {α : Type} [BEq α] [LawfulBEq α]

/-! ## Once -/

/-- What is taken once of each is there once. -/
theorem nodup_eraseDups (xs : List α) : xs.eraseDups.Nodup := by
  induction hn : xs.length using Nat.strongRecOn generalizing xs with
  | _ n ih =>
      cases xs with
      | nil => simp
      | cons x r =>
          rw [List.eraseDups_cons, List.nodup_cons]
          have hlength : (r.filter fun b => !b == x).length < n := by
            rw [← hn, List.length_cons]
            exact Nat.lt_succ_of_le (List.length_filter_le _ r)
          refine ⟨fun hmem => ?_, ih _ hlength _ rfl⟩
          have hx := (List.mem_filter.mp (List.mem_eraseDups.mp hmem)).2
          simp at hx

/-- Where each element is there once, all are taken. -/
theorem eraseDups_of_nodup {xs : List α} (h : xs.Nodup) : xs.eraseDups = xs := by
  induction xs with
  | nil => rfl
  | cons x r ih =>
      obtain ⟨hx, hr⟩ := List.nodup_cons.mp h
      have hkeep : r.filter (fun b => !b == x) = r :=
        List.filter_eq_self.mpr fun b hb => by
          have hne : b ≠ x := fun he => hx (he ▸ hb)
          simpa using hne
      rw [List.eraseDups_cons, hkeep, ih hr]

/-! ## Order -/

variable {x y : α} {xs : List α}

/-- Leaving out other elements does not change which of two comes first. -/
theorem idxOf_filter_lt_iff {p : α → Bool} (hx : p x = true) (hy : p y = true) :
    (xs.filter p).idxOf x < (xs.filter p).idxOf y ↔ xs.idxOf x < xs.idxOf y := by
  induction xs with
  | nil => rfl
  | cons a r ih =>
      by_cases ha : p a = true
      · rw [List.filter_cons_of_pos ha]
        by_cases hax : a = x
        · subst hax
          by_cases hay : a = y
          · subst hay
            simp
          · simp [List.idxOf_cons_ne _ hay]
        · by_cases hay : a = y
          · subst hay
            simp
          · rw [List.idxOf_cons_ne _ hax, List.idxOf_cons_ne _ hay, List.idxOf_cons_ne _ hax,
              List.idxOf_cons_ne _ hay, Nat.succ_lt_succ_iff, Nat.succ_lt_succ_iff, ih]
      · have hax : a ≠ x := fun h => ha (h ▸ hx)
        have hay : a ≠ y := fun h => ha (h ▸ hy)
        rw [List.filter_cons_of_neg ha, List.idxOf_cons_ne _ hax, List.idxOf_cons_ne _ hay,
          Nat.succ_lt_succ_iff, ih]

/-- **Elements are taken in the order of their first places.** -/
theorem idxOf_eraseDups_lt_iff :
    xs.eraseDups.idxOf x < xs.eraseDups.idxOf y ↔ xs.idxOf x < xs.idxOf y := by
  induction hn : xs.length using Nat.strongRecOn generalizing xs with
  | _ n ih =>
      cases xs with
      | nil => rfl
      | cons a r =>
          have hlength : (r.filter fun b => !b == a).length < n := by
            rw [← hn, List.length_cons]
            exact Nat.lt_succ_of_le (List.length_filter_le _ r)
          rw [List.eraseDups_cons]
          by_cases hax : a = x
          · subst hax
            by_cases hay : a = y
            · subst hay
              simp
            · simp [List.idxOf_cons_ne _ hay]
          · by_cases hay : a = y
            · subst hay
              simp
            · rw [List.idxOf_cons_ne _ hax, List.idxOf_cons_ne _ hay, List.idxOf_cons_ne _ hax,
                List.idxOf_cons_ne _ hay, Nat.succ_lt_succ_iff, Nat.succ_lt_succ_iff,
                ih _ hlength rfl,
                idxOf_filter_lt_iff (by simpa using Ne.symm hax) (by simpa using Ne.symm hay)]

end QueryTypings
