/-
  The names that stand for types in statements.

  1. **Types** — a type names another where that stands in it, at any depth of arrays, null marks,
     wrappers, members, unions and alternatives (`Ty.Names`).  Its text mentions it
     (`Ty.Names.text`): on either side of every part there is a blank, a bracket, a comma or the
     end.  Of alternatives that read alike one is written, and it reads like the others.

  2. **Statements** — so the text of a statement mentions what stands in its types
     (`Statement.Names.text`), wherever it stands among the others
     (`mentioned_statementsText`).
-/
import QueryTypings.Declaration.Operations
import QueryTypings.Proofs.Text.Exported

namespace QueryTypings.Typescript

open QueryTypings.Text

/-! ## Types -/

/-- A type is named in another. -/
inductive Ty.Names (n : String) : Ty → Prop
  | here : Names n (.name n)
  | array {t : Ty} (inside : t.Names n) : Names n (.array t)
  | orNull {t : Ty} (inside : t.Names n) : Names n (.orNull t)
  | generic {wrapper : String} {t : Ty} (inside : t.Names n) : Names n (.generic wrapper t)
  | object {ms : List Member} {m : String} {optional : Bool} {t : Ty}
      (mem : Member.mk m optional t ∈ ms) (inside : t.Names n) : Names n (.object ms)
  | union {ts : List Ty} {t : Ty} (mem : t ∈ ts) (inside : t.Names n) : Names n (.union ts)
  | alternatives {ts : List Ty} {t : Ty} (mem : t ∈ ts) (inside : t.Names n) :
      Names n (.alternatives ts)

/-- Each text stays among those that differ. -/
theorem mem_distinctTexts {x : String} {texts : List String} (h : x ∈ texts) :
    x ∈ distinctTexts texts := by
  -- the text is still to come or was seen
  have hfold : ∀ (rest seen : List String), x ∈ rest ∨ x ∈ seen →
      x ∈ rest.foldl (fun seen t => if seen.contains t then seen else seen ++ [t]) seen := by
    intro rest
    induction rest with
    | nil => exact fun seen h => h.resolve_left List.not_mem_nil
    | cons t r ih =>
        intro seen h
        rw [List.foldl_cons]
        refine ih _ ?_
        rcases h with h | h
        · rcases List.mem_cons.mp h with rfl | h
          · refine Or.inr ?_
            split
            · rename_i hseen
              exact List.contains_iff_mem.mp hseen
            · exact List.mem_append_right _ (List.mem_singleton_self _)
          · exact Or.inl h
        · refine Or.inr ?_
          split
          · exact h
          · exact List.mem_append_left _ h
  exact hfold texts [] (Or.inl h)

variable {n : String}

theorem mentioned_unionText {x : String} {texts : List String} (hx : x ∈ texts)
    (h : Mentioned n x) : Mentioned n (unionText texts) := by
  cases texts with
  | nil => cases hx
  | cons t r => exact h.joinWith hx (by decide) (by decide)

/-- **The text of a type mentions the types in it.** -/
theorem Ty.Names.text {t : Ty} (h : t.Names n) : Mentioned n t.text := by
  induction h with
  | here => exact mentioned_self n
  | array _ ih => exact (ih.after (by decide)).before (by decide)
  | orNull _ ih => exact ih.before (by decide)
  | @generic wrapper _ _ ih => exact (ih.after (.append wrapper (by decide))).before (by decide)
  | @object ms m optional t mem _ ih =>
      have hmember : Mentioned n (Member.mk m optional t).text := ih.after (.append _ (by decide))
      have htexts : (Member.mk m optional t).text ∈ memberTexts ms := by
        rw [memberTexts_eq_map]
        exact List.mem_map_of_mem mem
      have hjoined := hmember.joinWith htexts (show Opens ", " by decide)
        (show Closes ", " by decide)
      cases ms with
      | nil => cases mem
      | cons u r => exact (hjoined.after (by decide)).before (by decide)
  | union mem _ ih =>
      rw [Ty.text, typeTexts_eq_map]
      exact mentioned_unionText (List.mem_map_of_mem mem) ih
  | alternatives mem _ ih =>
      rw [Ty.text, typeTexts_eq_map]
      exact mentioned_unionText (mem_distinctTexts (List.mem_map_of_mem mem)) ih

/-! ## Statements -/

/-- A type is named in what an exported type is. -/
def Body.Names (n : String) : Body → Prop
  | .inline t => t.Names n
  | .record ms => ∃ m ∈ ms, m.type.Names n
  | .choice _ => False
  | .emptyRecord => False

/-- A type is named in a statement. -/
def Statement.Names (n : String) : Statement → Prop
  | .exportType _ _ b => b.Names n
  | .declareConst _ t => t.Names n
  | _ => False

theorem Body.Names.text {b : Body} (h : b.Names n) : Mentioned n b.text := by
  cases b with
  | inline t => exact (Ty.Names.text h).after (by decide)
  | record ms =>
      obtain ⟨m, hm, hn⟩ := h
      have hmember : Mentioned n m.text :=
        (hn.text.after (.append _ (by decide))).before (by decide)
      exact ((hmember.joinWith (List.mem_map.mpr ⟨m, hm, rfl⟩) (by decide) (by decide)).after
        (by decide)).before (by decide)
  | choice values => cases h
  | emptyRecord => cases h

/-- **The text of a statement mentions the types in it.** -/
theorem Statement.Names.text {st : Statement} (h : st.Names n) : Mentioned n st.text := by
  cases st with
  | importTypes names specifier => cases h
  | exportType d m b => exact ((Body.Names.text h).after (.append _ (by decide))).before (by decide)
  | exportGeneric m parameters body => cases h
  | declareConst m t => exact ((Ty.Names.text h).after (.append _ (by decide))).before (by decide)
  | exportNothing => cases h

theorem mentioned_statementsText {st : Statement} {ss : List Statement} (hst : st ∈ ss)
    (h : st.Names n) : Mentioned n (Declaration.statementsText ss) :=
  (Statement.Names.text h).joinWith (List.mem_map.mpr ⟨st, hst, rfl⟩) (by decide) (by decide)

end QueryTypings.Typescript
