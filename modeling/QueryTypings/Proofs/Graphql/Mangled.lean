/-
  Kinds and keys can be told from the names that they get.

  1. **Letters** — a small letter that is made a capital is told from all small letters, and it can
     be made small again (`case_of_isLower`).

  2. **Words** — a name of words is a text of small letters with underscores between them
     (`IsSnake`).  Going back, every capital becomes an underscore and a small letter (`lowered`),
     so each word with a capital becomes the word behind an underscore (`lowered_flatMap`).

  3. **Names** — joined with capitals and taken apart again, a name of words is what it was: a key
     as it stands (`lowered_keyName`), and a kind behind one underscore (`snakeKind_kindName`).  So
     no two keys get the same name (`keyName_injective`).
-/
import QueryTypings.Graphql.Document.Tree
import QueryTypings.Proofs.Text.Lines

namespace QueryTypings.Graphql

open QueryTypings.Text

/-! ## Letters -/

theorem case_of_isLower {c : Char} (h : c.isLower = true) :
    c.isUpper = false ∧ c.toLower = c ∧ c.toUpper.isUpper = true ∧ c.toUpper.toLower = c := by
  -- the small letters are few
  have hall : ∀ k : Fin 26,
      (Char.ofNat (97 + k)).isUpper = false
        ∧ (Char.ofNat (97 + k)).toLower = Char.ofNat (97 + k)
        ∧ (Char.ofNat (97 + k)).toUpper.isUpper = true
        ∧ (Char.ofNat (97 + k)).toUpper.toLower = Char.ofNat (97 + k) := by decide
  have hrange : 97 ≤ c.toNat ∧ c.toNat ≤ 122 := by
    obtain ⟨hfrom, hto⟩ := Bool.and_eq_true_iff.mp h
    exact ⟨UInt32.le_iff_toNat_le.mp (of_decide_eq_true hfrom),
      UInt32.le_iff_toNat_le.mp (of_decide_eq_true hto)⟩
  have hk := hall ⟨c.toNat - 97, by omega⟩
  have hc : 97 + (c.toNat - 97) = c.toNat := by omega
  simp only [hc, Char.ofNat_toNat] at hk
  exact hk

/-! ## Words -/

/-- A word of small letters, at least one. -/
def IsLowerWord (w : List Char) : Prop := w ≠ [] ∧ w.all Char.isLower = true

/-- Words of small letters with underscores between them. -/
def IsSnake (s : String) : Prop := ∀ w ∈ splitAt '_' s.toList, IsLowerWord w

instance (w : List Char) : Decidable (IsLowerWord w) :=
  inferInstanceAs (Decidable (w ≠ [] ∧ w.all Char.isLower = true))

instance (s : String) : Decidable (IsSnake s) :=
  inferInstanceAs (Decidable (∀ w ∈ splitAt '_' s.toList, IsLowerWord w))

/-- Every capital becomes an underscore and a small letter. -/
def lowered (cs : List Char) : List Char :=
  cs.flatMap fun c => if c.isUpper then ['_', c.toLower] else [c]

theorem lowered_append (a b : List Char) : lowered (a ++ b) = lowered a ++ lowered b :=
  List.flatMap_append

/-- Small letters stay as they are. -/
theorem lowered_of_lower {w : List Char} (h : w.all Char.isLower = true) : lowered w = w := by
  induction w with
  | nil => rfl
  | cons c r ih =>
      obtain ⟨hc, hr⟩ := Bool.and_eq_true_iff.mp h
      have hrest : lowered (c :: r) = [c] ++ lowered r := by
        rw [lowered, List.flatMap_cons, (case_of_isLower hc).1]
        rfl
      rw [hrest, ih hr]
      rfl

/-- A word with a capital becomes the word behind an underscore. -/
theorem lowered_capitalized {w : List Char} (h : IsLowerWord w) :
    lowered (capitalized w) = '_' :: w := by
  obtain ⟨hne, hlower⟩ := h
  cases w with
  | nil => exact absurd rfl hne
  | cons c r =>
      obtain ⟨hc, hr⟩ := Bool.and_eq_true_iff.mp hlower
      obtain ⟨-, -, hupper, hback⟩ := case_of_isLower hc
      have hsmall : r.map Char.toLower = r := by
        have hsame : ∀ d ∈ r, d.toLower = d := by
          intro d hd
          exact (case_of_isLower (List.all_eq_true.mp hr d hd)).2.1
        rw [List.map_congr_left hsame, List.map_id']
      have hrest : lowered (capitalized (c :: r)) = ['_', c] ++ lowered r := by
        rw [capitalized, hsmall, lowered, List.flatMap_cons, hupper, if_pos rfl, hback]
        rfl
      rw [hrest, lowered_of_lower hr]
      rfl

theorem lowered_flatMap {ws : List (List Char)} (h : ∀ w ∈ ws, IsLowerWord w) :
    lowered (ws.flatMap capitalized) = ws.flatMap fun w => '_' :: w := by
  induction ws with
  | nil => rfl
  | cons w r ih =>
      obtain ⟨hw, hr⟩ := List.forall_mem_cons.mp h
      rw [List.flatMap_cons, List.flatMap_cons, lowered_append, lowered_capitalized hw, ih hr]

/-- Words with underscores between them: all but the first stand behind one. -/
theorem intercal_cons (sep : Char) (first : List Char) (rest : List (List Char)) :
    intercal [sep] (first :: rest) = first ++ rest.flatMap fun w => sep :: w := by
  induction rest generalizing first with
  | nil => exact (List.append_nil first).symm
  | cons w r ih =>
      rw [intercal, ih w, List.flatMap_cons, List.append_assoc]
      rfl

/-! ## Names -/

/-- The words of a text, with the first set apart. -/
theorem exists_words {s : String} (h : IsSnake s) :
    ∃ first rest, splitAt '_' s.toList = first :: rest ∧ IsLowerWord first
      ∧ (∀ w ∈ rest, IsLowerWord w)
      ∧ s.toList = first ++ rest.flatMap fun w => '_' :: w := by
  have htext := intercal_splitAt '_' s.toList
  rw [IsSnake] at h
  cases hs : splitAt '_' s.toList with
  | nil => exact absurd hs (splitAt_ne_nil '_' s.toList)
  | cons first rest =>
      rw [hs] at h htext
      obtain ⟨hfirst, hrest⟩ := List.forall_mem_cons.mp h
      refine ⟨first, rest, rfl, hfirst, hrest, ?_⟩
      rw [← intercal_cons, htext]

/-- The kind that has a given name. -/
def snakeKind (name : String) : String := String.ofList ((lowered name.toList).drop 1)

/-- **The kind of a name is found again.** -/
theorem snakeKind_kindName {kind : String} (h : IsSnake kind) :
    snakeKind (kindName kind) = kind := by
  obtain ⟨first, rest, hsplit, hfirst, hrest, htext⟩ := exists_words h
  have hlowered : lowered (kindName kind).toList = '_' :: kind.toList := by
    rw [kindName, String.toList_ofList, hsplit,
      lowered_flatMap (List.forall_mem_cons.mpr ⟨hfirst, hrest⟩), List.flatMap_cons, htext]
    rfl
  rw [snakeKind, hlowered, List.drop_one, List.tail_cons, String.ofList_toList]

theorem lowered_keyName {key : String} (h : IsSnake key) :
    lowered (keyName key).toList = key.toList := by
  obtain ⟨first, rest, hsplit, hfirst, hrest, htext⟩ := exists_words h
  rw [keyName, hsplit]
  dsimp only
  rw [String.toList_ofList, lowered_append, lowered_of_lower hfirst.2, lowered_flatMap hrest, htext]

/-- **No two keys get the same name.** -/
theorem keyName_injective {key other : String} (h : IsSnake key) (h' : IsSnake other)
    (heq : keyName key = keyName other) : key = other := by
  have hlist : key.toList = other.toList := by
    rw [← lowered_keyName h, ← lowered_keyName h', heq]
  exact String.toList_inj.mp hlist

end QueryTypings.Graphql
