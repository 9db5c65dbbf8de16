/-
  Which names a text mentions, and which types it exports.

  1. **Search** — the search goes on until the name stands somewhere with no identifier character on
     either side (`mentions_iff`).

  2. **Context** — what stands in a text still stands there when the text is put between others, as
     long as no identifier goes on across the seams (`Mentioned.after`, `Mentioned.before`,
     `Mentioned.joinWith`).

  3. **Lines** — what a text of several parts in lines of their own exports is what the parts export
     (`exportedTypes_append`, `exportedTypes_joinWith`).

  4. **Exports** — the names that a text exports are those with which a line `export type` goes on
     (`exports_of_mem`).  A statement of this form exports its name, and besides what its further
     lines do (`exportedTypes_export`).

  5. **Silence** — a text none of whose lines begins with `e` exports nothing
     (`Silent.exportedTypes`).
-/
import QueryTypings.Proofs.Text.Lines
import QueryTypings.Text.Identifiers

namespace QueryTypings.Text

/-! ## Search -/

/-- A name stands in a text, with no identifier character right before or right after it. -/
def Mentioned (name text : String) : Prop :=
  ∃ before after, text.toList = before ++ name.toList ++ after
    ∧ startsApart before.reverse = true ∧ startsApart after = true

theorem startsApart_append {a b : List Char} (ha : startsApart a = true)
    (hb : startsApart b = true) : startsApart (a ++ b) = true := by
  cases a with
  | nil => exact hb
  | cons c r => exact ha

theorem startsApart_append_of_ne {a : List Char} (hne : a ≠ []) (ha : startsApart a = true)
    (b : List Char) : startsApart (a ++ b) = true := by
  cases a with
  | nil => exact absurd rfl hne
  | cons c r => exact ha

/-- The name stands at the beginning of a text. -/
def standsFirst (name cs : List Char) : Bool :=
  match dropFront? name cs with
  | some r => startsApart r
  | none => false

theorem standsFirst_iff {name cs : List Char} :
    standsFirst name cs = true ↔ ∃ after, cs = name ++ after ∧ startsApart after = true := by
  constructor
  · intro h
    unfold standsFirst at h
    split at h
    · rename_i r hr
      exact ⟨r, eq_append_of_dropFront hr, h⟩
    · cases h
  · rintro ⟨after, rfl, hafter⟩
    rw [standsFirst, dropFront_append]
    exact hafter

theorem mentionsFrom_nil (name : List Char) (apart : Bool) :
    mentionsFrom name apart [] = (apart && standsFirst name []) := Bool.or_false _

theorem mentionsFrom_cons (name : List Char) (apart : Bool) (c : Char) (r : List Char) :
    mentionsFrom name apart (c :: r)
      = ((apart && standsFirst name (c :: r)) || mentionsFrom name (!isIdentifierChar c) r) := rfl

theorem mentionsFrom_iff {name : List Char} {apart : Bool} {cs : List Char} :
    mentionsFrom name apart cs = true ↔ ∃ before after, cs = before ++ name ++ after
      ∧ (before = [] → apart = true) ∧ startsApart before.reverse = true
      ∧ startsApart after = true := by
  induction cs generalizing apart with
  | nil =>
      rw [mentionsFrom_nil, Bool.and_eq_true, standsFirst_iff]
      constructor
      · rintro ⟨hapart, after, heq, hafter⟩
        exact ⟨[], after, heq, fun _ => hapart, rfl, hafter⟩
      · rintro ⟨before, after, heq, hapart, _, hafter⟩
        obtain ⟨hfront, rfl⟩ := List.append_eq_nil_iff.mp heq.symm
        obtain ⟨rfl, rfl⟩ := List.append_eq_nil_iff.mp hfront
        exact ⟨hapart rfl, [], rfl, rfl⟩
  | cons c r ih =>
      rw [mentionsFrom_cons, Bool.or_eq_true, Bool.and_eq_true, standsFirst_iff, ih]
      constructor
      · rintro (⟨hapart, after, heq, hafter⟩ | ⟨before, after, rfl, hapart, hbefore, hafter⟩)
        · exact ⟨[], after, heq, fun _ => hapart, rfl, hafter⟩
        · refine ⟨c :: before, after, rfl, fun hnil => (by cases hnil), ?_, hafter⟩
          cases before with
          | nil => exact hapart rfl
          | cons d t =>
              rw [List.reverse_cons]
              exact startsApart_append_of_ne (by simp) hbefore _
      · rintro ⟨before, after, heq, hapart, hbefore, hafter⟩
        -- the name stands here, or further on in what is left of the text
        cases before with
        | nil => exact Or.inl ⟨hapart rfl, after, heq, hafter⟩
        | cons d t =>
            obtain ⟨rfl, rfl⟩ := List.cons.inj heq
            refine Or.inr ⟨t, after, rfl, ?_, ?_, hafter⟩
            · rintro rfl
              exact hbefore
            · cases ht : t.reverse with
              | nil => rfl
              | cons x u =>
                  rw [List.reverse_cons, ht] at hbefore
                  exact hbefore

/-- **A text mentions a name where it stands as a whole identifier.** -/
theorem mentions_iff {text name : String} : mentions text name = true ↔ Mentioned name text := by
  rw [mentions, mentionsFrom_iff]
  constructor
  · rintro ⟨before, after, heq, _, hbefore, hafter⟩
    exact ⟨before, after, heq, hbefore, hafter⟩
  · rintro ⟨before, after, heq, hbefore, hafter⟩
    exact ⟨before, after, heq, fun _ => rfl, hbefore, hafter⟩

/-! ## Context -/

/-- After the text an identifier may begin. -/
def Opens (text : String) : Prop := text.toList ≠ [] ∧ startsApart text.toList.reverse = true

/-- Before the text an identifier may end. -/
def Closes (text : String) : Prop := text.toList ≠ [] ∧ startsApart text.toList = true

instance (text : String) : Decidable (Opens text) := inferInstanceAs (Decidable (_ ∧ _))

instance (text : String) : Decidable (Closes text) := inferInstanceAs (Decidable (_ ∧ _))

section Context

variable {name text a b : String}

theorem Opens.append (a : String) (hb : Opens b) : Opens (a ++ b) := by
  rw [Opens, String.toList_append, List.reverse_append]
  refine ⟨fun hnil => hb.1 (List.append_eq_nil_iff.mp hnil).2, ?_⟩
  exact startsApart_append_of_ne (by simpa using hb.1) hb.2 _

theorem Closes.append (ha : Closes a) (b : String) : Closes (a ++ b) := by
  rw [Closes, String.toList_append]
  refine ⟨fun hnil => ha.1 (List.append_eq_nil_iff.mp hnil).1, ?_⟩
  exact startsApart_append_of_ne ha.1 ha.2 _

theorem mentioned_self (name : String) : Mentioned name name :=
  ⟨[], [], (List.append_nil _).symm, rfl, rfl⟩

theorem Mentioned.after (h : Mentioned name text) (ha : Opens a) : Mentioned name (a ++ text) := by
  obtain ⟨before, after, heq, hbefore, hafter⟩ := h
  refine ⟨a.toList ++ before, after, ?_, ?_, hafter⟩
  · rw [String.toList_append, heq, List.append_assoc, List.append_assoc, List.append_assoc]
  · rw [List.reverse_append]
    exact startsApart_append hbefore ha.2

theorem Mentioned.before (h : Mentioned name text) (hb : Closes b) :
    Mentioned name (text ++ b) := by
  obtain ⟨before, after, heq, hbefore, hafter⟩ := h
  refine ⟨before, after ++ b.toList, ?_, hbefore, startsApart_append hafter hb.2⟩
  rw [String.toList_append, heq, List.append_assoc]

theorem Mentioned.before_append (h : Mentioned name text) (hb : Closes b) (c : String) :
    Mentioned name (text ++ b ++ c) := by
  rw [String.append_assoc]
  exact h.before (hb.append c)

/-- What one of some texts mentions, all of them together mention. -/
theorem Mentioned.joinWith {sep x : String} {xs : List String} (h : Mentioned name x) (hx : x ∈ xs)
    (hopens : Opens sep) (hcloses : Closes sep) : Mentioned name (joinWith sep xs) := by
  induction xs with
  | nil => cases hx
  | cons y r ih =>
      by_cases hr : r = []
      · subst hr
        rw [List.mem_singleton.mp hx] at h
        exact h
      · rw [joinWith_cons sep y hr]
        rcases List.mem_cons.mp hx with rfl | hx
        · exact h.before_append hcloses _
        · exact (ih hx).after (hopens.append y)

end Context

/-! ## Lines -/

theorem exportedTypes_append (a b : String) :
    exportedTypes (a ++ "\n" ++ b) = exportedTypes a ++ exportedTypes b := by
  have htext : (a ++ "\n" ++ b).toList = a.toList ++ '\n' :: b.toList := by
    rw [String.toList_append, String.toList_append, List.append_assoc]
    rfl
  rw [exportedTypes, htext, splitAt_append, List.filterMap_append]
  rfl

theorem exportedTypes_empty : exportedTypes "" = [] := by decide

/-- Texts in lines of their own export together what they export each. -/
theorem exportedTypes_joinWith_of_append {sep : String}
    (hsep : ∀ a b, exportedTypes (a ++ sep ++ b) = exportedTypes a ++ exportedTypes b)
    (xs : List String) : exportedTypes (joinWith sep xs) = xs.flatMap exportedTypes := by
  induction xs with
  | nil => exact exportedTypes_empty
  | cons x r ih =>
      by_cases hr : r = []
      · subst hr
        rw [List.flatMap_cons, List.flatMap_nil, List.append_nil]
        rfl
      · rw [joinWith_cons sep x hr, List.flatMap_cons, ← ih, hsep]

theorem exportedTypes_joinWith (xs : List String) :
    exportedTypes (joinWith "\n" xs) = xs.flatMap exportedTypes :=
  exportedTypes_joinWith_of_append exportedTypes_append xs

/-- The same with empty lines between the texts. -/
theorem exportedTypes_joinWith_blank (xs : List String) :
    exportedTypes (joinWith "\n\n" xs) = xs.flatMap exportedTypes := by
  refine exportedTypes_joinWith_of_append (fun a b => ?_) xs
  have htwo : a ++ "\n\n" ++ b = a ++ "\n" ++ "" ++ "\n" ++ b := by
    simp only [String.append_assoc]
    rfl
  rw [htwo, exportedTypes_append, exportedTypes_append, exportedTypes_empty, List.append_nil]

/-! ## Exports -/

/-- The text is a run of word characters. -/
def IsIdentifier (name : String) : Prop := name.toList ≠ [] ∧ ∀ c ∈ name.toList, isWord c = true

instance (name : String) : Decidable (IsIdentifier name) :=
  decidable_of_iff (name.toList ≠ [] ∧ name.toList.all isWord = true)
    (by rw [List.all_eq_true]; rfl)

/-- A line of the text begins with the export of a type of a given name. -/
def Exports (text name : String) : Prop :=
  ∃ front back, text.toList = front ++ "export type ".toList ++ name.toList ++ back
    ∧ (front = [] ∨ front.getLast? = some '\n') ∧ ∀ c ∈ back.head?, isWord c = false

theorem exportedType?_eq_some {line : List Char} {name : String}
    (h : exportedType? line = some name) :
    ∃ back, line = "export type ".toList ++ name.toList ++ back
      ∧ ∀ c ∈ back.head?, isWord c = false := by
  rw [exportedType?] at h
  split at h
  · cases h
  · rename_i r hr
    split at h
    · cases h
    · obtain rfl := Option.some.inj h
      refine ⟨r.dropWhile isWord, ?_, fun c hc => ?_⟩
      · rw [@String.toList_ofList (r.takeWhile isWord), List.append_assoc,
          List.takeWhile_append_dropWhile]
        exact eq_append_of_dropFront hr
      · have hnot := List.head?_dropWhile_not isWord r
        rw [Option.mem_def.mp hc] at hnot
        simpa using hnot

/-- **What a text exports stands at the beginning of a line.** -/
theorem exports_of_mem {text name : String} (h : name ∈ exportedTypes text) :
    Exports text name := by
  obtain ⟨line, hline, hname⟩ := List.mem_filterMap.mp h
  obtain ⟨back, rfl, hback⟩ := exportedType?_eq_some hname
  obtain ⟨front, rest, htext, hfront, hrest⟩ := @exists_of_mem_intercal '\n' _ _ hline
  rw [intercal_splitAt] at htext
  refine ⟨front, back ++ rest, by rw [htext]; simp only [List.append_assoc], hfront, ?_⟩
  -- if the line ends with the name, a line feed follows or nothing
  cases back with
  | cons c r => exact hback
  | nil =>
      rcases hrest with rfl | hrest
      · exact fun c hc => (by cases hc)
      · intro c hc
        rw [List.nil_append, hrest] at hc
        rw [← Option.some.inj hc]
        decide

/-- What the lines of a text after its first one export. -/
def laterExports (text : String) : List String :=
  (splitAt '\n' text.toList).tail.filterMap exportedType?

theorem head?_of_firstPiece {sep c : Char} {cs : List Char}
    (h : ((splitAt sep cs).headD []).head? = some c) : cs.head? = some c := by
  cases cs with
  | nil => cases h
  | cons d r =>
      rw [splitAt] at h
      split at h
      · cases h
      · cases hr : splitAt sep r with
        | nil => exact absurd hr (splitAt_ne_nil sep r)
        | cons l ls =>
            rw [hr] at h
            exact h

theorem takeWhile_isWord {name back : List Char} (hname : ∀ c ∈ name, isWord c = true)
    (hback : ∀ c ∈ back.head?, isWord c = false) : (name ++ back).takeWhile isWord = name := by
  rw [List.takeWhile_append_of_pos hname]
  cases back with
  | nil => exact List.append_nil name
  | cons c r =>
      rw [List.takeWhile_cons, hback c rfl]
      exact List.append_nil name

/-- **A statement that exports a type** exports its name, and what its further lines export. -/
theorem exportedTypes_export {name rest : String} (hname : IsIdentifier name)
    (hrest : ∀ c ∈ rest.toList.head?, isWord c = false) :
    exportedTypes ("export type " ++ name ++ rest) = name :: laterExports rest := by
  have hbreak : '\n' ∉ "export type ".toList ++ name.toList := by
    rw [List.mem_append]
    rintro (hmem | hmem)
    · exact absurd hmem (by decide)
    · exact absurd (hname.2 _ hmem) (by decide)
  rw [exportedTypes, String.toList_append, String.toList_append, splitAt_append_of_not_mem hbreak,
    List.filterMap_cons]
  have hline : exportedType? ("export type ".toList ++ name.toList
      ++ (splitAt '\n' rest.toList).headD []) = some name := by
    rw [exportedType?, List.append_assoc, dropFront_append]
    simp only [takeWhile_isWord hname.2 fun c hc => hrest c (head?_of_firstPiece hc)]
    split
    · rename_i hnil
      exact absurd hnil hname.1
    · rw [String.ofList_toList]
  rw [hline]
  rfl

/-! ## Silence -/

/-- No line of the text begins with `e`. -/
def Silent (cs : List Char) : Prop := ∀ line ∈ splitAt '\n' cs, line.head? ≠ some 'e'

theorem exportedType?_eq_none {line : List Char} (h : line.head? ≠ some 'e') :
    exportedType? line = none := by
  have hnone : dropFront? "export type ".toList line = none := by
    cases hdrop : dropFront? "export type ".toList line with
    | none => rfl
    | some r =>
        rw [eq_append_of_dropFront hdrop] at h
        exact absurd rfl h
  rw [exportedType?, hnone]

/-- **A silent text exports nothing.** -/
theorem Silent.exportedTypes {text : String} (h : Silent text.toList) : exportedTypes text = [] :=
  List.filterMap_eq_nil_iff.mpr fun line hline => exportedType?_eq_none (h line hline)

/-- A part of a line that does not begin with `e`. -/
def Plain (cs : List Char) : Prop := '\n' ∉ cs ∧ cs.head? ≠ some 'e'

instance (cs : List Char) : Decidable (Plain cs) := inferInstanceAs (Decidable (_ ∧ _))

theorem Plain.silent {cs : List Char} (h : Plain cs) : Silent cs := by
  rw [Silent, splitAt_of_not_mem h.1]
  exact List.forall_mem_singleton.mpr h.2

theorem Plain.append {a b : List Char} (ha : Plain a) (hb : Plain b) : Plain (a ++ b) := by
  refine ⟨fun hmem => (List.mem_append.mp hmem).elim ha.1 hb.1, ?_⟩
  cases a with
  | nil => exact hb.2
  | cons c r => exact ha.2

theorem Plain.text_append {a b : String} (ha : Plain a.toList) (hb : Plain b.toList) :
    Plain (a ++ b).toList := by
  rw [String.toList_append]
  exact ha.append hb

/-- What follows in the line may begin with any character. -/
theorem Plain.followed {a b : List Char} (ha : Plain a) (hne : a ≠ []) (hb : '\n' ∉ b) :
    Plain (a ++ b) := by
  refine ⟨fun hmem => (List.mem_append.mp hmem).elim ha.1 hb, ?_⟩
  cases a with
  | nil => exact absurd rfl hne
  | cons c r => exact ha.2

theorem Plain.of_prefix {a b : List Char} (h : a <+: b) (hb : Plain b) : Plain a := by
  obtain ⟨tail, rfl⟩ := h
  refine ⟨fun hmem => hb.1 (List.mem_append_left _ hmem), ?_⟩
  cases a with
  | nil => exact nofun
  | cons c r => exact hb.2

theorem Silent.line {a b : List Char} (ha : Silent a) (hb : Silent b) :
    Silent (a ++ '\n' :: b) := by
  rw [Silent, splitAt_append]
  exact List.forall_mem_append.mpr ⟨ha, hb⟩

/-- Two silent texts, each in lines of its own. -/
theorem Silent.lineBreak {a b : String} (ha : Silent a.toList) (hb : Silent b.toList) :
    Silent (a ++ "\n" ++ b).toList := by
  have hall := ha.line hb
  rw [String.toList_append, String.toList_append, List.append_assoc]
  exact hall

theorem silent_intercal {pieces : List (List Char)} (h : ∀ p ∈ pieces, Silent p) :
    Silent (intercal ['\n'] pieces) := by
  induction pieces with
  | nil => exact Plain.silent (by decide)
  | cons p r ih =>
      obtain ⟨hp, hr⟩ := List.forall_mem_cons.mp h
      cases r with
      | nil => exact hp
      | cons q t =>
          have heq : intercal ['\n'] (p :: q :: t) = p ++ '\n' :: intercal ['\n'] (q :: t) := by
            rw [intercal, List.append_assoc]
            rfl
          rw [heq]
          exact hp.line (ih hr)

/-- What follows in the last line. -/
theorem Silent.followed {a b : List Char} (ha : Silent a) (hb : Plain b) : Silent (a ++ b) := by
  rw [Silent, splitAt_append_last hb.1]
  refine List.forall_mem_append.mpr ⟨fun l hl => ha l (List.dropLast_subset _ hl), ?_⟩
  refine List.forall_mem_singleton.mpr ?_
  have hlast := ha _ (List.getLast_mem (splitAt_ne_nil '\n' a))
  -- an empty last line begins with what follows
  cases hcut : (splitAt '\n' a).getLast (splitAt_ne_nil '\n' a) with
  | nil => exact hb.2
  | cons c r =>
      rw [hcut] at hlast
      exact hlast

end QueryTypings.Text
