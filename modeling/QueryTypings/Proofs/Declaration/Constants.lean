/-
  The constants of a declaration and those of the script module.

  A declaration declares a constant for each operation with a name, and the script module defines
  it.  Whether they agree is read off the texts: the names on the lines that begin with
  `export declare const` in the one and with `export const` in the other.

  1. **Lines** — the names behind a beginning, in texts of several lines (`namesBehind_joinWith`).

  2. **Keys** — a key in the shape of some selections is a key in them or in a fragment
     (`keyed_fieldsMet`).

  3. **Types** — so if the text for a scalar holds no line feed, the type of some selections is
     written in one line (`flat_typeOfSelections`, `flat_typeOfRoot`).

  4. **Statements** — then only the constants of a declaration are found on its lines
     (`namesBehind_statementsText`), and those of the module on the lines of the module
     (`namesBehind_scriptModule`).

  5. **Agreement** — both list the operations with a name, and both refuse alike
     (`constants_agree`).  A line feed in the text for a scalar can bring in another constant
     (`constants_differ`).
-/
import QueryTypings.Proofs.Declaration.Statements
import QueryTypings.Proofs.Execution.Soundness
import QueryTypings.Proofs.Exported.Decoding
import QueryTypings.Proofs.Schema.Spelling
import QueryTypings.Project.Writer

namespace QueryTypings.Text

/-! ## Lines -/

/-- The name with which a line goes on behind a given beginning. -/
def nameBehind? (front : String) (line : List Char) : Option String :=
  (dropFront? front.toList line).map fun r => String.ofList (r.takeWhile isWord)

/-- The names on the lines of a text that have a given beginning. -/
def namesBehind (front text : String) : List String :=
  (splitAt '\n' text.toList).filterMap (nameBehind? front)

variable {front : String}

theorem namesBehind_append (a b : String) :
    namesBehind front (a ++ "\n" ++ b) = namesBehind front a ++ namesBehind front b := by
  have htext : (a ++ "\n" ++ b).toList = a.toList ++ '\n' :: b.toList := by
    rw [String.toList_append, String.toList_append, List.append_assoc]
    rfl
  rw [namesBehind, htext, splitAt_append, List.filterMap_append]
  rfl

theorem namesBehind_joinWith (hempty : namesBehind front "" = []) (xs : List String) :
    namesBehind front (joinWith "\n" xs) = xs.flatMap (namesBehind front) := by
  induction xs with
  | nil => exact hempty
  | cons x r ih =>
      by_cases hr : r = []
      · subst hr
        exact (List.append_nil _).symm
      · rw [joinWith_cons "\n" x hr, List.flatMap_cons, ← ih, namesBehind_append]

/-- A line with the beginning and a name. -/
theorem nameBehind?_line {name : String} {rest : List Char} (hname : IsIdentifier name)
    (hrest : ∀ c ∈ rest.head?, isWord c = false) :
    nameBehind? front (front.toList ++ (name.toList ++ rest)) = some name := by
  rw [nameBehind?, dropFront_append, Option.map_some, takeWhile_isWord hname.2 hrest,
    String.ofList_toList]

/-- A text in one line. -/
theorem namesBehind_of_not_mem {text : String} (h : '\n' ∉ text.toList) :
    namesBehind front text = (nameBehind? front text.toList).toList := by
  rw [namesBehind, splitAt_of_not_mem h, List.filterMap_cons, List.filterMap_nil]
  cases nameBehind? front text.toList <;> rfl

/-- A line that begins with another character. -/
theorem nameBehind?_eq_none {line : List Char} (hfront : front.toList.head? = some 'e')
    (h : line.head? ≠ some 'e') : nameBehind? front line = none := by
  rw [nameBehind?, Option.map_eq_none_iff]
  cases hdrop : dropFront? front.toList line with
  | none => rfl
  | some r =>
      rw [eq_append_of_dropFront hdrop] at h
      refine absurd ?_ h
      cases hlist : front.toList with
      | nil =>
          rw [hlist] at hfront
          cases hfront
      | cons c t =>
          rw [hlist] at hfront
          exact hfront

theorem Silent.namesBehind {text : String} (hfront : front.toList.head? = some 'e')
    (h : Silent text.toList) : namesBehind front text = [] :=
  List.filterMap_eq_nil_iff.mpr fun line hline => nameBehind?_eq_none hfront (h line hline)

end QueryTypings.Text

namespace QueryTypings.Declaration

open QueryTypings.Graphql QueryTypings.Schema QueryTypings.Shape QueryTypings.Text
  QueryTypings.Typescript QueryTypings.Check QueryTypings.Exported QueryTypings.Execution

/-! ## Keys -/

/-- The key of a field and those in what is selected of it have a property. -/
def Keyed (P : String → Prop) (n : FieldNode) : Prop :=
  P n.key ∧ ∀ k ∈ selectionKeys n.selections, P k

section Keys

variable {g : Setting} {P : String → Prop} {parent : NamedType} {keeps : Selection → Bool}
  {expand : String → Bool → List Occurrence}

mutual

theorem keyed_occurrencesOf (hexpand : ∀ n c, ∀ o ∈ expand n c, Keyed P o.node) (c : Bool) :
    ∀ s : Selection, (∀ k ∈ s.keys, P k) →
      ∀ o ∈ occurrencesOf g parent keeps expand c s, Keyed P o.node
  | .leaf f, hs, o, ho => by
      rw [occurrencesOf] at ho
      split at ho
      · rw [List.mem_singleton.mp ho]
        exact ⟨hs _ List.mem_cons_self, fun k hk => absurd hk List.not_mem_nil⟩
      · cases ho
  | .branch f _ ss, hs, o, ho => by
      rw [occurrencesOf] at ho
      split at ho
      · rw [List.mem_singleton.mp ho]
        exact ⟨hs _ List.mem_cons_self, fun k hk => hs k (List.mem_cons_of_mem _ hk)⟩
      · cases ho
  | .inline condition ds p q ss, hs, o, ho => by
      rw [occurrencesOf] at ho
      split at ho
      · exact keyed_occurrencesIn hexpand _ ss hs o ho
      · cases ho
  | .spread n ds p, _, o, ho => by
      rw [occurrencesOf] at ho
      split at ho
      · exact hexpand _ _ o ho
      · cases ho

theorem keyed_occurrencesIn (hexpand : ∀ n c, ∀ o ∈ expand n c, Keyed P o.node) (c : Bool) :
    ∀ ss : List Selection, (∀ k ∈ selectionKeys ss, P k) →
      ∀ o ∈ occurrencesIn g parent keeps expand c ss, Keyed P o.node
  | [], _, o, ho => absurd ho List.not_mem_nil
  | s :: r, hs, o, ho => by
      rw [occurrencesIn] at ho
      rcases List.mem_append.mp ho with ho | ho
      · exact keyed_occurrencesOf hexpand c s (fun k hk => hs k (List.mem_append_left _ hk)) o ho
      · exact keyed_occurrencesIn hexpand c r (fun k hk => hs k (List.mem_append_right _ hk)) o ho

end

/-- The keys in the fragments have the property. -/
def KeyedFragments (P : String → Prop) (g : Setting) : Prop :=
  ∀ p ∈ g.fragments, ∀ k ∈ selectionKeys p.2.selections, P k

theorem keyed_occurrencesOfFragment (hg : KeyedFragments P g) (fuel : Nat) (n : String) (c : Bool) :
    ∀ o ∈ occurrencesOfFragment g parent keeps fuel n c, Keyed P o.node := by
  induction fuel generalizing n c with
  | zero => exact fun o ho => absurd ho List.not_mem_nil
  | succ fuel ih =>
      intro o ho
      rw [occurrencesOfFragment] at ho
      split at ho
      · cases ho
      · rename_i f hf
        split at ho
        · exact keyed_occurrencesIn ih _ _ (hg _ (OrderedMap.mem_of_get? hf)) o ho
        · cases ho

/-- **A key that is met is a key in the selections or in a fragment.** -/
theorem keyed_fieldsMet (hg : KeyedFragments P g) {ss : List Selection}
    (hs : ∀ k ∈ selectionKeys ss, P k) : ∀ n ∈ fieldsMet g parent keeps ss, Keyed P n := by
  intro n hn
  obtain ⟨o, ho, rfl⟩ := List.mem_map.mp hn
  exact keyed_occurrencesIn (keyed_occurrencesOfFragment hg _) _ ss hs o ho

theorem keyed_of_mem_collect (hg : KeyedFragments P g) {ss : List Selection}
    (hs : ∀ k ∈ selectionKeys ss, P k) {key : String} {e : Shape.Entry}
    (he : (key, e) ∈ collect g.schema g.fragments parent false ss) :
    P key ∧ ∀ k ∈ selectionKeys e.selections, P k := by
  have hkeyed : ∀ n ∈ e.nodes, n.key = key ∧ Keyed P n := fun n hn =>
    have hmet := (mem_fieldsMet_of_mem_entry he).mp hn
    ⟨hmet.2, keyed_fieldsMet hg hs n hmet.1⟩
  refine ⟨(hkeyed e.first List.mem_cons_self).1 ▸ (hkeyed e.first List.mem_cons_self).2.1, ?_⟩
  rw [selectionKeys_eq_flatMap, Shape.Entry.selections, List.flatMap_assoc]
  intro k hk
  obtain ⟨n, hn, hk⟩ := List.mem_flatMap.mp hk
  rw [← selectionKeys_eq_flatMap] at hk
  exact (hkeyed n hn).2.2 k hk

end Keys

/-! ## Types -/

/-- The type is written in one line. -/
abbrev FlatType (t : Ty) : Prop := '\n' ∉ t.text.toList

theorem flat_nullMarked {t : TypeRef} {type : Ty} (h : FlatType type) :
    FlatType (nullMarked t type) := by
  unfold nullMarked
  split
  · exact h
  · exact break_not_mem_append h (by decide)

theorem flat_object {ms : List Member} (h : ∀ m ∈ ms, '\n' ∉ m.name.toList ∧ FlatType m.type) :
    FlatType (.object ms) := by
  cases ms with
  | nil => decide
  | cons m r =>
      refine break_not_mem_between (by decide) ?_ (by decide)
      rw [toList_joinWith, memberTexts_eq_map, List.map_map]
      refine not_mem_intercal (by decide) (List.forall_mem_map.mpr fun x hx => ?_)
      obtain ⟨name, optional, type⟩ := x
      have hmark : '\n' ∉ (optionalMark optional).toList := by
        cases optional <;> decide
      exact break_not_mem_append (break_not_mem_append (break_not_mem_append (h _ hx).1 hmark)
        (by decide)) (h _ hx).2

theorem mem_of_mem_distinctTexts {x : String} {texts : List String}
    (h : x ∈ distinctTexts texts) : x ∈ texts := by
  have hfold : ∀ (rest seen : List String),
      x ∈ rest.foldl (fun seen t => if seen.contains t then seen else seen ++ [t]) seen →
      x ∈ rest ∨ x ∈ seen := by
    intro rest
    induction rest with
    | nil => exact fun seen h => Or.inr h
    | cons t r ih =>
        intro seen h
        rcases ih _ h with h | h
        · exact Or.inl (List.mem_cons_of_mem _ h)
        · dsimp only at h
          split at h
          · exact Or.inr h
          · rcases List.mem_append.mp h with h | h
            · exact Or.inr h
            · exact Or.inl (List.mem_singleton.mp h ▸ List.mem_cons_self)
  exact (hfold texts [] h).resolve_right List.not_mem_nil

theorem flat_alternatives {ts : List Ty} (h : ∀ t ∈ ts, FlatType t) :
    FlatType (.alternatives ts) := by
  have htexts : ∀ x ∈ distinctTexts (typeTexts ts), '\n' ∉ x.toList := by
    intro x hx
    have hmem := mem_of_mem_distinctTexts hx
    rw [typeTexts_eq_map] at hmem
    obtain ⟨t, ht, rfl⟩ := List.mem_map.mp hmem
    exact h t ht
  rw [FlatType, Ty.text]
  cases hcut : distinctTexts (typeTexts ts) with
  | nil => decide
  | cons x r =>
      rw [hcut] at htexts
      show '\n' ∉ (joinWith " | " (x :: r)).toList
      rw [toList_joinWith]
      exact not_mem_intercal (by decide) (List.forall_mem_map.mpr htexts)

variable {g : Setting}

/-- What a setting needs for types in one line. -/
structure OneLineSetting (g : Setting) : Prop where
  types : g.schema.Spelled
  scalars : OneLine g.scalars
  fragments : KeyedFragments IsIdentifier g

theorem flat_wrapped {ofNamed : NamedType → Except Shape.Fault Ty}
    (h : ∀ t ∈ g.schema.types, ∀ w, ofNamed t = .ok w → FlatType w) {t : TypeRef} {w : Ty}
    (hw : wrapped g.schema ofNamed t = .ok w) : FlatType w := by
  induction t generalizing w with
  | nonNull t ih => exact ih hw
  | list t ih =>
      obtain ⟨item, hitem, hok⟩ := ok_of_bind_ok hw
      obtain rfl := Except.ok.inj hok
      refine break_not_mem_between (by decide) ?_ (by decide)
      split
      · exact ih hitem
      · exact break_not_mem_append (ih hitem) (by decide)
  | named n =>
      rw [wrapped] at hw
      cases ht : g.schema.type? n with
      | none =>
          rw [ht] at hw
          cases hw
      | some t =>
          rw [ht] at hw
          exact h t (List.mem_of_find?_eq_some ht) w hw

theorem flat_selectionType (hg : OneLineSetting g) {object : NamedType → Except Shape.Fault Ty}
    (h : ∀ T ∈ g.schema.types, ∀ w, object T = .ok w → FlatType w) {t : NamedType}
    (ht : t ∈ g.schema.types) {w : Ty} (hw : selectionType g object t = .ok w) : FlatType w := by
  have hname : '\n' ∉ t.name.toList := IsIdentifier.break_not_mem (hg.types t ht).1
  have hpossible {ws : List Ty} (hws : (g.schema.possibleTypes t).mapM object = .ok ws) :
      FlatType (.alternatives ws) := by
    refine flat_alternatives fun w hw => ?_
    obtain ⟨T, hT, hobject⟩ := (exists_of_mapM_ok hws).2 w hw
    exact h T (mem_types_of_mem_possibleTypes hT) w hobject
  unfold selectionType at hw
  split at hw
  · exact Except.ok.inj hw ▸ break_not_mem_scalarType hg.scalars t.name
  · exact Except.ok.inj hw ▸ hname
  · exact Except.ok.inj hw ▸ hname
  · exact h t ht w hw
  · obtain ⟨ws, hws, hok⟩ := ok_of_bind_ok hw
    exact Except.ok.inj hok ▸ hpossible hws
  · obtain ⟨ws, hws, hok⟩ := ok_of_bind_ok hw
    exact Except.ok.inj hok ▸ hpossible hws

theorem flat_objectType (hg : OneLineSetting g) (fuel : Nat) {typename : Bool}
    {ss : List Selection} (hs : ∀ k ∈ selectionKeys ss, IsIdentifier k) {T : NamedType}
    (hT : T ∈ g.schema.types) {w : Ty} (hw : objectType g fuel typename ss T = .ok w) :
    FlatType w := by
  induction fuel generalizing typename ss T w with
  | zero => cases hw
  | succ fuel ih =>
      obtain ⟨n, members, hn, hmembers, rfl⟩ := objectType_cases hw
      obtain rfl := Nat.succ.inj hn
      have hliteral : FlatType (.literal T.name) :=
        break_not_mem_between (by decide) (IsIdentifier.break_not_mem (hg.types T hT).1) (by decide)
      refine flat_object fun m hm => ?_
      rcases List.mem_append.mp hm with hm | hm
      · rw [mem_typenameMembers hm]
        exact ⟨show '\n' ∉ "__typename".toList by decide, hliteral⟩
      · obtain ⟨⟨key, e⟩, he, hmember⟩ := (exists_of_mapM_ok hmembers).2 m hm
        obtain ⟨hkey, hinside⟩ := keyed_of_mem_collect hg.fragments hs he
        rcases keyMember_cases hmember with ⟨_, rfl⟩ | ⟨_, f, type, _, htype, rfl⟩
        · exact ⟨IsIdentifier.break_not_mem hkey, hliteral⟩
        · refine ⟨IsIdentifier.break_not_mem hkey,
            flat_nullMarked (flat_wrapped (fun t ht w hw => ?_) htype)⟩
          exact flat_selectionType hg (fun T' hT' w' hw' => ih hinside hT' hw') ht hw

/-- **The type of some selections is written in one line.** -/
theorem flat_typeOfSelections (hg : OneLineSetting g) {ss : List Selection}
    (hs : ∀ k ∈ selectionKeys ss, IsIdentifier k) {t : NamedType} (ht : t ∈ g.schema.types) {w : Ty}
    (hw : typeOfSelections g t ss = .ok w) : FlatType w :=
  flat_selectionType hg (fun _ hT _ hobject => flat_objectType hg _ hs hT hobject) ht hw

theorem flat_variableMember (hg : OneLineSetting g) {v : VariableDefinition}
    (hv : IsIdentifier v.name.text) {m : RecordMember} (hm : variableMember g v = .ok m) :
    '\n' ∉ m.name.toList ∧ FlatType m.type := by
  obtain ⟨type, htype, hok⟩ := ok_of_bind_ok hm
  obtain rfl := Except.ok.inj hok
  refine ⟨IsIdentifier.break_not_mem hv, flat_nullMarked (flat_wrapped (fun t ht w hw => ?_) htype)⟩
  unfold inputNamed at hw
  split at hw
  · exact Except.ok.inj hw ▸ break_not_mem_scalarType hg.scalars t.name
  · exact Except.ok.inj hw ▸ IsIdentifier.break_not_mem (hg.types t ht).1

theorem flat_variablesBody (hg : OneLineSetting g) {o : Operation}
    (ho : ∀ v ∈ o.variableDefinitions, IsIdentifier v.name.text) {b : Body}
    (hb : variablesBody g o = .ok b) : b.Flat := by
  unfold variablesBody at hb
  split at hb
  · exact Except.ok.inj hb ▸ trivial
  · obtain ⟨ms, hms, hok⟩ := ok_of_bind_ok hb
    obtain rfl := Except.ok.inj hok
    intro m hm
    obtain ⟨v, hv, hmember⟩ := (exists_of_mapM_ok hms).2 m hm
    exact flat_variableMember hg (ho v hv) hmember

/-! ## Statements -/

/-- The beginning of the line for a constant in a declaration. -/
def declaredFront : String := "export declare const "

/-- The beginning of the line for a constant in a script module. -/
def definedFront : String := "export const "

theorem IsIdentifier.append {n suffix : String} (hn : IsIdentifier n)
    (hsuffix : ∀ c ∈ suffix.toList, isWord c = true) : IsIdentifier (n ++ suffix) := by
  refine ⟨fun hnil => hn.1 ?_, ?_⟩
  · rw [String.toList_append, List.append_eq_nil_iff] at hnil
    exact hnil.1
  · rw [String.toList_append]
    exact List.forall_mem_append.mpr ⟨hn.2, hsuffix⟩

theorem isIdentifier_resultName {n : String} (hn : IsIdentifier n) (kind : OperationKind) :
    IsIdentifier (resultName n kind) :=
  IsIdentifier.append hn (List.all_eq_true.mp (by cases kind <;> decide))

theorem isIdentifier_variablesName {n : String} (hn : IsIdentifier n) (kind : OperationKind) :
    IsIdentifier (variablesName n kind) :=
  IsIdentifier.append (isIdentifier_resultName hn kind) (List.all_eq_true.mp (by decide))

theorem namesBehind_statements (ss : List Statement) :
    namesBehind declaredFront (statementsText ss)
      = ss.flatMap fun st => namesBehind declaredFront st.text := by
  rw [statementsText, namesBehind_joinWith (by decide), List.flatMap_map]

/-- A statement that exports a type declares no constant. -/
theorem namesBehind_of_flat {st : Statement} (h : Flat st) :
    namesBehind declaredFront st.text = [] := by
  obtain ⟨d, n, b, rfl, hn, hb⟩ := h
  have hfront : declaredFront.toList.head? = some 'e' := by decide
  have hbody :
      namesBehind declaredFront ("export type " ++ n ++ (" =" ++ (b.text ++ ";"))) = [] := by
    have hbreak : '\n' ∉ "export type ".toList ++ n.toList := by
      rw [List.mem_append, not_or]
      exact ⟨by decide, IsIdentifier.break_not_mem hn⟩
    -- the first line begins otherwise, and the others are those of the type
    rw [namesBehind, String.toList_append, String.toList_append,
      splitAt_append_of_not_mem hbreak, List.filterMap_cons]
    have hfirst (r : List Char) :
        nameBehind? declaredFront ("export type ".toList ++ n.toList ++ r) = none := rfl
    rw [hfirst]
    exact List.filterMap_eq_nil_iff.mpr fun line hline =>
      nameBehind?_eq_none hfront (hb.silent line (List.mem_of_mem_tail hline))
  have htext : (Statement.exportType d n b).text
      = comment "" d ++ ("export type " ++ n ++ (" =" ++ (b.text ++ ";"))) := by
    show comment "" d ++ "export type " ++ n ++ " =" ++ b.text ++ ";" = _
    simp only [String.append_assoc]
  rw [htext]
  rcases comment_cases (show Plain "".toList by decide) d with h | ⟨c, h, hc⟩
  · rw [h, String.empty_append, hbody]
  · rw [h, namesBehind_append, hc.namesBehind hfront, hbody, List.append_nil]

/-- A statement that declares a constant of an operation as text. -/
theorem toList_documentConstant (n : String) (kind : OperationKind) :
    (documentConstant n kind).text.toList
      = declaredFront.toList ++ (n.toList ++ (": ".toList ++ ("TypedDocumentNode<".toList
        ++ ((resultName n kind).toList ++ (", ".toList
          ++ ((variablesName n kind).toList ++ (">".toList ++ ";".toList))))))) := by
  unfold documentConstant Statement.text Ty.text declaredFront
  simp only [String.toList_append, List.append_assoc]

theorem break_not_mem_documentConstant {n : String} (hn : IsIdentifier n) (kind : OperationKind) :
    '\n' ∉ (documentConstant n kind).text.toList := by
  have hresult := IsIdentifier.break_not_mem (isIdentifier_resultName hn kind)
  have hvariables := IsIdentifier.break_not_mem (isIdentifier_variablesName hn kind)
  rw [toList_documentConstant]
  simp only [List.mem_append, not_or]
  exact ⟨by decide, IsIdentifier.break_not_mem hn, by decide, by decide, hresult, by decide,
    hvariables, by decide, by decide⟩

/-- Such a statement declares the constant by its text. -/
theorem namesBehind_documentConstant {n : String} (hn : IsIdentifier n) (kind : OperationKind) :
    namesBehind declaredFront (documentConstant n kind).text = [n] := by
  rw [namesBehind_of_not_mem (break_not_mem_documentConstant hn kind), toList_documentConstant,
    nameBehind?_line hn]
  · rfl
  · intro c hc
    rw [← Option.some.inj hc]
    decide

theorem flat_fragmentStatement (hg : OneLineSetting g) {f : Fragment} (hf : f.Fine)
    {st : Statement} (h : fragmentStatement g f = .ok st) : Flat st := by
  unfold fragmentStatement at h
  split at h
  · cases h
  · rename_i t ht
    obtain ⟨type, htype, hok⟩ := ok_of_bind_ok h
    obtain rfl := Except.ok.inj hok
    exact ⟨_, _, _, rfl, IsIdentifier.append hf.name (List.all_eq_true.mp (by decide)),
      flat_typeOfSelections hg hf.keys (List.mem_of_find?_eq_some ht) htype⟩

theorem flat_operationStatements (hg : OneLineSetting g) {n : String} (hn : IsIdentifier n)
    {o : Operation} (ho : o.Fine) {sts : List Statement}
    (h : operationStatements g n o = .ok sts) : ∀ st ∈ sts, Flat st := by
  unfold operationStatements at h
  split at h
  · cases h
  · rename_i root hroot
    obtain ⟨result, hresult, h⟩ := ok_of_bind_ok h
    obtain ⟨input, hinput, hok⟩ := ok_of_bind_ok h
    obtain rfl := Except.ok.inj hok
    obtain ⟨name, _, htype⟩ := Option.bind_eq_some_iff.mp hroot
    refine List.forall_mem_cons.mpr ⟨⟨_, _, _, rfl, isIdentifier_variablesName hn o.kind,
      flat_variablesBody hg ho.inputs hinput⟩, List.forall_mem_singleton.mpr
        ⟨_, _, _, rfl, isIdentifier_resultName hn o.kind, ?_⟩⟩
    exact flat_objectType hg _ ho.keys (List.mem_of_find?_eq_some htype) hresult

variable {s : Schema} {scalars : ScalarTypes} {d : Document}

theorem oneLine_settingOf (hs : s.Spelled) (hscalars : OneLine scalars) (hfine : ∀ x ∈ d, x.Fine)
    (hnames : (fragmentNames d).Nodup) : OneLineSetting (settingOf s scalars d) where
  types := hs
  scalars := hscalars
  fragments := by
    show ∀ p ∈ d.fragmentMap, _
    rw [fragmentMap_eq hnames]
    exact List.forall_mem_map.mpr fun f hf => (fine_fragment hfine f hf).keys

/-- Between the import and the constants, all statements export a type in lines of their own. -/
theorem flat_documentStatements (hs : s.Spelled) (hscalars : OneLine scalars)
    (hfine : ∀ x ∈ d, x.Fine) (hnames : (fragmentNames d).Nodup) {ss : List Statement}
    (h : documentStatements s scalars d = .ok ss) :
    ∃ types, (∀ st ∈ types, Flat st) ∧ ss = typedDocumentImport :: types
      ++ d.namedOperations.map fun p => documentConstant p.1.text p.2.kind := by
  have hg := oneLine_settingOf hs hscalars hfine hnames
  obtain ⟨fragments, operations, hfragments, hoperations, rfl⟩ := documentStatements_eq_ok h
  refine ⟨fragments ++ operations.flatten, List.forall_mem_append.mpr ⟨?_, ?_⟩, rfl⟩
  · intro st hst
    obtain ⟨p, hp, hstatement⟩ := (exists_of_mapM_ok hfragments).2 st hst
    have hmem : p ∈ d.fragments.map fun f => (f.name.text, f) := fragmentMap_eq hnames ▸ hp
    obtain ⟨f, hf, rfl⟩ := List.mem_map.mp hmem
    exact flat_fragmentStatement hg (fine_fragment hfine f hf) hstatement
  · intro st hst
    obtain ⟨sts, hsts, hst⟩ := List.mem_flatten.mp hst
    obtain ⟨⟨n, o⟩, ho, hstatements⟩ := (exists_of_mapM_ok hoperations).2 sts hsts
    exact flat_operationStatements hg (isIdentifier_of_named hfine ho)
      (fine_operation hfine o (mem_namedOperations_iff.mp ho).1) hstatements st hst

/-- **The constants of a declaration**, found on its lines, are the operations with a name. -/
theorem namesBehind_statementsText (hs : s.Spelled) (hscalars : OneLine scalars)
    (hfine : ∀ x ∈ d, x.Fine) (hnames : (fragmentNames d).Nodup) {ss : List Statement}
    (h : documentStatements s scalars d = .ok ss) :
    namesBehind declaredFront (statementsText ss) = operationNames d := by
  have himport : namesBehind declaredFront typedDocumentImport.text = [] := by decide
  have hall : ∀ st ∈ ss, namesBehind declaredFront st.text = st.constant?.toList := by
    obtain ⟨types, htypes, rfl⟩ := flat_documentStatements hs hscalars hfine hnames h
    refine List.forall_mem_append.mpr ⟨List.forall_mem_cons.mpr ⟨himport, fun st hst => ?_⟩, ?_⟩
    · obtain ⟨_, _, _, rfl, _⟩ := htypes st hst
      exact namesBehind_of_flat (htypes _ hst)
    · exact List.forall_mem_map.mpr fun p hp =>
        namesBehind_documentConstant (isIdentifier_of_named hfine hp) p.2.kind
  rw [namesBehind_statements, List.flatMap_congr hall, ← List.filterMap_eq_flatMap_toList]
  exact constants_documentStatements h

/-- **The constants of a script module**, found on its lines, are the operations with a name. -/
theorem namesBehind_scriptModule (hfine : ∀ p ∈ documentObjects d, Legible p)
    (hnames : (operationNames d).Nodup) :
    namesBehind definedFront (scriptModule d) = operationNames d := by
  rw [← keys_documentObjects hnames]
  by_cases hempty : documentObjects d = []
  · rw [scriptModule, hempty]
    decide
  · rw [namesBehind, splitAt_scriptModule hempty hfine, List.filterMap_append, List.filterMap_map,
      OrderedMap.keys, ← List.filterMap_eq_map]
    have hlines : ∀ p ∈ documentObjects d,
        (nameBehind? definedFront ∘ fun p => (exportLine p.1 p.2).toList) p = some p.1 := by
      intro p hp
      show nameBehind? definedFront (exportLine p.1 p.2).toList = _
      rw [toList_exportLine]
      refine nameBehind?_line (hfine p hp).name fun c hc => ?_
      rw [← Option.some.inj hc]
      decide
    rw [List.filterMap_congr hlines]
    exact List.append_nil _

/-! ## Agreement -/

theorem operationNames_eq_nil_iff : operationNames d = [] ↔ d.namedOperations = [] :=
  List.map_eq_nil_iff

/-- **The declaration and the script module export the same operations.**  If the text for a scalar
    holds no line feed, the lines of both give the same names, in the same order, and none exactly
    if no operation has a name.  A source that the module refuses, the declaration refuses with the
    same messages. -/
theorem constants_agree {w : Writer} (hs : w.schema.Spelled) (hscalars : OneLine w.scalars)
    (relative : Path) (source : String) :
    (∀ ss text, w.statements relative source = .ok ss → w.script source = .ok text →
      namesBehind declaredFront (statementsText ss) = namesBehind definedFront text
        ∧ ∃ d, accepted w.schema source = .ok d ∧ namesBehind definedFront text = operationNames d
          ∧ (namesBehind definedFront text = [] ↔ d.namedOperations = []))
      ∧ ∀ messages p, w.script source = .error (.reported (.query messages p)) →
        ∃ p', w.statements relative source = .error (.reported (.query messages p')) := by
  unfold Writer.statements Writer.script
  cases haccepted : accepted w.schema source with
  | error f =>
      refine ⟨fun _ _ hss => (nomatch hss), fun messages p h => ?_⟩
      cases f with
      | refused ms =>
          cases h
          exact ⟨some relative, rfl⟩
      | obstructed t o => cases h
  | ok d =>
      refine ⟨fun ss text hss htext => ?_, fun _ _ h => (nomatch h)⟩
      obtain rfl := Except.ok.inj htext
      have hregular := regular_of_accepted haccepted
      have hdefined := namesBehind_scriptModule (legible_of_accepted haccepted) hregular.operations
      dsimp only at hss
      split at hss
      · cases hss
      · rename_i body hbody
        obtain rfl := Except.ok.inj hss
        have hdeclared := namesBehind_statementsText hs hscalars (fine_of_accepted haccepted)
          hregular.fragments hbody
        exact ⟨hdeclared.trans hdefined.symm, d, rfl, hdefined,
          hdefined.symm ▸ operationNames_eq_nil_iff⟩

/-- The names on the lines of the declaration of a source, and the operations with a name in it. -/
def exportedNames (w : Writer) (source : String) : Option (List String × List String) := do
  let d ← (accepted w.schema source).toOption
  let ss ← (documentStatements w.schema w.scalars d).toOption
  return (ss.flatMap fun st => namesBehind declaredFront st.text, operationNames d)

theorem generated_of_exportedNames {w : Writer} {source : String} {xs ys : List String}
    (relative : Path) (h : exportedNames w source = some (xs, ys)) :
    ∃ ss m, w.statements relative source = .ok ss ∧ w.script source = .ok m
      ∧ namesBehind declaredFront (statementsText ss) = xs ∧ namesBehind definedFront m = ys := by
  obtain ⟨d, hd, h⟩ := Option.bind_eq_some_iff.mp h
  obtain ⟨ss, hss, h⟩ := Option.bind_eq_some_iff.mp h
  obtain ⟨rfl, rfl⟩ := Prod.mk.inj (Option.some.inj h)
  have haccepted := ok_of_toOption hd
  have hstatements := ok_of_toOption hss
  refine ⟨ss, scriptModule d, ?_, ?_, namesBehind_statements ss,
    namesBehind_scriptModule (legible_of_accepted haccepted)
      (regular_of_accepted haccepted).operations⟩
  · rw [Writer.statements, haccepted]
    dsimp only
    rw [hstatements]
  · rw [Writer.script, haccepted]

/-- A writer for a schema with a scalar of its own, with a text for the scalar. -/
def stampWriter (text : String) : Writer :=
  ⟨(Schema.ofText "scalar S type Query\x7ba:S\x7d").toOption.getD default, [("S", text)],
    ⟨.here, []⟩, ⟨.here, []⟩, ⟨.here, []⟩, []⟩

/-- A query for a field with this scalar. -/
def stampQuery : String := "query Q\x7ba\x7d"

/-- A text for the scalar in two lines, the second of which declares a constant. -/
def stampBreak : String := "string\nexport declare const X: string"

theorem stamp_facts : exportedNames (stampWriter "string") stampQuery = some (["Q"], ["Q"])
    ∧ exportedNames (stampWriter stampBreak) stampQuery = some (["X", "Q"], ["Q"]) := by
  decide +kernel

/-- With a text in one line they agree. -/
theorem constants_agree_stamp :
    (stampWriter "string").schema.Spelled ∧ OneLine (stampWriter "string").scalars
      ∧ ∃ ss text, (stampWriter "string").statements ⟨.here, ["q.gql"]⟩ stampQuery = .ok ss
        ∧ (stampWriter "string").script stampQuery = .ok text
        ∧ namesBehind declaredFront (statementsText ss) = ["Q"]
        ∧ namesBehind declaredFront (statementsText ss) = namesBehind definedFront text := by
  have hschema : (stampWriter "string").schema
      = (Schema.ofText "scalar S type Query\x7ba:S\x7d").toOption.getD default := by
    rw [stampWriter]
  have hspelled : (stampWriter "string").schema.Spelled := by
    rw [hschema]
    exact spelled_getD_ofText _
  have hscalars : OneLine (stampWriter "string").scalars := by
    intro p hp
    rw [List.mem_singleton.mp hp]
    decide
  obtain ⟨ss, text, hss, htext, hdeclared, _⟩ :=
    generated_of_exportedNames ⟨.here, ["q.gql"]⟩ stamp_facts.1
  exact ⟨hspelled, hscalars, ss, text, hss, htext, hdeclared,
    ((constants_agree hspelled hscalars ⟨.here, ["q.gql"]⟩ stampQuery).1 ss text hss htext).1⟩

/-- **A line feed in the text for a scalar brings in a constant** that the script module does not
    export. -/
theorem constants_differ :
    ∃ ss text, (stampWriter stampBreak).statements ⟨.here, ["q.gql"]⟩ stampQuery = .ok ss
      ∧ (stampWriter stampBreak).script stampQuery = .ok text
      ∧ namesBehind declaredFront (statementsText ss) = ["X", "Q"]
      ∧ namesBehind definedFront text = ["Q"]
      ∧ namesBehind declaredFront (statementsText ss) ≠ namesBehind definedFront text := by
  obtain ⟨ss, text, hss, htext, hdeclared, hdefined⟩ :=
    generated_of_exportedNames ⟨.here, ["q.gql"]⟩ stamp_facts.2
  refine ⟨ss, text, hss, htext, hdeclared, hdefined, ?_⟩
  rw [hdeclared, hdefined]
  decide

end QueryTypings.Declaration
