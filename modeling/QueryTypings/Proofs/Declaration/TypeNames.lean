/-
  The names of the types in the declaration of a document are different.

  Such a name is the name of a fragment or an operation with an ending that tells what the type
  stands for.  The first part may be any name, also one that looks like the whole name of another
  type.

  1. **Endings** — no ending is the end of another one, so a name can be taken apart in one way only
     (`Role.eq_of_suffix`, `typeName_inj`).

  2. **Types** — no type of the declaration is listed twice: fragments bear different names, and so
     do operations; the two types of one operation differ in their endings (`nodup_localTypes`).

  3. **Declarations** — so the declaration exports no name twice (`exported_distinct`).
-/
import QueryTypings.Proofs.Declaration.Constants

namespace QueryTypings.Declaration

open QueryTypings.Graphql QueryTypings.Schema QueryTypings.Text QueryTypings.Typescript
  QueryTypings.Check QueryTypings.Exported

/-! ## Endings -/

/-- What a type of a declaration stands for. -/
inductive Role
  | fragment
  | inputs (kind : OperationKind)
  | result (kind : OperationKind)
deriving DecidableEq

/-- The end of the names of such types. -/
def Role.ending : Role → String
  | .fragment => "Fragment"
  | .inputs kind => kindSuffix kind ++ "Variables"
  | .result kind => kindSuffix kind

/-- All that a type can stand for. -/
def Role.all : List Role :=
  .fragment :: [.query, .mutation, .subscription].flatMap fun kind =>
    [.inputs kind, .result kind]

theorem Role.mem_all (r : Role) : r ∈ Role.all := by
  cases r with
  | fragment => decide
  | inputs kind => cases kind <;> decide
  | result kind => cases kind <;> decide

/-- **No ending is the end of another one.** -/
theorem Role.eq_of_suffix {r r' : Role} (h : r.ending.toList <:+ r'.ending.toList) : r = r' := by
  have hall : ∀ r ∈ Role.all, ∀ r' ∈ Role.all, r.ending.toList <:+ r'.ending.toList → r = r' := by
    decide
  exact hall r r.mem_all r' r'.mem_all h

/-- The name of a type, which is that of a fragment or an operation with an ending. -/
def typeName (p : String × Role) : String := p.1 ++ p.2.ending

/-- **A name can be taken apart in one way only.** -/
theorem typeName_inj {p q : String × Role} (h : typeName p = typeName q) : p = q := by
  have htext : p.1.toList ++ p.2.ending.toList = q.1.toList ++ q.2.ending.toList := by
    rw [← String.toList_append, ← String.toList_append]
    exact congrArg String.toList h
  -- both endings are ends of the one name, so one of them is the end of the other
  have hp : p.2.ending.toList <:+ p.1.toList ++ p.2.ending.toList := List.suffix_append _ _
  have hq : q.2.ending.toList <:+ p.1.toList ++ p.2.ending.toList :=
    htext ▸ List.suffix_append _ _
  have hrole : p.2 = q.2 := by
    rcases List.suffix_or_suffix_of_suffix hp hq with hsuffix | hsuffix
    · exact Role.eq_of_suffix hsuffix
    · exact (Role.eq_of_suffix hsuffix).symm
  rw [hrole] at htext
  have hname : p.1 = q.1 := String.toList_inj.mp (List.append_cancel_right htext)
  exact Prod.ext hname hrole

/-! ## Types -/

/-- The types that the declaration of a document exports. -/
def localTypes (d : Document) : List (String × Role) :=
  (d.fragments.map fun f => (f.name.text, .fragment))
    ++ d.namedOperations.flatMap fun p =>
      [(p.1.text, .inputs p.2.kind), (p.1.text, .result p.2.kind)]

theorem localNames_eq (d : Document) : localNames d = (localTypes d).map typeName := by
  rw [localNames, localTypes, List.map_append, List.map_map, List.map_flatMap]
  refine congrArg _ (List.flatMap_congr fun p _ => ?_)
  have hvariables : typeName (p.1.text, .inputs p.2.kind) = variablesName p.1.text p.2.kind := by
    rw [typeName, Role.ending, variablesName, resultName, String.append_assoc]
  rw [List.map_cons, hvariables]
  rfl

variable {s : Schema} {scalars : ScalarTypes} {d : Document} {body : List Statement}

/-- **No type is listed twice**, if no two fragments and no two operations share a name. -/
theorem nodup_localTypes (hfragments : (fragmentNames d).Nodup)
    (hoperations : (operationNames d).Nodup) : (localTypes d).Nodup := by
  rw [localTypes, List.nodup_append, List.nodup_flatMap]
  refine ⟨?fragments, ⟨?operation, ?operations⟩, ?apart⟩
  case fragments =>
    have hmap : (d.fragments.map fun f => (f.name.text, Role.fragment))
        = (fragmentNames d).map fun n => (n, Role.fragment) := by
      rw [fragmentNames, List.map_map]
      rfl
    rw [hmap]
    refine hfragments.map ?_
    intro n m h
    exact congrArg Prod.fst h
  case operation =>
    intro p _
    refine List.nodup_cons.mpr ⟨?_, List.nodup_singleton _⟩
    intro hmem
    have hrole := congrArg Prod.snd (List.mem_singleton.mp hmem)
    cases hrole
  case operations =>
    -- the types of two operations differ in the first part
    refine (List.pairwise_map.mp hoperations).imp ?_
    intro p q hne x hp hq
    have hnames {o : Name × Operation} (hx : x ∈
        [(o.1.text, Role.inputs o.2.kind), (o.1.text, Role.result o.2.kind)]) :
        x.1 = o.1.text := by
      rcases List.mem_cons.mp hx with rfl | hx
      · rfl
      · rw [List.mem_singleton.mp hx]
    exact hne ((hnames hp).symm.trans (hnames hq))
  case apart =>
    rintro x hx y hy rfl
    obtain ⟨f, _, rfl⟩ := List.mem_map.mp hx
    obtain ⟨p, _, hp⟩ := List.mem_flatMap.mp hy
    rcases List.mem_cons.mp hp with heq | hp
    · cases congrArg Prod.snd heq
    · cases congrArg Prod.snd (List.mem_singleton.mp hp)

/-! ## Declarations -/

/-- A constant is no type. -/
theorem exportedTypes_documentConstant {n : String} (hn : IsIdentifier n) (kind : OperationKind) :
    exportedTypes (documentConstant n kind).text = [] := by
  have hnone (r : List Char) : exportedType? (declaredFront.toList ++ r) = none := rfl
  rw [exportedTypes, splitAt_of_not_mem (break_not_mem_documentConstant hn kind),
    toList_documentConstant, List.filterMap_cons, hnone]
  rfl

/-- If the text for a scalar holds no line feed, the search in the text of a declaration finds the
    names of its statements. -/
theorem exportedTypes_statementsText (hs : s.Spelled) (hscalars : OneLine scalars)
    (hfine : ∀ x ∈ d, x.Fine) (hnames : (fragmentNames d).Nodup)
    (h : documentStatements s scalars d = .ok body) :
    exportedTypes (statementsText body) = body.filterMap Statement.exported? := by
  have himport : exportedTypes typedDocumentImport.text = typedDocumentImport.exported?.toList := by
    decide
  have hall : ∀ st ∈ body, exportedTypes st.text = st.exported?.toList := by
    obtain ⟨types, htypes, rfl⟩ := flat_documentStatements hs hscalars hfine hnames h
    refine List.forall_mem_append.mpr ⟨List.forall_mem_cons.mpr ⟨himport, ?_⟩, ?_⟩
    · intro st hst
      exact (htypes st hst).exportedTypes
    · intro st hst
      obtain ⟨p, hp, rfl⟩ := List.mem_map.mp hst
      exact exportedTypes_documentConstant (isIdentifier_of_named hfine hp) p.2.kind
  rw [statementsText, exportedTypes_joinWith, List.flatMap_map, List.flatMap_congr hall]
  exact (List.filterMap_eq_flatMap_toList _ _).symm

/-- **The declaration of a document exports no type name twice.**  It exports a name for each
    fragment and two for each operation with a name, whatever these names are, and no others; if the
    text for a scalar holds no line feed, these are also the names that are found in its text. -/
theorem exported_distinct {text : String} (hd : accepted s text = .ok d)
    (hbody : documentStatements s scalars d = .ok body) :
    body.filterMap Statement.exported?
      = (d.fragments.map fun f => f.name.text ++ "Fragment")
        ++ d.namedOperations.flatMap (fun p => [p.1.text ++ kindSuffix p.2.kind ++ "Variables",
          p.1.text ++ kindSuffix p.2.kind])
    ∧ (body.filterMap Statement.exported?).Nodup
    ∧ (s.Spelled → OneLine scalars →
      exportedTypes (statementsText body) = body.filterMap Statement.exported?) := by
  have hregular := regular_of_accepted hd
  have hexported := exported_documentStatements hregular.fragments hbody
  refine ⟨hexported, ?_, ?_⟩
  · rw [hexported, localNames_eq]
    exact (nodup_localTypes hregular.fragments hregular.operations).map fun _ _ => typeName_inj
  · intro hs hscalars
    exact exportedTypes_statementsText hs hscalars (fine_of_accepted hd) hregular.fragments hbody

/-- A schema with two roots. -/
def twoRoots : Schema :=
  (Schema.ofText "type Query\x7ba:Int\x7dtype Subscription\x7ba:Int\x7d").toOption.getD default

/-- Fragments and operations with names that look like those of types. -/
def mimicQuery : String :=
  "fragment Q on Query\x7ba\x7dfragment QQuery on Query\x7ba\x7dquery Q\x7ba\x7d"
    ++ "query QQuery\x7ba\x7dsubscription QQueryVariables\x7ba\x7d"

theorem mimic_facts : (accepted twoRoots mimicQuery).toOption.bind (fun d =>
      (documentStatements twoRoots [] d).toOption.map (List.filterMap Statement.exported?))
    = some ["QFragment", "QQueryFragment", "QQueryVariables", "QQuery", "QQueryQueryVariables",
      "QQueryQuery", "QQueryVariablesSubscriptionVariables", "QQueryVariablesSubscription"] := by
  decide +kernel

/-- An operation may share its name with a fragment, or be named like the type of another one. -/
theorem exported_distinct_mimics :
    ∃ d body, accepted twoRoots mimicQuery = .ok d ∧ documentStatements twoRoots [] d = .ok body
      ∧ body.filterMap Statement.exported?
        = ["QFragment", "QQueryFragment", "QQueryVariables", "QQuery", "QQueryQueryVariables",
          "QQueryQuery", "QQueryVariablesSubscriptionVariables", "QQueryVariablesSubscription"]
      ∧ (body.filterMap Statement.exported?).Nodup
      ∧ exportedTypes (statementsText body) = body.filterMap Statement.exported? := by
  obtain ⟨d, hd, hnames⟩ := Option.bind_eq_some_iff.mp mimic_facts
  obtain ⟨body, hbody, hnames⟩ := Option.map_eq_some_iff.mp hnames
  have haccepted := ok_of_toOption hd
  have hstatements := ok_of_toOption hbody
  have hspelled : twoRoots.Spelled := spelled_getD_ofText _
  have hscalars : OneLine [] := by decide
  obtain ⟨-, hnodup, htext⟩ := exported_distinct haccepted hstatements
  exact ⟨d, body, haccepted, hstatements, hnames, hnodup, htext hspelled hscalars⟩

end QueryTypings.Declaration
