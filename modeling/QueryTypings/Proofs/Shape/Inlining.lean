/-
  Fragments written out where they are spread.

  1. **Inlining** — every spread, at any depth, gives way to an inline fragment with the fragment's
     type as its condition, the directives of the spread, and the fragment's own selections, in
     which spreads have given way likewise (`Inlined`).  No spread is left (`Inlined.spreads`), and
     where fragments do not lead back to themselves this can always be done (`exists_inlined`).

  2. **The same fields are met** — one by one and under the same conditions, but that what is
     selected of them is inlined too (`occurrences_inlined`).  A spread is where this is decided:
     the fragment leads to what its selections lead to, and it applies where the inline fragment
     does.

  3. **The same entries** — grouping keeps the two sides in step (`grouped_inlined`), and what is
     selected of the fields under a key is again inlined (`InlinedEntry.selections`).

  4. **The same types** — so by induction on the depth the type of an object is the same
     (`objectType_inlined`).  The bounds for the depth differ, but both are above it.
-/
import QueryTypings.Proofs.Execution.Soundness
import QueryTypings.Proofs.Shape.Depth
import QueryTypings.Proofs.OrderedMap
import QueryTypings.Declaration.Operations

namespace QueryTypings.Shape

open QueryTypings.Graphql QueryTypings.Schema QueryTypings.Typescript QueryTypings.Declaration

/-! ## Inlining -/

/-- The second selections are the first with every spread replaced by the selections of its
    fragment, inlined likewise, under the fragment's condition and the spread's own directives. -/
inductive Inlined (fragments : OrderedMap Fragment) : List Selection → List Selection → Prop
  | nil : Inlined fragments [] []
  | leaf {f : FieldHead} {r r' : List Selection} :
      Inlined fragments r r' → Inlined fragments (.leaf f :: r) (.leaf f :: r')
  | branch {f : FieldHead} {o : Position} {ss ss' r r' : List Selection} :
      Inlined fragments ss ss' → Inlined fragments r r' →
      Inlined fragments (.branch f o ss :: r) (.branch f o ss' :: r')
  | inline {c : Option Name} {ds : List Directive} {p o : Position}
      {ss ss' r r' : List Selection} :
      Inlined fragments ss ss' → Inlined fragments r r' →
      Inlined fragments (.inline c ds p o ss :: r) (.inline c ds p o ss' :: r')
  | spread {n : Name} {ds : List Directive} {p p' o' : Position} {f : Fragment}
      {ss' r r' : List Selection} :
      OrderedMap.get? n.text fragments = some f → Inlined fragments f.selections ss' →
      Inlined fragments r r' →
      Inlined fragments (.spread n ds p :: r) (.inline (some f.condition) ds p' o' ss' :: r')

/-- Every name that is spread is the name of a fragment. -/
def KnownSpreads (fragments : OrderedMap Fragment) (ss : List Selection) : Prop :=
  ∀ n ∈ spreads ss, n ∈ OrderedMap.keys fragments

instance (fragments : OrderedMap Fragment) (ss : List Selection) :
    Decidable (KnownSpreads fragments ss) :=
  inferInstanceAs (Decidable (∀ n ∈ spreads ss, n ∈ OrderedMap.keys fragments))

section Inlining

variable {fragments : OrderedMap Fragment} {ss ss' ts ts' : List Selection}

/-- No spread is left. -/
theorem Inlined.spreads (h : Inlined fragments ss ss') : Graphql.spreads ss' = [] := by
  induction h with
  | nil => rfl
  | leaf _ ih => exact ih
  | branch _ _ ihs ihr => exact List.append_eq_nil_iff.mpr ⟨ihs, ihr⟩
  | inline _ _ ihs ihr => exact List.append_eq_nil_iff.mpr ⟨ihs, ihr⟩
  | spread _ _ _ ihs ihr => exact List.append_eq_nil_iff.mpr ⟨ihs, ihr⟩

theorem Inlined.append (h : Inlined fragments ss ss') (ht : Inlined fragments ts ts') :
    Inlined fragments (ss ++ ts) (ss' ++ ts') := by
  induction h with
  | nil => exact ht
  | leaf _ ih => exact .leaf ih
  | branch hs _ _ ih => exact .branch hs ih
  | inline hs _ _ ih => exact .inline hs ih
  | spread hf hs _ _ ih => exact .spread hf hs ih

/-- The fragment of a given name can be inlined. -/
def CanInline (fragments : OrderedMap Fragment) (n : String) : Prop :=
  ∃ f ss', OrderedMap.get? n fragments = some f ∧ Inlined fragments f.selections ss'

mutual

theorem exists_inlined_cons {r r' : List Selection} (hr : Inlined fragments r r') :
    ∀ x : Selection, (∀ n ∈ x.spreads, CanInline fragments n) →
      ∃ x', Inlined fragments (x :: r) (x' :: r')
  | .leaf _, _ => ⟨_, .leaf hr⟩
  | .branch f o ss, h => by
      obtain ⟨ss', hss⟩ := exists_inlined_of ss h
      exact ⟨.branch f o ss', .branch hss hr⟩
  | .inline c ds p o ss, h => by
      obtain ⟨ss', hss⟩ := exists_inlined_of ss h
      exact ⟨.inline c ds p o ss', .inline hss hr⟩
  | .spread n ds p, h => by
      obtain ⟨f, ss', hf, hss⟩ := h n.text (List.mem_singleton_self _)
      exact ⟨.inline (some f.condition) ds p p ss', .spread hf hss hr⟩

theorem exists_inlined_of : ∀ ss : List Selection, (∀ n ∈ spreads ss, CanInline fragments n) →
      ∃ ss', Inlined fragments ss ss'
  | [], _ => ⟨[], .nil⟩
  | x :: r, h => by
      obtain ⟨r', hr⟩ := exists_inlined_of r fun n hn => h n (List.mem_append_right _ hn)
      obtain ⟨x', hx⟩ := exists_inlined_cons hr x fun n hn => h n (List.mem_append_left _ hn)
      exact ⟨x' :: r', hx⟩

end

theorem canInline_of_rank {rank : String → Nat} (hr : Ranks fragments rank)
    (hknown : ∀ p ∈ fragments, KnownSpreads fragments p.2.selections) (bound : Nat) :
    ∀ n ∈ OrderedMap.keys fragments, rank n < bound → CanInline fragments n := by
  induction bound with
  | zero =>
      intro n _ hlt
      omega
  | succ bound ih =>
      intro n hn hlt
      obtain ⟨f, hf⟩ := Option.ne_none_iff_exists'.mp
        (mt OrderedMap.get?_eq_none_iff.mp (not_not_intro hn))
      -- what the fragment spreads ranks below it
      obtain ⟨ss', hss⟩ := exists_inlined_of f.selections fun m hm => by
        have hmn := hr.lt ⟨f, hf, hm⟩
        exact ih m (hknown _ (OrderedMap.mem_of_get? hf) m hm) (by omega)
      exact ⟨f, ss', hf, hss⟩

/-- **Fragments that are known and do not lead back to themselves can be inlined.** -/
theorem exists_inlined (ha : Acyclic fragments)
    (hknown : ∀ p ∈ fragments, KnownSpreads fragments p.2.selections)
    (hss : KnownSpreads fragments ss) : ∃ ss', Inlined fragments ss ss' := by
  obtain ⟨rank, hr⟩ := exists_ranks ha
  exact exists_inlined_of ss fun n hn =>
    canInline_of_rank hr hknown (rank n + 1) n (hss n hn) (Nat.lt_succ_self _)

end Inlining

/-! ## The same fields are met -/

/-- The same field, of which the same is selected but inlined. -/
def InlinedNode (fragments : OrderedMap Fragment) (n n' : FieldNode) : Prop :=
  n'.head = n.head ∧ Inlined fragments n.selections n'.selections

/-- The same field under the same condition. -/
def InlinedOccurrence (fragments : OrderedMap Fragment) (o o' : Occurrence) : Prop :=
  InlinedNode fragments o.node o'.node ∧ o'.conditional = o.conditional

variable {g : Setting} {parent : NamedType} {ss ss' : List Selection}

/-- **The same fields are met**, in the same order, whichever other fragments there are. -/
theorem occurrences_inlined (ha : Acyclic g.fragments) (others : OrderedMap Fragment)
    (h : Inlined g.fragments ss ss') (c : Bool) :
    List.Forall₂ (InlinedOccurrence g.fragments) (occurrences g parent keepsAll c ss)
      (occurrences { g with fragments := others } parent keepsAll c ss') := by
  induction h generalizing c with
  | nil => exact .nil
  | leaf _ ih =>
      rw [occurrences_cons, occurrences_cons]
      exact List.rel_append (.cons ⟨⟨rfl, .nil⟩, rfl⟩ .nil) (ih c)
  | branch hs _ _ ihr =>
      rw [occurrences_cons, occurrences_cons]
      exact List.rel_append (.cons ⟨⟨rfl, hs⟩, rfl⟩ .nil) (ihr c)
  | inline _ _ ihs ihr =>
      rw [occurrences_cons, occurrences_cons, occurrencesOf, occurrencesOf]
      refine List.rel_append ?_ (ihr c)
      simp only [keepsAll, Bool.true_and]
      split
      · exact ihs _
      · exact .nil
  | @spread n ds p p' o' f ss' r r' hf _ _ ihs ihr =>
      -- both sides ask whether the same condition applies, on a way with the same directives
      rw [occurrences_cons, occurrences_cons, occurrencesOf, occurrencesOf, opened_eq ha, hf]
      refine List.rel_append ?_ (ihr c)
      simp only [keepsAll, Bool.true_and, if_true, Option.map_some, Option.getD_some]
      split
      · exact ihs _
      · exact .nil

/-! ## The same entries -/

/-- The same fields under the same condition. -/
def InlinedEntry (fragments : OrderedMap Fragment) (e e' : Entry) : Prop :=
  List.Forall₂ (InlinedNode fragments) e.nodes e'.nodes ∧ e'.conditional = e.conditional

/-- The same keys in the same order, with the same fields. -/
def InlinedMap (fragments : OrderedMap Fragment) (m m' : FieldMap) : Prop :=
  OrderedMap.InStep (InlinedEntry fragments) m m'

section Entries

variable {fragments : OrderedMap Fragment} {e e' d d' : Entry} {a a' b b' : FieldMap}

theorem InlinedEntry.fieldName (h : InlinedEntry fragments e e') : e'.fieldName = e.fieldName := by
  cases h.1 with
  | cons hfirst _ => rw [Entry.fieldName, Entry.fieldName, hfirst.1]

theorem flatMap_inlined {ns ns' : List FieldNode}
    (h : List.Forall₂ (InlinedNode fragments) ns ns') :
    Inlined fragments (ns.flatMap FieldNode.selections) (ns'.flatMap FieldNode.selections) := by
  induction h with
  | nil => exact .nil
  | cons hn _ ih => exact hn.2.append ih

/-- What is selected of the fields under a key is inlined too. -/
theorem InlinedEntry.selections (h : InlinedEntry fragments e e') :
    Inlined fragments e.selections e'.selections :=
  flatMap_inlined h.1

theorem InlinedEntry.join (h : InlinedEntry fragments e e') (hd : InlinedEntry fragments d d') :
    InlinedEntry fragments (e.join d) (e'.join d') := by
  refine ⟨?_, ?_⟩
  · rw [Entry.nodes_join, Entry.nodes_join]
    exact List.rel_append h.1 hd.1
  · show (e'.conditional && d'.conditional) = (e.conditional && d.conditional)
    rw [h.2, hd.2]

theorem InlinedMap.joined (h : InlinedMap fragments b b') (key : String)
    (he : InlinedEntry fragments e e') :
    InlinedEntry fragments (b.joined key e) (b'.joined key e') := by
  rw [FieldMap.joined, FieldMap.joined]
  rcases OrderedMap.InStep.get? h key with ⟨hx, hx'⟩ | ⟨x, x', hx, hx', hrel⟩
  · rw [hx, hx']
    exact he
  · rw [hx, hx']
    exact he.join hrel

theorem InlinedMap.merge (ha : InlinedMap fragments a a') (hb : InlinedMap fragments b b') :
    InlinedMap fragments (a.merge b) (a'.merge b') := by
  refine List.rel_append (List.rel_map ?_ ha) (List.rel_filter ?_ hb)
  · rintro p q ⟨hkey, he⟩
    refine ⟨hkey, ?_⟩
    show InlinedEntry fragments (b.joined p.1 p.2) (b'.joined q.1 q.2)
    rw [hkey]
    exact hb.joined p.1 he
  · rintro p q ⟨hkey, -⟩
    show (OrderedMap.get? p.1 a).isNone = true ↔ (OrderedMap.get? q.1 a').isNone = true
    rw [hkey]
    rcases OrderedMap.InStep.get? ha p.1 with ⟨hx, hx'⟩ | ⟨_, _, hx, hx', -⟩
    · rw [hx, hx']
    · rw [hx, hx', Option.isNone_some, Option.isNone_some]

theorem grouped_inlined {os os' : List Occurrence}
    (h : List.Forall₂ (InlinedOccurrence fragments) os os') :
    InlinedMap fragments (grouped os) (grouped os') := by
  induction h with
  | nil => exact .nil
  | @cons o o' _ _ ho _ ih =>
      have hkey : o'.node.key = o.node.key := congrArg FieldHead.key ho.1.1
      exact InlinedMap.merge (.cons ⟨hkey, .cons ho.1 .nil, ho.2⟩ .nil) ih

end Entries

/-- What is collected has the same keys with the same fields. -/
theorem collect_inlined (ha : Acyclic g.fragments) (others : OrderedMap Fragment)
    (h : Inlined g.fragments ss ss') :
    InlinedMap g.fragments (collect g.schema g.fragments parent false ss)
      (collect g.schema others parent false ss') := by
  have hcollect : collect g.schema others parent false ss'
      = grouped (occurrences { g with fragments := others } parent keepsAll false ss') :=
    collect_eq_grouped (g := { g with fragments := others }) false ss'
  rw [collect_eq_grouped, hcollect]
  exact grouped_inlined (occurrences_inlined ha others h false)

/-! ## The same types -/

/-- Whether an object still has to name its type depends on the first fields only. -/
theorem typenameMembers_inStep {R : Entry → Entry → Prop} {m m' : FieldMap}
    (h : OrderedMap.InStep R m m') (hname : ∀ e e', R e e' → e'.fieldName = e.fieldName)
    (typename : Bool) (parent : NamedType) :
    typenameMembers typename parent m = typenameMembers typename parent m' := by
  have hsame : ∀ e e' : Entry, R e e' →
      (e.fieldName == "__typename") = (e'.fieldName == "__typename") :=
    fun e e' he => by rw [hname e e' he]
  rw [typenameMembers, typenameMembers, OrderedMap.InStep.any_eq h hsame]

/-- **The type of an object is the same** once fragments are inlined, at any depth. -/
theorem objectType_inlined (ha : Acyclic g.fragments) (others : OrderedMap Fragment)
    (fuel : Nat) : ∀ {ss ss' : List Selection}, Inlined g.fragments ss ss' → ∀ typename parent,
      objectType g fuel typename ss parent
        = objectType { g with fragments := others } fuel typename ss' parent := by
  induction fuel with
  | zero => exact fun _ _ _ => rfl
  | succ fuel ih =>
      intro ss ss' h typename parent
      have hmap : InlinedMap g.fragments (collect g.schema g.fragments parent false ss)
          (collect g.schema others parent false ss') := collect_inlined ha others h
      have hmembers : (collect g.schema g.fragments parent false ss).mapM
            (fun p => keyMember g (objectType g fuel true) parent p.1 p.2)
          = (collect g.schema others parent false ss').mapM
              fun p => keyMember { g with fragments := others }
                (objectType { g with fragments := others } fuel true) parent p.1 p.2 := by
        refine OrderedMap.InStep.mapM_eq hmap fun key e e' he => ?_
        have hobject : objectType g fuel true e.selections
            = objectType { g with fragments := others } fuel true e'.selections :=
          funext fun t => ih he.selections true t
        simp only [keyMember, he.fieldName, he.2, hobject]
        rfl
      simp only [objectType, hmembers,
        typenameMembers_inStep hmap fun _ _ he => InlinedEntry.fieldName he]

/-- Without fragments there is no circle. -/
theorem acyclic_nil : Acyclic [] := by
  refine acyclic_of_lt (fun _ => 0) ?_
  rintro n m ⟨f, hf, _⟩
  cases hf

/-- With the fuel that is used on either side the type is the same. -/
theorem typeOfRoot_inlined (ha : Acyclic g.fragments) (others : OrderedMap Fragment)
    (h : Inlined g.fragments ss ss') (root : NamedType) :
    typeOfRoot { g with fragments := others } root ss' = typeOfRoot g root ss := by
  let bare : Setting := { g with fragments := [] }
  let fuel := depthBound g ss + depthBound { g with fragments := others } ss'
  obtain ⟨d, hd, hwithin⟩ := exists_within ha ss
  obtain ⟨d', hd', hwithin'⟩ := exists_within (g := bare) acyclic_nil ss'
  have hle : depthBound bare ss' ≤ depthBound { g with fragments := others } ss' := by
    show fieldCounts ss' + 0 + 1 ≤ fieldCounts ss' + _ + 1
    omega
  calc objectType { g with fragments := others }
          (depthBound { g with fragments := others } ss') false ss' root
      = objectType g (depthBound { g with fragments := others } ss') false ss root :=
        (objectType_inlined ha others _ h false root).symm
    _ = objectType bare (depthBound { g with fragments := others } ss') false ss' root :=
        objectType_inlined ha [] _ h false root
    _ = objectType bare fuel false ss' root :=
        objectType_fuel _ hwithin' (by omega) (by omega) false root
    _ = objectType g fuel false ss root := (objectType_inlined ha [] _ h false root).symm
    _ = objectType g (depthBound g ss) false ss root :=
        objectType_fuel _ hwithin (by omega) hd false root

/-- **Inlining fragments does not change the types of an operation.**  Where all spreads name
    fragments of the document and no fragment leads back to itself, the operation can be inlined,
    and however this is done no spread is left and the two types, and so their texts, are the same,
    in whatever document the operation then stands. -/
theorem operationStatements_inlined (s : Schema) (scalars : ScalarTypes) (d : Document)
    (o : Operation) (ha : Acyclic d.fragmentMap)
    (hfragments : ∀ p ∈ d.fragmentMap, KnownSpreads d.fragmentMap p.2.selections)
    (ho : KnownSpreads d.fragmentMap o.selections) :
    (∃ ss', Inlined d.fragmentMap o.selections ss')
      ∧ ∀ ss', Inlined d.fragmentMap o.selections ss' →
          Graphql.spreads ss' = []
          ∧ ∀ (d' : Document) (name : String),
              operationStatements (settingOf s scalars d') name { o with selections := ss' }
                = operationStatements (settingOf s scalars d) name o := by
  refine ⟨exists_inlined ha hfragments ho, fun ss' h => ⟨h.spreads, fun d' name => ?_⟩⟩
  have hroot : ∀ root, typeOfRoot (settingOf s scalars d') root ss'
      = typeOfRoot (settingOf s scalars d) root o.selections :=
    typeOfRoot_inlined (g := settingOf s scalars d) ha d'.fragmentMap h
  simp only [operationStatements, hroot]
  rfl

/-! ## A fragment that spreads another, spread under a condition -/

section Nested

open QueryTypings.Execution

/-- The operation `query Q { pair { ...Texts @include(if: $more) } }`. -/
def nestedQuery : Operation :=
  ⟨none, .query, some ⟨"Q", .first⟩, [], [],
    [.branch (bareField "pair") .first [.spread ⟨"Texts", .first⟩ [includeMore] .first]],
    .first, .first⟩

/-- The query, and the fragments `Texts`, with the field `x`, and `Last`, with the field `y`. -/
def nestedDocument : Document :=
  [.operation nestedQuery,
   .fragment (bareFragment "Texts" "Pair" [.leaf (bareField "x"), bareSpread "Last"]),
   .fragment (bareFragment "Last" "Pair" [.leaf (bareField "y")])]

theorem acyclic_nestedDocument : Acyclic nestedDocument.fragmentMap := by
  refine acyclic_of_lt (fun n => if n = "Texts" then 1 else 0) ?_
  rintro n m ⟨f, hf, hm⟩
  rcases List.mem_cons.mp (OrderedMap.mem_of_get? hf) with h | h
  · cases h
    obtain rfl := List.mem_singleton.mp hm
    decide
  · cases List.mem_singleton.mp h
    cases hm

/-- Both texts depend on the condition of the one spread. -/
def nestedStatements : List Statement :=
  [.exportType none "QQueryVariables" .emptyRecord,
   .exportType none "QQuery" (.inline (.object [.mk "pair" true (.orNull (.object
      [.mk "__typename" true (.literal "Pair"), .mk "x" true (.name "string"),
       .mk "y" true (.name "string")]))]))]

theorem operationStatements_inlined_nested :
    Acyclic nestedDocument.fragmentMap
      ∧ (∀ p ∈ nestedDocument.fragmentMap,
          KnownSpreads nestedDocument.fragmentMap p.2.selections)
      ∧ KnownSpreads nestedDocument.fragmentMap nestedQuery.selections
      ∧ ∃ ss', Inlined nestedDocument.fragmentMap nestedQuery.selections ss'
          ∧ Graphql.spreads ss' = []
          ∧ operationStatements (settingOf sharedKey.schema [] []) "Q"
              { nestedQuery with selections := ss' } = .ok nestedStatements := by
  have hfragments : ∀ p ∈ nestedDocument.fragmentMap,
      KnownSpreads nestedDocument.fragmentMap p.2.selections := by decide
  have hquery : KnownSpreads nestedDocument.fragmentMap nestedQuery.selections := by decide
  obtain ⟨⟨ss', hss⟩, hall⟩ := operationStatements_inlined sharedKey.schema [] nestedDocument
    nestedQuery acyclic_nestedDocument hfragments hquery
  obtain ⟨hspreads, hsame⟩ := hall ss' hss
  refine ⟨acyclic_nestedDocument, hfragments, hquery, ss', hss, hspreads, ?_⟩
  rw [hsame [] "Q"]
  rfl

end Nested

end QueryTypings.Shape
