/-
  The recursion over selections comes to an end.

  The recursion goes from the type of a field to the type of what is selected, from there to the
  objects it may be, from an object to the fields that are collected for it, and from each of these
  to its type again.  Neither the types nor the text of one selection set bound it: types refer to
  one another in circles, what is selected below a key is gathered from several places, and a spread
  leads out of the text at hand.

  1. **Calls** — `Calls g` says which call makes which others, with no bound on how many follow one
     another.

  2. **Every chain of calls ends** — collecting fields goes down in the ranks of fragments, and where
     the rank stays, in the size of the text (`finishes_fields`); a field type goes down in its
     wrappers (`finishes_output`); and an object goes down in the depth of what is selected
     (`finishes_object`).  Put together the calls are well-founded (`wellFounded_calls`).

  3. **The recursion itself** — `Recursion g` has the equations of the two functions, again with no
     bound.  The functions with a bound satisfy them (`recursion_of_bounded`), and by induction on
     calls nothing else does (`Recursion.agrees`): one case for each kind of call, and in each of
     them the calls of the relation are all that the equations ask for.

  4. **For a document** — no fragment and no operation is without a type for want of an end
     (`ends_fragmentStatement`, `ends_operationStatements`).
-/
import QueryTypings.Proofs.Execution.Agreement
import QueryTypings.Proofs.Shape.Depth
import QueryTypings.Declaration.Operations

namespace QueryTypings.Shape

open QueryTypings.Graphql QueryTypings.Schema QueryTypings.Typescript QueryTypings.Declaration

/-! ## Calls -/

/-- What the recursion is called for.  Whether a condition is in force and whether an object names
    its type are left out: no call depends on them. -/
inductive Call
  /-- The fields that selections contribute to an object. -/
  | fields (parent : NamedType) (ss : List Selection)
  /-- The type of an object with given selections. -/
  | object (parent : NamedType) (ss : List Selection)
  /-- The type for selections of a named type. -/
  | selected (t : NamedType) (ss : List Selection)
  /-- The type of a field with given selections below it. -/
  | output (t : TypeRef) (ss : List Selection)

/-- The second call makes the first. -/
inductive Calls (g : Setting) : Call → Call → Prop
  /-- The fields of an inline fragment whose condition holds. -/
  | inline {T : NamedType} {ss : List Selection} {c : Option Name} {ds : List Directive}
      {p o : Position} {inner : List Selection} :
      .inline c ds p o inner ∈ ss → (c.map fun n => applies g.schema T n.text).getD true = true →
      Calls g (.fields T inner) (.fields T ss)
  /-- The fields of a fragment whose condition holds, at every spread anew. -/
  | spread {T : NamedType} {ss : List Selection} {n : Name} {ds : List Directive} {p : Position}
      {f : Fragment} :
      .spread n ds p ∈ ss → OrderedMap.get? n.text g.fragments = some f →
      applies g.schema T f.condition.text = true →
      Calls g (.fields T f.selections) (.fields T ss)
  /-- The fields of an object. -/
  | fields {T : NamedType} {ss : List Selection} : Calls g (.fields T ss) (.object T ss)
  /-- The type of a field, with what is selected at all places that share its key. -/
  | field {T : NamedType} {ss : List Selection} {key : String} {e : Entry} {f : Field} :
      (key, e) ∈ collect g.schema g.fragments T false ss → e.fieldName ≠ "__typename" →
      T.field? e.fieldName = some f → Calls g (.output f.type e.selections) (.object T ss)
  /-- An object type is the type of its own objects. -/
  | itself {t : NamedType} {ss : List Selection} :
      t.isAbstract = false → Calls g (.object t ss) (.selected t ss)
  /-- An abstract type stands for its possible types. -/
  | possible {t U : NamedType} {ss : List Selection} :
      t.isAbstract = true → U ∈ g.schema.possibleTypes t →
      Calls g (.object U ss) (.selected t ss)
  | nonNull {t : TypeRef} {ss : List Selection} :
      Calls g (.output t ss) (.output (.nonNull t) ss)
  | list {t : TypeRef} {ss : List Selection} : Calls g (.output t ss) (.output (.list t) ss)
  | named {n : String} {t : NamedType} {ss : List Selection} :
      g.schema.type? n = some t → t.isComposite = true →
      Calls g (.selected t ss) (.output (.named n) ss)

variable {g : Setting} {rank : String → Nat} {ss : List Selection}

/-! ## Every chain of calls ends -/

theorem mem_spreads_of_spread {n : Name} {ds : List Directive} {p : Position}
    (h : .spread n ds p ∈ ss) : n.text ∈ spreads ss := by
  induction ss with
  | nil => cases h
  | cons x r ih =>
      rw [spreads, List.mem_append]
      rcases List.mem_cons.mp h with rfl | hr
      · exact Or.inl (List.mem_singleton.mpr rfl)
      · exact Or.inr (ih hr)

theorem spreads_subset_of_inline {c : Option Name} {ds : List Directive} {p o : Position}
    {inner : List Selection} (h : .inline c ds p o inner ∈ ss) : spreads inner ⊆ spreads ss := by
  induction ss with
  | nil => cases h
  | cons x r ih =>
      rw [spreads]
      rcases List.mem_cons.mp h with rfl | hr
      · exact List.subset_append_left _ _
      · exact List.Subset.trans (ih hr) (List.subset_append_right _ _)

theorem sizeOf_inline_lt {c : Option Name} {ds : List Directive} {p o : Position}
    {inner : List Selection} (h : .inline c ds p o inner ∈ ss) : sizeOf inner < sizeOf ss := by
  have hmem := List.sizeOf_lt_of_mem h
  have hinner : sizeOf inner < sizeOf (Selection.inline c ds p o inner) := by
    simp only [Selection.inline.sizeOf_spec]
    omega
  omega

/-- **Collecting fields ends.**  A spread leads to a fragment of lower rank, and an inline fragment
    to a smaller piece of the text that spreads nothing else: the order is that of the ranks, and
    among equal ranks that of the sizes. -/
theorem finishes_fields (hr : Ranks g.fragments rank) (T : NamedType) (bound : Nat) :
    ∀ ss, (∀ n ∈ spreads ss, rank n < bound) → Acc (Calls g) (.fields T ss) := by
  induction bound using Nat.strong_induction_on with
  | _ bound ihRank =>
      intro ss
      induction hsize : sizeOf ss using Nat.strong_induction_on generalizing ss with
      | _ size ihSize =>
          intro hss
          refine Acc.intro _ ?_
          intro callee hcall
          cases hcall with
          | @inline _ _ _ _ _ _ inner hmem _ =>
              have hlt : sizeOf inner < size := hsize ▸ sizeOf_inline_lt hmem
              refine ihSize (sizeOf inner) hlt inner rfl ?_
              intro n hn
              exact hss n (spreads_subset_of_inline hmem hn)
          | @spread _ _ n _ _ f hmem hf _ =>
              refine ihRank (rank n.text) (hss n.text (mem_spreads_of_spread hmem)) f.selections ?_
              intro m hm
              exact hr.lt ⟨f, hf, hm⟩

theorem finishes_selected (h : ∀ U, Acc (Calls g) (.object U ss)) (t : NamedType) :
    Acc (Calls g) (.selected t ss) := by
  refine Acc.intro _ ?_
  intro callee hcall
  cases hcall with
  | itself => exact h t
  | possible => exact h _

theorem finishes_output (h : ∀ U, Acc (Calls g) (.object U ss)) (t : TypeRef) :
    Acc (Calls g) (.output t ss) := by
  induction t with
  | named n =>
      refine Acc.intro _ ?_
      intro callee hcall
      cases hcall with
      | named => exact finishes_selected h _
  | list t ih =>
      refine Acc.intro _ ?_
      intro callee hcall
      cases hcall with
      | list => exact ih
  | nonNull t ih =>
      refine Acc.intro _ ?_
      intro callee hcall
      cases hcall with
      | nonNull => exact ih

/-- **Objects come to an end**, whichever types refer to one another: each object lies a level
    deeper in the selections than the one before. -/
theorem finishes_object (hr : Ranks g.fragments rank) (depth : Nat) :
    ∀ T ss, Within g depth ss → Acc (Calls g) (.object T ss) := by
  induction depth using Nat.strong_induction_on with
  | _ depth ih =>
      intro T ss hwithin
      refine Acc.intro _ ?_
      intro callee hcall
      cases hcall with
      | fields =>
          refine finishes_fields hr T (g.fragments.length + 1) ss ?_
          intro n _
          exact Nat.lt_succ_of_le (hr.le n)
      | @field _ _ _ e f he _ _ =>
          -- the selections of all fields under the key are as deep as the deepest of them
          obtain ⟨depth', hdepth, hdeeper⟩ := within_of_mem_collect hwithin he
          refine finishes_output ?_ f.type
          intro U
          exact ih depth' (by omega) U e.selections hdeeper

/-- **Without circles of fragments the calls are well-founded.** -/
theorem wellFounded_calls (h : Acyclic g.fragments) : WellFounded (Calls g) := by
  obtain ⟨rank, hr⟩ := exists_ranks h
  have hobject : ∀ T ss, Acc (Calls g) (.object T ss) := by
    intro T ss
    obtain ⟨depth, _, hwithin⟩ := exists_within h ss
    exact finishes_object hr depth T ss hwithin
  refine WellFounded.intro ?_
  intro call
  cases call with
  | fields T ss =>
      refine finishes_fields hr T (g.fragments.length + 1) ss ?_
      intro n _
      exact Nat.lt_succ_of_le (hr.le n)
  | object T ss => exact hobject T ss
  | selected t ss => exact finishes_selected (fun U => hobject U ss) t
  | output t ss => exact finishes_output (fun U => hobject U ss) t

/-! ## The recursion itself -/

/-- What one selection contributes to an object; `fields` gives what selections contribute. -/
def contribution (g : Setting) (T : NamedType) (fields : Bool → List Selection → FieldMap)
    (conditional : Bool) : Selection → FieldMap
  | .leaf f => [(f.key, ⟨⟨f, []⟩, [], conditional || hasCondition (.leaf f)⟩)]
  | .branch f o ss => [(f.key, ⟨⟨f, ss⟩, [], conditional || hasCondition (.branch f o ss)⟩)]
  | .inline c ds p o ss =>
      if (c.map fun n => applies g.schema T n.text).getD true then
        fields (conditional || hasCondition (.inline c ds p o ss)) ss
      else []
  | .spread n ds p =>
      match OrderedMap.get? n.text g.fragments with
      | none => []
      | some f =>
          if applies g.schema T f.condition.text then
            fields (conditional || hasCondition (.spread n ds p)) f.selections
          else []

/-- The recursion, with no bound on its depth: `fields` collects what selections contribute to an
    object, and `object` is the type of an object. -/
structure Recursion (g : Setting) (fields : NamedType → Bool → List Selection → FieldMap)
    (object : Bool → List Selection → NamedType → Except Fault Ty) : Prop where
  fields_eq : ∀ T conditional ss,
    fields T conditional ss
      = ss.foldr (fun x rest => (contribution g T (fields T) conditional x).merge rest) []
  object_eq : ∀ typename ss T,
    object typename ss T = do
      let members ← (fields T false ss).mapM fun (key, e) => keyMember g (object true) T key e
      return .object (typenameMembers typename T (fields T false ss) ++ members)

/-- The type of an object, with the bound that its selections call for. -/
def boundedObject (g : Setting) (typename : Bool) (ss : List Selection) (T : NamedType) :
    Except Fault Ty :=
  objectType g (depthBound g ss) typename ss T

theorem collectFragment_eq_collect (h : Acyclic g.fragments) (T : NamedType) (n : String)
    (conditional : Bool) :
    collectFragment g.schema g.fragments T g.fragments.length n conditional
      = match OrderedMap.get? n g.fragments with
        | none => []
        | some f =>
            if applies g.schema T f.condition.text then
              collect g.schema g.fragments T conditional f.selections
            else [] := by
  rw [collectFragment_eq_grouped]
  have hopened := @opened_eq g T keepsAll h n conditional
  rw [opened] at hopened
  rw [hopened]
  cases OrderedMap.get? n g.fragments with
  | none => rfl
  | some f =>
      dsimp only
      rw [collect_eq_grouped]
      split <;> rfl

/-- What one selection contributes, by what selections contribute. -/
theorem collectSelection_eq_contribution (h : Acyclic g.fragments) (T : NamedType)
    (conditional : Bool) (x : Selection) :
    collectSelection g.schema T (collectFragment g.schema g.fragments T g.fragments.length)
        conditional x
      = contribution g T (collect g.schema g.fragments T) conditional x := by
  cases x with
  | leaf f => rfl
  | branch f o ss => rfl
  | inline c ds p o ss => rfl
  | spread n ds p => exact collectFragment_eq_collect h T n.text _

theorem collect_eq_foldr (h : Acyclic g.fragments) (T : NamedType) (conditional : Bool)
    (ss : List Selection) :
    collect g.schema g.fragments T conditional ss
      = ss.foldr (fun x rest =>
          (contribution g T (collect g.schema g.fragments T) conditional x).merge rest) [] := by
  induction ss with
  | nil => rfl
  | cons x r ih =>
      rw [List.foldr_cons, ← ih, ← collectSelection_eq_contribution h]
      rfl

/-- Above the depth of the selections any bound is as good as their own. -/
theorem objectType_eq_bounded (h : Acyclic g.fragments) {depth fuel : Nat}
    (hwithin : Within g depth ss) (hlt : depth < fuel) (typename : Bool) (T : NamedType) :
    objectType g fuel typename ss T = boundedObject g typename ss T := by
  obtain ⟨depth', hlt', hwithin'⟩ := exists_within h ss
  -- the two depths need not be the same: both bounds are compared with their sum
  calc objectType g fuel typename ss T
      = objectType g (fuel + depthBound g ss) typename ss T :=
        objectType_fuel fuel hwithin hlt (by omega) typename T
    _ = objectType g (depthBound g ss) typename ss T :=
        objectType_fuel _ hwithin' (by omega) hlt' typename T

/-- **The functions with a bound satisfy the equations without one.** -/
theorem recursion_of_bounded (h : Acyclic g.fragments) :
    Recursion g (collect g.schema g.fragments) (boundedObject g) := by
  constructor
  · intro T conditional ss
    exact collect_eq_foldr h T conditional ss
  · intro typename ss T
    obtain ⟨depth, hlt, hwithin⟩ := exists_within h ss
    obtain ⟨fuel, hfuel⟩ : ∃ fuel, depthBound g ss = fuel + 1 :=
      ⟨depthBound g ss - 1, by omega⟩
    have hmembers : ∀ p ∈ collect g.schema g.fragments T false ss,
        keyMember g (objectType g fuel true) T p.1 p.2
          = keyMember g (boundedObject g true) T p.1 p.2 := by
      intro p hp
      obtain ⟨depth', hdepth, hdeeper⟩ := within_of_mem_collect hwithin hp
      refine keyMember_congr rfl rfl (funext fun U => ?_) T p.1
      exact objectType_eq_bounded h hdeeper (by omega) true U
    rw [boundedObject, hfuel, objectType]
    simp only [mapM_congr hmembers]

section Unique

variable {fields : NamedType → Bool → List Selection → FieldMap}
  {object object' : Bool → List Selection → NamedType → Except Fault Ty}

/-- At a call the recursion gives what the functions with a bound give. -/
def Agrees (g : Setting) (fields : NamedType → Bool → List Selection → FieldMap)
    (object : Bool → List Selection → NamedType → Except Fault Ty) : Call → Prop
  | .fields T ss =>
      ∀ conditional, fields T conditional ss = collect g.schema g.fragments T conditional ss
  | .object T ss => ∀ typename, object typename ss T = boundedObject g typename ss T
  | .selected t ss =>
      selectionType g (object true ss) t = selectionType g (boundedObject g true ss) t
  | .output t ss =>
      wrapped g.schema (selectionType g (object true ss)) t
        = wrapped g.schema (selectionType g (boundedObject g true ss)) t

/-- A selection asks for the fields of inline fragments and spreads only. -/
theorem contribution_of_calls {T : NamedType} {x : Selection} (hx : x ∈ ss)
    (h : ∀ inner, Calls g (.fields T inner) (.fields T ss) →
      Agrees g fields object (.fields T inner)) (conditional : Bool) :
    contribution g T (fields T) conditional x
      = contribution g T (collect g.schema g.fragments T) conditional x := by
  cases x with
  | leaf f => rfl
  | branch f o ss => rfl
  | inline c ds p o inner =>
      rw [contribution, contribution]
      split
      case isTrue happ => exact h inner (.inline hx happ) _
      case isFalse => rfl
  | spread n ds p =>
      rw [contribution, contribution]
      cases hf : OrderedMap.get? n.text g.fragments with
      | none => rfl
      | some f =>
          dsimp only
          split
          case isTrue happ => exact h f.selections (.spread hx hf happ) _
          case isFalse => rfl

/-- A member asks for the type of its field only. -/
theorem keyMember_of_calls {T : NamedType} {key : String} {e : Entry}
    (he : (key, e) ∈ collect g.schema g.fragments T false ss)
    (h : ∀ t ss', Calls g (.output t ss') (.object T ss) →
      Agrees g fields object (.output t ss')) :
    keyMember g (object true) T key e = keyMember g (boundedObject g true) T key e := by
  rw [keyMember, keyMember]
  split
  case isTrue => rfl
  case isFalse hname =>
    cases hf : T.field? e.fieldName with
    | none => rfl
    | some f =>
        have htype : wrapped g.schema (selectionType g (object true e.selections)) f.type
            = wrapped g.schema (selectionType g (boundedObject g true e.selections)) f.type :=
          h f.type e.selections (.field he hname hf)
        simp only [htype]

/-- A named type asks for the objects that it stands for only. -/
theorem selectionType_of_calls {t : NamedType}
    (h : ∀ U, Calls g (.object U ss) (.selected t ss) → Agrees g fields object (.object U ss)) :
    selectionType g (object true ss) t = selectionType g (boundedObject g true ss) t := by
  have hpossible : t.isAbstract = true →
      (g.schema.possibleTypes t).mapM (object true ss)
        = (g.schema.possibleTypes t).mapM (boundedObject g true ss) := by
    intro habs
    exact mapM_congr fun U hU => h U (.possible habs hU) true
  rw [selectionType, selectionType]
  cases hparts : t.parts with
  | scalar => rfl
  | enum _ => rfl
  | input _ _ => rfl
  | object _ _ =>
      have hobject : t.isAbstract = false := by
        simp [NamedType.isAbstract, NamedType.isInterface, NamedType.isUnion, hparts]
      exact h t (.itself hobject) true
  | interface _ _ =>
      have habs : t.isAbstract = true := by
        simp [NamedType.isAbstract, NamedType.isInterface, hparts]
      simp only [hpossible habs]
  | union _ =>
      have habs : t.isAbstract = true := by
        simp [NamedType.isAbstract, NamedType.isUnion, hparts]
      simp only [hpossible habs]

/-- A type without subfields asks for nothing. -/
theorem selectionType_of_not_composite {t : NamedType} (h : t.isComposite = false)
    (object object' : NamedType → Except Fault Ty) :
    selectionType g object t = selectionType g object' t := by
  rw [selectionType, selectionType]
  cases hparts : t.parts with
  | scalar => rfl
  | enum _ => rfl
  | input _ _ => rfl
  | object _ _ => simp [NamedType.isComposite, NamedType.isObject, hparts] at h
  | interface _ _ =>
      simp [NamedType.isComposite, NamedType.isAbstract, NamedType.isInterface, hparts] at h
  | union _ => simp [NamedType.isComposite, NamedType.isAbstract, NamedType.isUnion, hparts] at h

/-- A field type asks for what is inside its wrappers only. -/
theorem wrapped_of_calls {t : TypeRef}
    (h : ∀ call, Calls g call (.output t ss) → Agrees g fields object call) :
    Agrees g fields object (.output t ss) := by
  cases t with
  | nonNull t => exact h (.output t ss) .nonNull
  | list t =>
      have hitem := h (.output t ss) .list
      rw [Agrees] at hitem ⊢
      rw [wrapped, wrapped, hitem]
  | named n =>
      rw [Agrees, wrapped, wrapped]
      cases ht : g.schema.type? n with
      | none => rfl
      | some t =>
          cases hcomp : t.isComposite with
          | true => exact h _ (.named ht hcomp)
          | false => exact selectionType_of_not_composite hcomp _ _

/-- **There is no other solution.**  The induction is on calls: in each case the equations ask for
    nothing but what the call calls for. -/
theorem Recursion.agrees (hrec : Recursion g fields object) (h : Acyclic g.fragments)
    (call : Call) : Agrees g fields object call := by
  have hbounded := recursion_of_bounded h
  induction call using (wellFounded_calls h).induction with
  | _ call ih =>
      cases call with
      | fields T ss =>
          intro conditional
          rw [hrec.fields_eq, hbounded.fields_eq]
          refine List.foldr_ext _ _ _ fun x hx rest => ?_
          rw [contribution_of_calls hx (fun inner => ih (.fields T inner)) conditional]
      | object T ss =>
          intro typename
          have hfields : fields T false ss = collect g.schema g.fragments T false ss :=
            ih (.fields T ss) .fields false
          have hmembers : ∀ p ∈ collect g.schema g.fragments T false ss,
              keyMember g (object true) T p.1 p.2 = keyMember g (boundedObject g true) T p.1 p.2 := by
            intro p hp
            exact keyMember_of_calls hp fun t ss' => ih (.output t ss')
          rw [hrec.object_eq, hbounded.object_eq, hfields]
          simp only [mapM_congr hmembers]
      | selected t ss => exact selectionType_of_calls fun U => ih (.object U ss)
      | output t ss => exact wrapped_of_calls ih

end Unique

/-! ## For a document -/

theorem ends_boundedObject (h : Acyclic g.fragments) (typename : Bool) (ss : List Selection)
    (T : NamedType) : Ends (boundedObject g typename ss T) := by
  obtain ⟨depth, hlt, hwithin⟩ := exists_within h ss
  exact objectType_ends _ hwithin hlt typename T

theorem ends_fragmentStatement (h : Acyclic g.fragments) (f : Fragment) :
    Ends (fragmentStatement g f) := by
  rw [fragmentStatement]
  cases g.schema.type? f.condition.text with
  | none => exact fun h => by cases h
  | some t =>
      refine ends_bind ?_ fun type => ends_ok _
      exact ends_selectionType (ends_boundedObject h true f.selections) t

theorem ends_inputNamed (scalars : ScalarTypes) (t : NamedType) :
    Ends (inputNamed scalars t) := by
  rw [inputNamed]
  split <;> exact ends_ok _

theorem ends_variablesBody (g : Setting) (o : Operation) : Ends (variablesBody g o) := by
  rw [variablesBody]
  split
  · exact ends_ok _
  · refine ends_bind (ends_mapM fun d _ => ?_) fun members => ends_ok _
    exact ends_bind (ends_wrapped (ends_inputNamed g.scalars) _) fun type => ends_ok _

theorem ends_operationStatements (h : Acyclic g.fragments) (name : String) (o : Operation) :
    Ends (operationStatements g name o) := by
  rw [operationStatements]
  cases (g.schema.root? o.kind).bind g.schema.type? with
  | none => exact fun h => by cases h
  | some root =>
      refine ends_bind (ends_boundedObject h false o.selections root) fun result => ?_
      exact ends_bind (ends_variablesBody g o) fun input => ends_ok _

/-- **The recursion over selections terminates.**  In every schema, and for every document whose
    fragments do not lead back to themselves, every chain of calls comes to an end.  So the
    recursion without a bound has one solution, and it is what the functions with a bound give; and
    the type of no fragment and no operation is missing for want of an end. -/
theorem shape_recursion_terminates (s : Schema) (scalars : ScalarTypes) (d : Document)
    (h : Acyclic d.fragmentMap) :
    WellFounded (Calls (settingOf s scalars d))
      ∧ (∀ fields object,
          Recursion (settingOf s scalars d) fields object ↔
            fields = collect s d.fragmentMap ∧ object = boundedObject (settingOf s scalars d))
      ∧ (∀ f : Fragment, fragmentStatement (settingOf s scalars d) f ≠ .error .endless)
      ∧ ∀ (name : String) (o : Operation),
          operationStatements (settingOf s scalars d) name o ≠ .error .endless := by
  have hacyclic : Acyclic (settingOf s scalars d).fragments := h
  refine ⟨wellFounded_calls hacyclic, ?_, ends_fragmentStatement hacyclic,
    ends_operationStatements hacyclic⟩
  intro fields object
  constructor
  · intro hrec
    constructor
    · funext T conditional ss
      exact hrec.agrees hacyclic (.fields T ss) conditional
    · funext typename ss T
      exact hrec.agrees hacyclic (.object T ss) typename
  · rintro ⟨rfl, rfl⟩
    exact recursion_of_bounded hacyclic

/-! ## A type that refers to itself, and fragments spread inside one another -/

section Friends

open QueryTypings.Execution

/-- The schema in which a user has a friend, who is a user. -/
def friendsSchema : Schema := { overlapping.schema with query := some "User" }

/-- The operation `query Q { friend { ...Both friend { ...Ids } } }`. -/
def friendsQuery : Operation :=
  ⟨none, .query, some ⟨"Q", .first⟩, [], [],
    [.branch (bareField "friend") .first
      [bareSpread "Both", .branch (bareField "friend") .first [bareSpread "Ids"]]],
    .first, .first⟩

/-- The query, and the fragments `Both`, which spreads `Ids` twice, and `Ids`. -/
def friendsDocument : Document :=
  .operation friendsQuery :: overlapping.fragments.map fun p => .fragment p.2

/-- The type of a user of whom the id and the friend are asked for. -/
def userShape (friend : Ty) : Ty :=
  .object [.mk "__typename" true (.literal "User"), .mk "id" false (.name "string"),
    .mk "friend" true (.orNull friend)]

/-- The type of what is asked for: three friends in a row, and of the last one the id. -/
def friendsShape : Ty :=
  .object [.mk "friend" true (.orNull (userShape (userShape
    (.object [.mk "__typename" true (.literal "User"), .mk "id" false (.name "string")]))))]

theorem acyclic_friendsDocument : Acyclic friendsDocument.fragmentMap := acyclic_overlapping

theorem shape_recursion_terminates_friends :
    Acyclic friendsDocument.fragmentMap
      ∧ WellFounded (Calls (settingOf friendsSchema [] friendsDocument))
      ∧ (∀ fields object, Recursion (settingOf friendsSchema [] friendsDocument) fields object →
          object false friendsQuery.selections userType = .ok friendsShape)
      ∧ operationStatements (settingOf friendsSchema [] friendsDocument) "Q" friendsQuery
          = .ok [.exportType none "QQueryVariables" .emptyRecord,
              .exportType none "QQuery" (.inline friendsShape)] := by
  obtain ⟨hwf, hrecursion, -, -⟩ :=
    shape_recursion_terminates friendsSchema [] friendsDocument acyclic_friendsDocument
  refine ⟨acyclic_friendsDocument, hwf, ?_, rfl⟩
  intro fields object hrec
  obtain ⟨-, rfl⟩ := (hrecursion fields object).mp hrec
  rfl

end Friends

end QueryTypings.Shape
