/-
  Documents for which there is a declaration.

  1. **Standing** — a field stands in selections of a type: among them, or in the inline fragments
     and the spreads among them.  It is selected of the type of the nearest condition around it
     (`Stands`).

  2. **Meeting** — a field that is met for an object is selected of a type to which the object
     belongs (`met_of_mem_fieldsMet`), for no condition on the way to it was left that does not
     apply.

  3. **Selections** — a selection can be made of values of a type if the fields in it are fields of
     the types of which they are selected, with a selection set where their own type is composite
     and without one where it is a leaf (`Selectable`).

  4. **Promises** — what is known of a document that was checked (`Guaranteed`).

  5. **Objects** — fields are checked against the type of the nearest condition around them, and
     looked up in every object for which they are met.  The invariant that relates the two: every
     selection for an object can be made of values of some type to which the object belongs
     (`Answerable`).  It holds for the selections below a field of an object if it holds for the
     object (`Answerable.inside`), so the type of an object never fails (`exists_objectType_of`).

  6. **Documents** — so there are statements for all fragments and operations
     (`exists_documentStatements`).
-/
import QueryTypings.Proofs.Execution.Level
import QueryTypings.Proofs.Exported.SelfContained
import QueryTypings.Proofs.Schema.Consistency
import QueryTypings.Proofs.Shape.Depth
import QueryTypings.Declaration.Operations

namespace QueryTypings.Shape

open QueryTypings.Graphql QueryTypings.Schema

/-! ## Standing -/

/-- The field that a selection is, and what is selected of it. -/
def node? : Selection → Option FieldNode
  | .leaf f => some ⟨f, []⟩
  | .branch f _ ss => some ⟨f, ss⟩
  | .inline _ _ _ _ _ => none
  | .spread _ _ _ => none

/-- In selections of the type `P` stands the field `x`, selected of the type `Q`. -/
inductive Stands (g : Setting) : NamedType → List Selection → NamedType → Selection → Prop
  | leaf {P : NamedType} {ss : List Selection} {f : FieldHead} :
      .leaf f ∈ ss → Stands g P ss P (.leaf f)
  | branch {P : NamedType} {ss sub : List Selection} {f : FieldHead} {o : Position} :
      .branch f o sub ∈ ss → Stands g P ss P (.branch f o sub)
  | unconditional {P Q : NamedType} {ss sub : List Selection} {x : Selection}
      {ds : List Directive} {p o : Position} :
      .inline none ds p o sub ∈ ss → Stands g P sub Q x → Stands g P ss Q x
  | conditional {P P' Q : NamedType} {ss sub : List Selection} {x : Selection} {c : Name}
      {ds : List Directive} {p o : Position} :
      .inline (some c) ds p o sub ∈ ss → g.schema.type? c.text = some P' → Stands g P' sub Q x →
      Stands g P ss Q x
  | spread {P P' Q : NamedType} {ss : List Selection} {x : Selection} {m : Name}
      {ds : List Directive} {p : Position} {f : Fragment} :
      .spread m ds p ∈ ss → OrderedMap.get? m.text g.fragments = some f →
      g.schema.type? f.condition.text = some P' → Stands g P' f.selections Q x → Stands g P ss Q x

/-! ## Meeting -/

/-- A field stands in selections of the type `P` so that it is met for objects of the type `T`. -/
def Met (g : Setting) (T P : NamedType) (ss : List Selection) (n : FieldNode) : Prop :=
  ∃ Q x, Stands g P ss Q x ∧ node? x = some n ∧ T.Belongs Q ∧ Q ∈ g.schema.types

section Occurrences

variable {g : Setting} {T : NamedType} {keeps : Selection → Bool}
  {expand : String → Bool → List Occurrence}

/-- What a fragment leads to is met in its selections. -/
def MetInFragment (g : Setting) (T : NamedType) (m : String) (n : FieldNode) : Prop :=
  ∃ f P, OrderedMap.get? m g.fragments = some f ∧ g.schema.type? f.condition.text = some P
    ∧ Met g T P f.selections n

mutual

theorem met_of_mem_occurrencesOf (hexpand : ∀ m c, ∀ o ∈ expand m c, MetInFragment g T m o.node)
    (c : Bool) : ∀ (x : Selection) {P : NamedType} {ss : List Selection}, x ∈ ss →
      T.Belongs P → P ∈ g.schema.types →
      ∀ o ∈ occurrencesOf g T keeps expand c x, Met g T P ss o.node
  | .leaf f, P, ss, hx, hT, hP, o, ho => by
      rw [occurrencesOf] at ho
      split at ho
      · rw [List.mem_singleton.mp ho]
        exact ⟨P, _, .leaf hx, rfl, hT, hP⟩
      · cases ho
  | .branch f op sub, P, ss, hx, hT, hP, o, ho => by
      rw [occurrencesOf] at ho
      split at ho
      · rw [List.mem_singleton.mp ho]
        exact ⟨P, _, .branch hx, rfl, hT, hP⟩
      · cases ho
  | .inline none ds p op sub, P, ss, hx, hT, hP, o, ho => by
      rw [occurrencesOf] at ho
      split at ho
      · obtain ⟨Q, y, hy, hrest⟩ :=
          met_of_mem_occurrencesIn hexpand _ sub (fun _ h => h) hT hP o ho
        exact ⟨Q, y, .unconditional hx hy, hrest⟩
      · cases ho
  | .inline (some n) ds p op sub, P, ss, hx, hT, hP, o, ho => by
      rw [occurrencesOf] at ho
      split at ho
      · rename_i hkeep
        obtain ⟨P', hP', hT'⟩ := applies_iff.mp (Bool.and_eq_true_iff.mp hkeep).2
        obtain ⟨Q, y, hy, hrest⟩ := met_of_mem_occurrencesIn hexpand _ sub (fun _ h => h) hT'
          (mem_types_of_type? hP').1 o ho
        exact ⟨Q, y, .conditional hx hP' hy, hrest⟩
      · cases ho
  | .spread m ds p, P, ss, hx, _, _, o, ho => by
      rw [occurrencesOf] at ho
      split at ho
      · obtain ⟨f, P', hf, hP', Q, y, hy, hrest⟩ := hexpand _ _ o ho
        exact ⟨Q, y, .spread hx hf hP' hy, hrest⟩
      · cases ho

theorem met_of_mem_occurrencesIn (hexpand : ∀ m c, ∀ o ∈ expand m c, MetInFragment g T m o.node)
    (c : Bool) : ∀ (rest : List Selection) {P : NamedType} {ss : List Selection},
      (∀ x ∈ rest, x ∈ ss) → T.Belongs P → P ∈ g.schema.types →
      ∀ o ∈ occurrencesIn g T keeps expand c rest, Met g T P ss o.node
  | [], _, _, _, _, _, o, ho => absurd ho List.not_mem_nil
  | x :: r, P, ss, hss, hT, hP, o, ho => by
      rw [occurrencesIn] at ho
      rcases List.mem_append.mp ho with ho | ho
      · exact met_of_mem_occurrencesOf hexpand c x (hss x List.mem_cons_self) hT hP o ho
      · exact met_of_mem_occurrencesIn hexpand c r (fun y hy => hss y (List.mem_cons_of_mem _ hy))
          hT hP o ho

end

theorem metInFragment_of_mem (fuel : Nat) (m : String) (c : Bool) :
    ∀ o ∈ occurrencesOfFragment g T keeps fuel m c, MetInFragment g T m o.node := by
  induction fuel generalizing m c with
  | zero => exact fun o ho => absurd ho List.not_mem_nil
  | succ fuel ih =>
      intro o ho
      rw [occurrencesOfFragment] at ho
      split at ho
      · cases ho
      · rename_i f hf
        split at ho
        · rename_i happlies
          obtain ⟨P, hP, hT⟩ := applies_iff.mp happlies
          exact ⟨f, P, hf, hP, met_of_mem_occurrencesIn ih c f.selections (fun _ h => h) hT
            (mem_types_of_type? hP).1 o ho⟩
        · cases ho

/-- **What is met for an object is selected of a type to which it belongs.** -/
theorem met_of_mem_fieldsMet {P : NamedType} {ss : List Selection} {n : FieldNode}
    (hT : T.Belongs P) (hP : P ∈ g.schema.types) (hn : n ∈ fieldsMet g T keeps ss) :
    Met g T P ss n := by
  obtain ⟨o, ho, rfl⟩ := List.mem_map.mp hn
  exact met_of_mem_occurrencesIn (metInFragment_of_mem _) false ss (fun _ h => h) hT hP o ho

end Occurrences

end QueryTypings.Shape

namespace QueryTypings.Declaration

open QueryTypings.Graphql QueryTypings.Schema QueryTypings.Shape QueryTypings.Typescript
  QueryTypings.Execution QueryTypings.Check QueryTypings.Exported

/-! ## Selections -/

/-- A selection can be made of values of a type; `known` are the fragments that may be spread. -/
inductive Selectable (s : Schema) (known : String → Prop) : NamedType → Selection → Prop
  | typename {P : NamedType} {f : FieldHead} :
      f.name.text = "__typename" → Selectable s known P (.leaf f)
  | leaf {P t : NamedType} {f : FieldHead} {d : Field} :
      P.field? f.name.text = some d → s.baseType? d.type = some t → t.isLeaf = true →
      Selectable s known P (.leaf f)
  | branch {P t : NamedType} {f : FieldHead} {d : Field} {o : Position} {ss : List Selection} :
      P.field? f.name.text = some d → s.baseType? d.type = some t → t.isComposite = true →
      (∀ x ∈ ss, Selectable s known t x) → Selectable s known P (.branch f o ss)
  | unconditional {P : NamedType} {ds : List Directive} {p o : Position} {ss : List Selection} :
      (∀ x ∈ ss, Selectable s known P x) → Selectable s known P (.inline none ds p o ss)
  | conditional {P t : NamedType} {c : Name} {ds : List Directive} {p o : Position}
      {ss : List Selection} :
      s.type? c.text = some t → t.isComposite = true → (∀ x ∈ ss, Selectable s known t x) →
      Selectable s known P (.inline (some c) ds p o ss)
  | spread {P : NamedType} {n : Name} {ds : List Directive} {p : Position} :
      known n.text → Selectable s known P (.spread n ds p)

variable {s : Schema} {known : String → Prop} {g : Setting} {P Q T U : NamedType}
  {ss : List Selection}

/-- A field that can be selected is `__typename`, or one of the type's own. -/
theorem Selectable.field {x : Selection} {n : FieldNode} (h : Selectable s known Q x)
    (hn : node? x = some n) : n.head.name.text = "__typename"
      ∨ ∃ d t, Q.field? n.head.name.text = some d ∧ s.baseType? d.type = some t
        ∧ ∀ y ∈ n.selections, Selectable s known t y := by
  cases h with
  | typename hname =>
      cases hn
      exact Or.inl hname
  | leaf hd ht =>
      cases hn
      exact Or.inr ⟨_, _, hd, ht, fun y hy => (by cases hy)⟩
  | branch hd ht _ hss =>
      cases hn
      exact Or.inr ⟨_, _, hd, ht, hss⟩
  | unconditional => cases hn
  | conditional => cases hn
  | spread => cases hn

/-- What can be selected if some fragments are known can be if more are. -/
theorem Selectable.imp {known' : String → Prop} {x : Selection}
    (h : Selectable s known T x) (himp : ∀ k, known k → known' k) : Selectable s known' T x := by
  induction h with
  | typename hname => exact .typename hname
  | leaf hd ht hleaf => exact .leaf hd ht hleaf
  | branch hd ht hcomposite _ ih => exact .branch hd ht hcomposite ih
  | unconditional _ ih => exact .unconditional ih
  | conditional ht hcomposite _ ih => exact .conditional ht hcomposite ih
  | spread hknown => exact .spread (himp _ hknown)

/-- In every fragment selections can be made of values of its type. -/
def SelectableFragments (g : Setting) (known : String → Prop) : Prop :=
  ∀ n f, OrderedMap.get? n g.fragments = some f → ∀ P, g.schema.type? f.condition.text = some P →
    ∀ x ∈ f.selections, Selectable g.schema known P x

/-- What stands in selections that can be made can itself be selected. -/
theorem selectable_of_stands (hg : SelectableFragments g known) {x : Selection}
    (hx : Stands g P ss Q x) (hss : ∀ y ∈ ss, Selectable g.schema known P y) :
    Selectable g.schema known Q x := by
  induction hx with
  | leaf hmem => exact hss _ hmem
  | branch hmem => exact hss _ hmem
  | unconditional hmem _ ih =>
      cases hss _ hmem with
      | unconditional h => exact ih h
  | conditional hmem hP' _ ih =>
      cases hss _ hmem with
      | conditional ht _ h => exact ih (Option.some.inj (hP'.symm.trans ht) ▸ h)
  | spread _ hf hP' _ ih => exact ih (hg _ _ hf _ hP')

/-! ## Promises -/

/-- What is known of a document that was checked: its selections can be made of values of the types
    that the schema has, all fragments are known, bear different names and do not lead back to
    themselves, the types of variables are known, and fields of one object that share a key are the
    same field. -/
structure Guaranteed (s : Schema) (d : Document) : Prop where
  roots : ∀ p ∈ d.namedOperations, ∃ root, (s.root? p.2.kind).bind s.type? = some root
    ∧ ∀ x ∈ p.2.selections, Selectable s (· ∈ fragmentNames d) root x
  inputs : ∀ p ∈ d.namedOperations, ∀ v ∈ p.2.variableDefinitions,
    (s.baseType? (.ofNode v.type)).isSome
  conditions : ∀ f ∈ d.fragments, ∃ t, s.type? f.condition.text = some t ∧ t.isComposite = true
    ∧ ∀ x ∈ f.selections, Selectable s (· ∈ fragmentNames d) t x
  names : (fragmentNames d).Nodup
  acyclic : Acyclic d.fragmentMap
  sameInOperations : ∀ p ∈ d.namedOperations, ∀ root,
    (s.root? p.2.kind).bind s.type? = some root →
    ∀ scalars, Unambiguous (settingOf s scalars d) root p.2.selections
  sameInFragments : ∀ f ∈ d.fragments, ∀ t, s.type? f.condition.text = some t →
    ∀ T ∈ objectsOf s t, ∀ scalars, Unambiguous (settingOf s scalars d) T f.selections

/-! ## Objects -/

/-- Every selection can be made of values of a type to which the object belongs. -/
def Answerable (g : Setting) (known : String → Prop) (T : NamedType) (ss : List Selection) : Prop :=
  ∀ x ∈ ss, ∃ P ∈ g.schema.types, T.Belongs P ∧ Selectable g.schema known P x

/-- A field that is met for an object is `__typename`, or one of a type to which it belongs. -/
theorem Answerable.met (hg : SelectableFragments g known) (h : Answerable g known T ss)
    {n : FieldNode} (hn : n ∈ fieldsMet g T keepsAll ss) : n.head.name.text = "__typename"
      ∨ ∃ Q ∈ g.schema.types, T.Belongs Q ∧ ∃ d t, Q.field? n.head.name.text = some d
        ∧ g.schema.baseType? d.type = some t
        ∧ ∀ y ∈ n.selections, Selectable g.schema known t y := by
  rw [← List.flatMap_singleton' ss, fieldsMet_flatMap] at hn
  obtain ⟨x, hx, hn⟩ := List.mem_flatMap.mp hn
  obtain ⟨P, hP, hT, hselectable⟩ := h x hx
  obtain ⟨Q, y, hy, hnode, hTQ, hQ⟩ := met_of_mem_fieldsMet hT hP hn
  have hss : ∀ z ∈ [x], Selectable g.schema known P z := by
    intro z hz
    exact List.mem_singleton.mp hz ▸ hselectable
  have hstands : Selectable g.schema known Q y := selectable_of_stands hg hy hss
  rcases hstands.field hnode with hname | hown
  · exact Or.inl hname
  · exact Or.inr ⟨Q, hQ, hTQ, hown⟩

/-- **Below a field of an object** selections can again be made of the values that stand there. -/
theorem Answerable.inside (hs : Consistent g.schema) (hg : SelectableFragments g known)
    (hT : T ∈ g.schema.types) (h : Answerable g known T ss) (hu : Unambiguous g T ss) {key : String}
    {e : Shape.Entry} {f : Field} {t : NamedType}
    (he : (key, e) ∈ collect g.schema g.fragments T false ss) (hname : e.fieldName ≠ "__typename")
    (hf : T.field? e.fieldName = some f) (ht : g.schema.baseType? f.type = some t)
    (hU : U ∈ objectsOf g.schema t) : Answerable g known U e.selections := by
  intro x hx
  obtain ⟨n, hn, hx⟩ := List.mem_flatMap.mp hx
  obtain ⟨hfirst, hfirstKey⟩ :=
    (mem_fieldsMet_of_mem_entry he).mp (List.mem_cons_self (l := e.others))
  obtain ⟨hmet, hkey⟩ := (mem_fieldsMet_of_mem_entry he).mp hn
  -- all fields under the key are the field of which the member is made
  have hsame : n.head.name.text = e.fieldName :=
    hu T ss .self n hmet e.first hfirst (hkey.trans hfirstKey.symm)
  obtain hnone | ⟨Q, hQ, hTQ, d, u, hd, hu, hselectable⟩ := h.met hg hmet
  · exact absurd (hsame.symm.trans hnone) hname
  · obtain ⟨f', hf', hsub⟩ := hs.field hT hQ hTQ hd
    rw [hsame, hf] at hf'
    obtain rfl := Option.some.inj hf'
    exact ⟨u, (mem_types_of_type? hu).1, hs.belongs_of_isSubtype hsub ht hu hU, hselectable x hx⟩

theorem exists_wrapped {ofNamed : NamedType → Except Shape.Fault Ty} {t : NamedType}
    (h : ∃ ty, ofNamed t = .ok ty) (r : TypeRef) (hr : s.baseType? r = some t) :
    ∃ w, wrapped s ofNamed r = .ok w := by
  induction r with
  | nonNull r ih => exact ih hr
  | list r ih =>
      obtain ⟨w, hw⟩ := ih hr
      rw [wrapped, hw]
      exact ⟨_, rfl⟩
  | named n =>
      have hn : s.type? n = some t := hr
      rw [wrapped, hn]
      exact h

theorem exists_selectionType {object : NamedType → Except Shape.Fault Ty} {t : NamedType}
    (h : ∀ U ∈ objectsOf g.schema t, ∃ ty, object U = .ok ty) :
    ∃ ty, selectionType g object t = .ok ty := by
  rw [objectsOf] at h
  rw [selectionType]
  cases hp : t.parts with
  | scalar | enum | input => exact ⟨_, rfl⟩
  | object is fs =>
      simp only [hp] at h
      exact h t List.mem_cons_self
  | interface is fs | union ms =>
      simp only [hp] at h
      obtain ⟨tys, htys⟩ := exists_mapM_ok h
      exact ⟨_, bind_eq_ok.mpr ⟨tys, htys, rfl⟩⟩

/-- There is a member for a key of an object, if the objects below it have types. -/
theorem exists_keyMember (hs : Consistent g.schema) (hg : SelectableFragments g known)
    (hT : T ∈ g.schema.types) (h : Answerable g known T ss) (hu : Unambiguous g T ss) {key : String}
    {e : Shape.Entry} {object : List Selection → NamedType → Except Shape.Fault Ty}
    (he : (key, e) ∈ collect g.schema g.fragments T false ss)
    (hobject : ∀ U ∈ g.schema.types, Answerable g known U e.selections →
      Unambiguous g U e.selections → ∃ ty, object e.selections U = .ok ty) :
    ∃ m, keyMember g object T key e = .ok m := by
  obtain ⟨hfirst, -⟩ := (mem_fieldsMet_of_mem_entry he).mp (List.mem_cons_self (l := e.others))
  rw [keyMember]
  by_cases hname : e.fieldName = "__typename"
  · rw [if_pos hname]
    exact ⟨_, rfl⟩
  · rw [if_neg hname]
    obtain hnone | ⟨Q, hQ, hTQ, c, _, hc, -, -⟩ := h.met hg hfirst
    · exact absurd hnone hname
    · -- the field was checked as one of `Q`, and is looked up in `T`
      obtain ⟨f, hf, -⟩ := hs.field hT hQ hTQ hc
      have hf' : T.field? e.fieldName = some f := hf
      obtain ⟨t, ht, -⟩ := hs.outputs T hT f (mem_fields_of_field? hf').1
      have hobjects : ∀ U ∈ objectsOf g.schema t, ∃ ty, object e.selections U = .ok ty := by
        intro U hU
        have hUmem := (hs.of_objectsOf (mem_types_of_type? ht).1 hU).1
        have hbelow := h.inside hs hg hT hu he hname hf' ht hU
        exact hobject U hUmem hbelow (hu.inside he hf' ht hU)
      obtain ⟨w, hw⟩ := exists_wrapped (exists_selectionType hobjects) f.type ht
      rw [hf']
      exact ⟨_, bind_eq_ok.mpr ⟨w, hw, rfl⟩⟩

/-- **An object has a type** if its selections can be made of values of types to which it
    belongs. -/
theorem exists_objectType_of (hs : Consistent g.schema) (hg : SelectableFragments g known)
    (fuel : Nat) : ∀ {d : Nat} {ss : List Selection} {T : NamedType}, Within g d ss → d < fuel →
      T ∈ g.schema.types → Answerable g known T ss → Unambiguous g T ss →
      ∀ typename, ∃ ty, objectType g fuel typename ss T = .ok ty := by
  induction fuel with
  | zero =>
      intro d ss T _ hlt
      exact absurd hlt (Nat.not_lt_zero d)
  | succ fuel ih =>
      intro d ss T hw hlt hT h hu typename
      have hmembers : ∀ p ∈ collect g.schema g.fragments T false ss,
          ∃ m, keyMember g (objectType g fuel true) T p.1 p.2 = .ok m := by
        rintro ⟨key, e⟩ he
        obtain ⟨d', rfl, hdeeper⟩ := within_of_mem_collect hw he
        refine exists_keyMember hs hg hT h hu he ?_
        intro U hUmem hbelow hunambiguous
        exact ih hdeeper (by omega) hUmem hbelow hunambiguous true
      obtain ⟨members, hmembers⟩ := exists_mapM_ok hmembers
      exact ⟨_, bind_eq_ok.mpr ⟨members, hmembers, rfl⟩⟩

/-! ## Documents -/

section Documents

variable {d : Document} {scalars : ScalarTypes}

theorem Guaranteed.selectableFragments (h : Guaranteed s d) :
    SelectableFragments (settingOf s scalars d) (· ∈ fragmentNames d) := by
  intro n f hf P hP
  obtain ⟨t, ht, -, hselectable⟩ := h.conditions f ((lists_fragmentMap h.names n f).mp hf).1
  exact Option.some.inj (hP.symm.trans ht) ▸ hselectable

theorem exists_variablesBody (scalars : ScalarTypes) (h : Guaranteed s d) {p : Name × Operation}
    (hp : p ∈ d.namedOperations) : ∃ body, variablesBody (settingOf s scalars d) p.2 = .ok body := by
  have hmembers : ∀ v ∈ p.2.variableDefinitions,
      ∃ m, variableMember (settingOf s scalars d) v = .ok m := by
    intro v hv
    obtain ⟨t, ht⟩ := Option.isSome_iff_exists.mp (h.inputs p hp v hv)
    have hnamed : ∃ ty, inputNamed scalars t = .ok ty := by
      rw [inputNamed]
      split <;> exact ⟨_, rfl⟩
    obtain ⟨w, hw⟩ := exists_wrapped hnamed _ ht
    exact ⟨_, bind_eq_ok.mpr ⟨w, hw, rfl⟩⟩
  obtain ⟨members, hmembers⟩ := exists_mapM_ok hmembers
  rw [variablesBody]
  split
  · exact ⟨_, rfl⟩
  · exact ⟨_, bind_eq_ok.mpr ⟨members, hmembers, rfl⟩⟩

theorem exists_fragmentStatement (hs : Consistent s) (h : Guaranteed s d) {f : Fragment}
    (hf : f ∈ d.fragments) : ∃ st, fragmentStatement (settingOf s scalars d) f = .ok st := by
  obtain ⟨t, ht, -, hselectable⟩ := h.conditions f hf
  obtain ⟨k, hk, hwithin⟩ := exists_within (g := settingOf s scalars d) h.acyclic f.selections
  have htypes := (mem_types_of_type? ht).1
  obtain ⟨ty, hty⟩ : ∃ ty, typeOfSelections (settingOf s scalars d) t f.selections = .ok ty := by
    apply exists_selectionType
    intro U hU
    obtain ⟨hUmem, -, hbelongs⟩ := hs.of_objectsOf htypes hU
    have hanswerable : Answerable (settingOf s scalars d) (· ∈ fragmentNames d) U f.selections := by
      intro x hx
      exact ⟨t, htypes, hbelongs, hselectable x hx⟩
    have hunambiguous := h.sameInFragments f hf t ht U hU scalars
    exact exists_objectType_of hs h.selectableFragments _ hwithin hk hUmem hanswerable hunambiguous
      true
  have ht' : (settingOf s scalars d).schema.type? f.condition.text = some t := ht
  rw [fragmentStatement, ht']
  exact ⟨_, bind_eq_ok.mpr ⟨ty, hty, rfl⟩⟩

theorem exists_operationStatements (hs : Consistent s) (h : Guaranteed s d) {p : Name × Operation}
    (hp : p ∈ d.namedOperations) :
    ∃ ss, operationStatements (settingOf s scalars d) p.1.text p.2 = .ok ss := by
  obtain ⟨root, hroot, hselectable⟩ := h.roots p hp
  obtain ⟨k, hk, hwithin⟩ := exists_within (g := settingOf s scalars d) h.acyclic p.2.selections
  obtain ⟨body, hbody⟩ := exists_variablesBody scalars h hp
  obtain ⟨n, -, hn⟩ := Option.bind_eq_some_iff.mp hroot
  have hmem := (mem_types_of_type? hn).1
  have hanswerable :
      Answerable (settingOf s scalars d) (· ∈ fragmentNames d) root p.2.selections := by
    intro x hx
    exact ⟨root, hmem, .refl root, hselectable x hx⟩
  obtain ⟨ty, hty⟩ : ∃ ty, typeOfRoot (settingOf s scalars d) root p.2.selections = .ok ty :=
    exists_objectType_of hs h.selectableFragments _ hwithin hk hmem hanswerable
      (h.sameInOperations p hp root hroot scalars) false
  have hroot' : ((settingOf s scalars d).schema.root? p.2.kind).bind
      (settingOf s scalars d).schema.type? = some root := hroot
  rw [operationStatements, hroot']
  exact ⟨_, bind_eq_ok.mpr ⟨ty, hty, bind_eq_ok.mpr ⟨body, hbody, rfl⟩⟩⟩

/-- **There is a declaration** for a document that keeps the promises of a check against a
    consistent schema. -/
theorem exists_documentStatements (hs : Consistent s) (h : Guaranteed s d) :
    ∃ ss, documentStatements s scalars d = .ok ss := by
  obtain ⟨fragments, hfragments⟩ : ∃ ys, (settingOf s scalars d).fragments.mapM
      (fun p => fragmentStatement (settingOf s scalars d) p.2) = .ok ys := by
    apply exists_mapM_ok
    intro p hp
    have hmap : (settingOf s scalars d).fragments = d.fragments.map fun f => (f.name.text, f) :=
      fragmentMap_eq h.names
    rw [hmap] at hp
    obtain ⟨f, hf, rfl⟩ := List.mem_map.mp hp
    exact exists_fragmentStatement hs h hf
  obtain ⟨operations, hoperations⟩ : ∃ ys, d.namedOperations.mapM
      (fun p => operationStatements (settingOf s scalars d) p.1.text p.2) = .ok ys := by
    apply exists_mapM_ok
    intro p hp
    exact exists_operationStatements hs h hp
  exact ⟨_, bind_eq_ok.mpr ⟨fragments, hfragments, bind_eq_ok.mpr ⟨operations, hoperations, rfl⟩⟩⟩

end Documents

end QueryTypings.Declaration
