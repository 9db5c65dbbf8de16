/-
  The declaration of a schema and those of documents write a type alike.

  The declaration of a schema puts `Maybe` or `InputMaybe` around what may be null, and refers to
  the record of scalars.  The declaration of a document puts `| null` behind it, and writes out the
  type of a scalar.  Where one allows null the other does, however deep the lists are nested.

  1. **Scalars** — the record of scalars, as it stands in the declaration, gives each scalar the
     type that documents write for it (`typeOf_scalar`).  A scalar with the name of a type of
     introspection would be left out of it; a schema that was read has none (`reserved_ofText`).

  2. **Types** — written out in full, the type of a member is the type of a variable
     (`spelledOut_variable`), and the one of a field whose values have no fields
     (`spelledOut_leaf`).  All go along the wrappers of a type in the same way
     (`wrapped_spelledOut`).

  3. **Members** — so the members are alike, too: one is optional and admits null if and only if the
     other does, apart from a default value and from conditions (`notations_agree`).
-/
import QueryTypings.Declaration.Operations
import QueryTypings.Proofs.Result
import QueryTypings.Proofs.Schema.Consistency

namespace QueryTypings.Declaration

open QueryTypings.Graphql QueryTypings.Schema QueryTypings.Shape QueryTypings.Typescript

variable {s : Schema} {scalars : ScalarTypes} {side : Side} {t : TypeRef} {n : NamedType}

/-! ## Scalars -/

/-- The members of the record that statements export as `Scalars`. -/
def scalarRows (statements : List Statement) : List RecordMember :=
  match statements.find? fun st => st.exported? == some "Scalars" with
  | some (.exportType _ _ (.record members)) => members
  | _ => []

/-- The type that the record gives a scalar. -/
def scalarType? (rows : List RecordMember) (name : String) : Option Ty :=
  (rows.find? fun m => m.name == name).map RecordMember.type

theorem scalarRows_schemaStatements (s : Schema) (scalars : ScalarTypes) :
    scalarRows (schemaStatements s scalars).flatten
      = ((declaredTypes s).filter NamedType.isScalar).map fun t =>
        ⟨none, t.name, false, .name (scalarType scalars t.name)⟩ := rfl

/-- **The record of scalars says what documents write.** -/
theorem typeOf_scalar (hreserved : s.Reserved) (hn : n ∈ s.types) (hscalar : n.isScalar = true) :
    scalarType? (scalarRows (schemaStatements s scalars).flatten) n.name
      = some (.name (scalarType scalars n.name)) := by
  have hdeclared : n ∈ declaredTypes s :=
    mem_declaredTypes_iff.mpr ⟨hn, hreserved n hn hscalar⟩
  rw [scalarType?, scalarRows_schemaStatements]
  cases hfound : List.find? _ _ with
  | none =>
      have hrow := List.find?_eq_none.mp hfound _
        (List.mem_map_of_mem (List.mem_filter.mpr ⟨hdeclared, hscalar⟩))
      exact absurd (beq_self_eq_true n.name) hrow
  | some m =>
      -- several rows of one name would say the same
      have hfirst := List.find?_some hfound
      have hname : m.name = n.name := eq_of_beq hfirst
      obtain ⟨u, -, rfl⟩ := List.mem_map.mp (List.mem_of_find?_eq_some hfound)
      exact congrArg (fun name => some (Ty.name (scalarType scalars name))) hname

/-! ## Types -/

/-- A type written out in full: `| null` for the wrappers that stand for it, and for a scalar the
    type that the record of scalars gives it. -/
def spelledOut (rows : List RecordMember) : Ty → Ty
  | .scalar name => (scalarType? rows name).getD (.scalar name)
  | .array t => .array (spelledOut rows t)
  | .generic name t =>
      if name = "Maybe" ∨ name = "InputMaybe" then .orNull (spelledOut rows t)
      else .generic name (spelledOut rows t)
  | t => t

theorem spelledOut_wrapper (rows : List RecordMember) (side : Side) (type : Ty) :
    spelledOut rows (.generic side.wrapper type) = .orNull (spelledOut rows type) := by
  rw [spelledOut, if_pos]
  cases side
  case output => exact Or.inl rfl
  case input => exact Or.inr rfl

/-- **Both notations go along the wrappers** of a type, so they agree if they do inside all lists.
    -/
theorem wrapped_spelledOut {ofNamed : NamedType → Except Shape.Fault Ty} {rows : List RecordMember}
    (hn : s.baseType? t = some n)
    (hnamed : ofNamed n = .ok (spelledOut rows (memberType s side (.named t.base)))) :
    wrapped s ofNamed t = .ok (spelledOut rows (memberType s side t)) := by
  induction t with
  | named name =>
      have htype : s.type? name = some n := hn
      simp only [wrapped, htype]
      exact hnamed
  | list item ih =>
      have hitem : wrapped s ofNamed item = .ok (spelledOut rows (memberType s side item)) :=
        ih hn hnamed
      rw [wrapped, hitem, memberType]
      -- null is allowed for the items of both, or of none
      by_cases hnull : item.isNonNull = true
      · simp only [if_pos hnull]
        rfl
      · simp only [if_neg hnull]
        rw [spelledOut, spelledOut_wrapper]
        rfl
  | nonNull inner ih => exact ih hn hnamed

theorem spelledOut_named {rows : List RecordMember} {name : String} {type : String}
    (hn : s.type? name = some n)
    (hscalar : n.isScalar = true → scalarType? rows name = some (.name type)) :
    spelledOut rows (memberType s side (.named name))
      = .name (if n.isScalar then type else name) := by
  rw [memberType, hn]
  by_cases hkind : n.isScalar = true
  · simp [hkind, spelledOut, hscalar hkind]
  · simp [hkind, spelledOut]

/-- **A variable's type.** -/
theorem spelledOut_variable (hreserved : s.Reserved) (hn : s.baseType? t = some n) :
    wrapped s (inputNamed scalars) t
      = .ok (spelledOut (scalarRows (schemaStatements s scalars).flatten)
        (memberType s side t)) := by
  obtain ⟨hmem, hname⟩ := mem_types_of_type? hn
  have hrow : n.isScalar = true →
      scalarType? (scalarRows (schemaStatements s scalars).flatten) n.name
        = some (.name (scalarType scalars n.name)) := typeOf_scalar hreserved hmem
  refine wrapped_spelledOut hn ?_
  rw [← hname, spelledOut_named (hname ▸ hn) hrow, inputNamed]
  cases n.isScalar <;> rfl

theorem selectionType_leaf {g : Setting} {object : NamedType → Except Shape.Fault Ty}
    (hleaf : n.isLeaf = true) : selectionType g object n
      = .ok (.name (if n.isScalar then scalarType g.scalars n.name else n.name)) := by
  obtain ⟨name, description, parts⟩ := n
  cases parts with
  | scalar => rfl
  | enum values => rfl
  | object | interface | union | input => cases hleaf

/-- **The type of a field** whose values have no fields of their own. -/
theorem spelledOut_leaf (hreserved : s.Reserved) (hn : s.baseType? t = some n)
    (hleaf : n.isLeaf = true) (fragments : OrderedMap Fragment)
    (object : NamedType → Except Shape.Fault Ty) :
    wrapped s (selectionType ⟨s, scalars, fragments⟩ object) t
      = .ok (spelledOut (scalarRows (schemaStatements s scalars).flatten)
        (memberType s side t)) := by
  obtain ⟨hmem, hname⟩ := mem_types_of_type? hn
  have hrow : n.isScalar = true →
      scalarType? (scalarRows (schemaStatements s scalars).flatten) n.name
        = some (.name (scalarType scalars n.name)) := typeOf_scalar hreserved hmem
  refine wrapped_spelledOut hn ?_
  rw [← hname, spelledOut_named (hname ▸ hn) hrow, selectionType_leaf hleaf]

/-! ## Members -/

theorem optional_member (s : Schema) (side : Side) (description : Option String) (name : String)
    (t : TypeRef) : (member s side description name false t).optional = !t.isNonNull := by
  rw [member]
  cases t.isNonNull <;> rfl

theorem spelledOut_member (s : Schema) (side : Side) (description : Option String) (name : String)
    (t : TypeRef) (rows : List RecordMember) :
    spelledOut rows (member s side description name false t).type
      = nullMarked t (spelledOut rows (memberType s side t)) := by
  rw [member, nullMarked]
  by_cases hnull : t.isNonNull = true
  · rw [if_pos hnull, if_pos hnull]
  · rw [if_neg hnull, if_neg hnull, spelledOut_wrapper]

theorem variableMember_eq {g : Setting} {v : VariableDefinition} {type : Ty}
    (h : wrapped g.schema (inputNamed g.scalars) (.ofNode v.type) = .ok type) :
    variableMember g v
      = .ok ⟨none, v.name.text, !(TypeRef.ofNode v.type).isNonNull || v.default?.isSome,
        nullMarked (.ofNode v.type) type⟩ := by
  simp only [variableMember, h]
  rfl

theorem keyMember_eq {g : Setting} {object : List Selection → NamedType → Except Shape.Fault Ty}
    {parent : NamedType} {e : Shape.Entry} {f : Field} {type : Ty} (hname : e.fieldName ≠ "__typename")
    (hf : parent.field? e.fieldName = some f)
    (h : wrapped g.schema (selectionType g (object e.selections)) f.type = .ok type)
    (key : String) : keyMember g object parent key e
      = .ok (.mk key (!f.type.isNonNull || e.conditional) (nullMarked f.type type)) := by
  simp only [keyMember, if_neg hname, hf, h]
  rfl

/-- **The notations agree** on every type of the schema in any nesting of lists and non-null marks,
    whatever the types for the scalars are.  What the declaration of the schema writes for a member
    is, written out in full, what the declaration of a document writes for a variable, and also for
    a field if the type is a leaf; the members are optional together, but for a default value or a
    condition. -/
theorem notations_agree (hreserved : s.Reserved) (hn : s.baseType? t = some n)
    (scalars : ScalarTypes) (side : Side) (description : Option String) (name : String)
    (fragments : OrderedMap Fragment) :
    let g : Setting := ⟨s, scalars, fragments⟩
    let spelled := spelledOut (scalarRows (schemaStatements s scalars).flatten)
    let m := member s side description name false t
    wrapped s (inputNamed scalars) t = .ok (spelled (memberType s side t))
    ∧ (∀ v : VariableDefinition, .ofNode v.type = t → variableMember g v
        = .ok ⟨none, v.name.text, m.optional || v.default?.isSome, spelled m.type⟩)
    ∧ (n.isLeaf = true →
        (∀ object, wrapped s (selectionType g object) t = .ok (spelled (memberType s side t)))
        ∧ ∀ object parent key (e : Shape.Entry) f, e.fieldName ≠ "__typename" →
          parent.field? e.fieldName = some f → f.type = t → keyMember g object parent key e
            = .ok (.mk key (m.optional || e.conditional) (spelled m.type))) := by
  intro g spelled m
  have hoptional : m.optional = !t.isNonNull := optional_member s side description name t
  have htype : spelled m.type = nullMarked t (spelled (memberType s side t)) :=
    spelledOut_member s side description name t _
  have hinput : wrapped s (inputNamed scalars) t = .ok (spelled (memberType s side t)) :=
    spelledOut_variable hreserved hn
  refine ⟨hinput, ?inputs, fun hleaf => ?leaves⟩
  case inputs =>
    rintro v rfl
    rw [variableMember_eq hinput, hoptional, htype]
  case leaves =>
    have hleaves (object : NamedType → Except Shape.Fault Ty) :
        wrapped s (selectionType g object) t = .ok (spelled (memberType s side t)) :=
      spelledOut_leaf hreserved hn hleaf fragments object
    refine ⟨hleaves, ?_⟩
    rintro object parent key e f hname hf rfl
    rw [keyMember_eq hname hf (hleaves (object e.selections)), hoptional, htype]

/-- A schema with a scalar, in lists on both sides. -/
def datesText : String := "scalar Date type Query\x7bdates(without:[[Date!]]!):[[Date!]]!\x7d"

/-- A list, in which there may be nulls, of lists in which there are none. -/
def datesType : TypeRef := .nonNull (.list (.list (.nonNull (.named "Date"))))

/-- What the type reads on the two sides. -/
theorem dates_facts : (Schema.ofText datesText).toOption.bind (fun s =>
      (s.baseType? datesType).map fun n =>
        (n.isLeaf, (memberType s .input datesType).text,
          (wrapped s (inputNamed [("Date", "Day")]) datesType).toOption.map Ty.text))
    = some (true, "Array<InputMaybe<Array<Scalars['Date']>>>",
      some "Array<Array<Day> | null>") := by
  decide +kernel

/-- The wrapper and the scalar are written out, for a variable and for a field. -/
theorem notations_agree_dates :
    ∃ s n, Schema.ofText datesText = .ok s ∧ s.Reserved ∧ s.baseType? datesType = some n
      ∧ n.isLeaf = true
      ∧ (memberType s .input datesType).text = "Array<InputMaybe<Array<Scalars['Date']>>>"
      ∧ ∃ type : Ty, type.text = "Array<Array<Day> | null>"
        ∧ spelledOut (scalarRows (schemaStatements s [("Date", "Day")]).flatten)
          (memberType s .input datesType) = type
        ∧ wrapped s (inputNamed [("Date", "Day")]) datesType = .ok type
        ∧ ∀ object, wrapped s (selectionType ⟨s, [("Date", "Day")], []⟩ object) datesType
          = .ok type := by
  obtain ⟨s, hread, hfacts⟩ := Option.bind_eq_some_iff.mp dates_facts
  obtain ⟨n, hn, hfacts⟩ := Option.map_eq_some_iff.mp hfacts
  obtain ⟨hleaf, hmember, htext⟩ : _ ∧ _ ∧ _ := by simpa only [Prod.mk.injEq] using hfacts
  have hs : Schema.ofText datesText = .ok s := ok_of_toOption hread
  have hreserved : s.Reserved := reserved_ofText hs
  obtain ⟨hinput, -, hleaves⟩ :=
    notations_agree hreserved hn [("Date", "Day")] .input none "without" []
  rw [hinput] at htext
  exact ⟨s, n, hs, hreserved, hn, hleaf, hmember, _, Option.some.inj htext, rfl, hinput,
    (hleaves hleaf).1⟩

end QueryTypings.Declaration
