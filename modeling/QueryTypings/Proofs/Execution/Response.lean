/-
  Responses to selections, and what it means that a printed type describes one.

  1. **Responses** — `Answers g v T ss d`: `d` is the response to the selections `ss` of an object of
     type `T`, where the variables that conditions use have the values `v`.  Fields are collected
     and merged as in an execution.  Lists may have any length, an abstract type any of its possible
     types, and null stands only where the type of the field allows it.

  2. **Conformance** — `Holds g ty d`: the type describes the data.  An object has every member that
     is not optional, each of its keys is a member, and the literal under `__typename` names the type
     of the object, which is how alternatives are told apart.

  3. **Lists and alternatives** — data conform to the type around a selection if and only if every
     object in them conforms to the type of an object (`holds_wrapped_iff`).
-/
import QueryTypings.Proofs.Execution.FieldCollection
import QueryTypings.Proofs.Result

namespace QueryTypings.Execution

open QueryTypings.Graphql QueryTypings.Schema QueryTypings.Shape QueryTypings.Typescript
  QueryTypings.Declaration

/-! ## Conditions -/

/-- The value of a condition, where variables have given values. -/
def conditionValue (v : String → Bool) (d : Directive) : Option Bool :=
  match (d.arguments.find? fun a => a.name.text == "if").map Argument.value with
  | some (.boolean b _) => some b
  | some (.variable n _) => some (v n.text)
  | _ => none

/-- A directive does not leave out what carries it. -/
def admits (v : String → Bool) (d : Directive) : Bool :=
  if d.name.text == "skip" then conditionValue v d != some true
  else if d.name.text == "include" then conditionValue v d != some false
  else true

/-- A selection is not left out. -/
def keptBy (v : String → Bool) (s : Selection) : Bool := s.directives.all (admits v)

/-! ## Responses -/

/-- Data of a response.  Values of scalars and enums are known by their type only, and objects by
    their type and their fields. -/
inductive Data
  | null
  | leaf (type : NamedType)
  /-- The name of a type, as `__typename` yields it. -/
  | typeName (text : String)
  | list (items : List Data)
  | object (type : NamedType) (fields : List (String × Data))

/-- The types that an object may have at a place of a given type. -/
def objectsOf (s : Schema) (t : NamedType) : List NamedType :=
  match t.parts with
  | .object _ _ => [t]
  | _ => s.possibleTypes t

mutual

/-- The response to selections of an object of a given type. -/
inductive Answers (g : Setting) (v : String → Bool) : NamedType → List Selection → Data → Prop
  | object {T : NamedType} {ss : List Selection} (value : String → Data) :
      (∀ key grp, (key, grp) ∈ collectFields g T (keptBy v) ss →
        AnswersField g v T grp (value key)) →
      Answers g v T ss
        (.object T ((collectFields g T (keptBy v) ss).map fun p => (p.1, value p.1)))

/-- The response to a group of fields that share a key. -/
inductive AnswersField (g : Setting) (v : String → Bool) : NamedType → Group → Data → Prop
  | typeName {T : NamedType} {grp : Group} :
      grp.fieldName = "__typename" → AnswersField g v T grp (.typeName T.name)
  | field {T : NamedType} {grp : Group} {f : Field} {d : Data} :
      grp.fieldName ≠ "__typename" → T.field? grp.fieldName = some f →
      Completes g v grp.selections f.type d → AnswersField g v T grp d

/-- Data of a given type, where the selections are those of any object in them. -/
inductive Completes (g : Setting) (v : String → Bool) :
    List Selection → TypeRef → Data → Prop
  | null {ss : List Selection} {t : TypeRef} : t.isNonNull = false → Completes g v ss t .null
  | nonNull {ss : List Selection} {t : TypeRef} {d : Data} :
      Completes g v ss t d → d ≠ .null → Completes g v ss (.nonNull t) d
  | list {ss : List Selection} {t : TypeRef} {ds : List Data} :
      (∀ d ∈ ds, Completes g v ss t d) → Completes g v ss (.list t) (.list ds)
  | leaf {ss : List Selection} {n : String} {t : NamedType} :
      g.schema.type? n = some t → t.isLeaf → Completes g v ss (.named n) (.leaf t)
  | object {ss : List Selection} {n : String} {t T : NamedType} {d : Data} :
      g.schema.type? n = some t → T ∈ objectsOf g.schema t → Answers g v T ss d →
      Completes g v ss (.named n) d

end

/-! ## Conformance -/

/-- The TypeScript type for values of a scalar or an enum. -/
def leafText (g : Setting) (t : NamedType) : String :=
  if t.isScalar then scalarType g.scalars t.name else t.name

mutual

/-- The type describes the data. -/
def Holds (g : Setting) : Ty → Data → Prop
  | .name text, d => ∃ t, d = .leaf t ∧ text = leafText g t
  | .literal text, d => d = .typeName text
  | .array item, d => ∃ ds, d = .list ds ∧ ∀ x ∈ ds, Holds g item x
  | .orNull type, d => d = .null ∨ Holds g type d
  | .object ms, d => ∃ T fields, d = .object T fields
      ∧ (∀ m ∈ ms, ∀ text, m.type = .literal text → text = T.name)
      ∧ (∀ m ∈ ms, m.optional = false → m.name ∈ OrderedMap.keys fields)
      ∧ ∀ key x, (key, x) ∈ fields → HoldsAt g ms key x
  | .union ts, d => HoldsOne g ts d
  | .alternatives ts, d => HoldsOne g ts d
  | .scalar _, _ => False
  | .generic _ _, _ => False

/-- A member of the given name describes the data. -/
def HoldsAt (g : Setting) : List Member → String → Data → Prop
  | [], _, _ => False
  | .mk name _ type :: r, key, x => (name = key ∧ Holds g type x) ∨ HoldsAt g r key x

/-- One of the types describes the data. -/
def HoldsOne (g : Setting) : List Ty → Data → Prop
  | [], _ => False
  | t :: r, x => Holds g t x ∨ HoldsOne g r x

end

variable {g : Setting} {v : String → Bool}

theorem holdsAt_iff {ms : List Member} {key : String} {x : Data} :
    HoldsAt g ms key x ↔ ∃ m ∈ ms, m.name = key ∧ Holds g m.type x := by
  induction ms with
  | nil => simp [HoldsAt]
  | cons m r ih =>
      obtain ⟨name, optional, type⟩ := m
      rw [HoldsAt, ih]
      constructor
      · rintro (h | ⟨m, hm, h⟩)
        · exact ⟨_, List.mem_cons_self, h⟩
        · exact ⟨m, List.mem_cons_of_mem _ hm, h⟩
      · rintro ⟨m, hm, h⟩
        rcases List.mem_cons.mp hm with rfl | hm
        · exact Or.inl h
        · exact Or.inr ⟨m, hm, h⟩

theorem holdsOne_iff {ts : List Ty} {x : Data} : HoldsOne g ts x ↔ ∃ t ∈ ts, Holds g t x := by
  induction ts with
  | nil => simp [HoldsOne]
  | cons t r ih => rw [HoldsOne, ih, List.exists_mem_cons_iff]

/-! ## Lists and alternatives -/

/-- An object of the given type and fields stands in the data, inside lists only. -/
inductive ObjectIn (T : NamedType) (fields : List (String × Data)) : Data → Prop
  | self : ObjectIn T fields (.object T fields)
  | list {x : Data} {ds : List Data} :
      x ∈ ds → ObjectIn T fields x → ObjectIn T fields (.list ds)

/-- The only object in an object, seen as data, is the object itself. -/
theorem forall_objectIn_object {P : NamedType → List (String × Data) → Prop} {T : NamedType}
    {fields : List (String × Data)} :
    (∀ T' fields', ObjectIn T' fields' (.object T fields) → P T' fields') ↔ P T fields := by
  refine ⟨fun h => h T fields .self, fun h T' fields' ho => ?_⟩
  cases ho
  exact h

variable {ss : List Selection} {t : TypeRef} {d : Data}

/-- Null stands only where it may. -/
theorem isNonNull_of_completes_null (h : Completes g v ss t .null) : t.isNonNull = false := by
  cases h with
  | null h => exact h
  | nonNull _ h => exact absurd rfl h
  | object _ _ h => cases h

/-- An object in data of a type is a response to the selections, and of a type that may stand
    there. -/
theorem answers_of_objectIn (h : Completes g v ss t d) {T : NamedType}
    {fields : List (String × Data)} (ho : ObjectIn T fields d) :
    Answers g v T ss (.object T fields)
      ∧ ∃ t', g.schema.type? t.base = some t' ∧ T ∈ objectsOf g.schema t' := by
  induction t generalizing d with
  | nonNull t ih =>
      cases h with
      | null => cases ho
      | nonNull h _ => exact ih h ho
  | list t ih =>
      cases h with
      | null => cases ho
      | list h =>
          cases ho with
          | list hx ho => exact ih (h _ hx) ho
  | named n =>
      cases h with
      | null => cases ho
      | leaf => cases ho
      | object ht hT h =>
          cases h with
          | object value hvalue =>
              cases ho
              exact ⟨.object value hvalue, _, ht, hT⟩

/-- Data other than null conform to a type that may be null as they do to the type itself. -/
theorem holds_nullMarked_iff {w : Ty} (hd : d ≠ .null) :
    Holds g (nullMarked t w) d ↔ Holds g w d := by
  rw [nullMarked]
  split
  · exact Iff.rfl
  · rw [Holds]
    exact ⟨fun h => h.resolve_left hd, Or.inr⟩

theorem holds_nullMarked_null {w : Ty} (h : Completes g v ss t .null) :
    Holds g (nullMarked t w) .null := by
  rw [nullMarked, isNonNull_of_completes_null h]
  exact Or.inl rfl

theorem mem_types_of_mem_possibleTypes {s : Schema} {t T : NamedType}
    (h : T ∈ s.possibleTypes t) : T ∈ s.types := by
  rw [Schema.possibleTypes] at h
  split at h
  · obtain ⟨n, _, hn⟩ := List.mem_filterMap.mp h
    exact List.mem_of_find?_eq_some hn
  · exact List.mem_of_mem_filter h
  · cases h

/-- Types of one name are one type. -/
theorem eq_of_name_eq {ts : List NamedType} (hn : (ts.map NamedType.name).Nodup) {T T' : NamedType}
    (hT : T ∈ ts) (hT' : T' ∈ ts) (h : T.name = T'.name) : T = T' :=
  List.inj_on_of_nodup_map hn hT hT' h

section Wrapped

variable {object : NamedType → Except Shape.Fault Ty} {w : Ty} {t' T : NamedType}
  {fields : List (String × Data)}

/-- The type for the selections of a named type is the name of the type, where no object stands; or
    that of an object of the type; or one alternative for each possible type. -/
theorem selectionType_cases (h : selectionType g object t' = .ok w) :
    (objectsOf g.schema t' = [] ∧ w = .name (leafText g t'))
      ∨ (objectsOf g.schema t' = [t'] ∧ object t' = .ok w)
      ∨ (objectsOf g.schema t' = g.schema.possibleTypes t'
        ∧ ∃ tys, (g.schema.possibleTypes t').mapM object = .ok tys ∧ w = .alternatives tys) := by
  rw [selectionType] at h
  cases hp : t'.parts <;> simp only [hp] at h
  case scalar | enum | input =>
    simp_all [objectsOf, Schema.possibleTypes, leafText, NamedType.isScalar]
  case object =>
    refine Or.inr (Or.inl ⟨?_, h⟩)
    simp only [objectsOf, hp]
  case interface | union =>
    obtain ⟨tys, htys, hok⟩ := ok_of_bind_ok h
    cases hok
    refine Or.inr (Or.inr ⟨?_, tys, htys, rfl⟩)
    simp only [objectsOf, hp]

theorem selectionType_of_isLeaf (h : t'.isLeaf) :
    selectionType g object t' = .ok (.name (leafText g t')) := by
  rw [selectionType, leafText]
  cases hp : t'.parts <;> simp_all [NamedType.isLeaf, NamedType.isScalar, NamedType.isEnum]

/-- Where there is a type for selections, there is one for every object that may stand there. -/
theorem exists_of_selectionType (h : selectionType g object t' = .ok w)
    (hT : T ∈ objectsOf g.schema t') : ∃ ty, object T = .ok ty := by
  rcases selectionType_cases h with ⟨hnone, -⟩ | ⟨hself, hobject⟩ | ⟨hall, tys, htys, -⟩
  · rw [hnone] at hT
    cases hT
  · rw [hself] at hT
    rw [List.mem_singleton.mp hT]
    exact ⟨w, hobject⟩
  · rw [hall] at hT
    obtain ⟨ty, _, hty⟩ := (exists_of_mapM_ok htys).1 T hT
    exact ⟨ty, hty⟩

/-- The type for a name is that for the type of this name. -/
theorem of_wrapped_named {ofNamed : NamedType → Except Shape.Fault Ty} {n : String}
    (hw : wrapped g.schema ofNamed (.named n) = .ok w) (ht : g.schema.type? n = some t') :
    ofNamed t' = .ok w := by
  rw [wrapped, ht] at hw
  exact hw

/-- Where there is a type around a selection, there is one for every object that may stand there. -/
theorem exists_objectType (hw : wrapped g.schema (selectionType g object) t = .ok w)
    (ht : g.schema.type? t.base = some t') (hT : T ∈ objectsOf g.schema t') :
    ∃ ty, object T = .ok ty := by
  induction t generalizing w with
  | nonNull t ih => exact ih hw ht
  | list t ih =>
      obtain ⟨item, hitem, _⟩ := ok_of_bind_ok hw
      exact ih hitem ht
  | named n => exact exists_of_selectionType (of_wrapped_named hw ht) hT

/-- Types for objects tell the types of the objects apart by their names. -/
def TellsApart (g : Setting) (object : NamedType → Except Shape.Fault Ty) : Prop :=
  ∀ T ty, object T = .ok ty → ∀ T' fields, Holds g ty (.object T' fields) → T.name = T'.name

/-- Alternatives for types of different names describe an object if and only if the alternative for
    its type does. -/
theorem holds_alternatives_iff (hnames : (g.schema.types.map NamedType.name).Nodup)
    (htag : TellsApart g object) {tys : List Ty}
    (htys : (g.schema.possibleTypes t').mapM object = .ok tys) (hT : T ∈ g.schema.possibleTypes t') :
    Holds g (.alternatives tys) (.object T fields)
      ↔ ∀ ty, object T = .ok ty → Holds g ty (.object T fields) := by
  obtain ⟨hfor, hback⟩ := exists_of_mapM_ok htys
  rw [Holds, holdsOne_iff]
  constructor
  · rintro ⟨ty, hty, hholds⟩ ty' hty'
    obtain ⟨T', hT', hobject⟩ := hback ty hty
    have hname := htag T' ty hobject T fields hholds
    obtain rfl := eq_of_name_eq hnames (mem_types_of_mem_possibleTypes hT')
      (mem_types_of_mem_possibleTypes hT) hname
    rw [hobject] at hty'
    cases hty'
    exact hholds
  · intro h
    obtain ⟨ty, hty, hobject⟩ := hfor T hT
    exact ⟨ty, hty, h ty hobject⟩

/-- The type for the selections of a named type describes an object that may stand there if and only
    if the type of the object does. -/
theorem holds_selectionType_iff (hnames : (g.schema.types.map NamedType.name).Nodup)
    (htag : TellsApart g object) (h : selectionType g object t' = .ok w)
    (hT : T ∈ objectsOf g.schema t') :
    Holds g w (.object T fields) ↔ ∀ ty, object T = .ok ty → Holds g ty (.object T fields) := by
  rcases selectionType_cases h with ⟨hnone, -⟩ | ⟨hself, hobject⟩ | ⟨hall, tys, htys, rfl⟩
  · rw [hnone] at hT
    cases hT
  · rw [hself] at hT
    obtain rfl := List.mem_singleton.mp hT
    refine ⟨fun hholds ty hty => ?_, fun hholds => hholds w hobject⟩
    cases hobject.symm.trans hty
    exact hholds
  · rw [hall] at hT
    exact holds_alternatives_iff hnames htag htys hT

/-- A list conforms if each of its items does that is not null, which is as much as to say that the
    objects in them do. -/
theorem holds_array_iff {P : NamedType → List (String × Data) → Prop} {ds : List Data}
    (hds : ∀ d ∈ ds, Completes g v ss t d)
    (hitem : ∀ d ∈ ds, d ≠ .null →
      (Holds g w d ↔ ∀ T fields, ObjectIn T fields d → P T fields)) :
    Holds g (.array (nullMarked t w)) (.list ds)
      ↔ ∀ T fields, ObjectIn T fields (.list ds) → P T fields := by
  rw [Holds]
  constructor
  · rintro ⟨_, hlist, hall⟩ T fields ho
    cases hlist
    cases ho with
    | @list x _ hx ho =>
        have hne : x ≠ .null := by
          rintro rfl
          cases ho
        exact (hitem x hx hne).mp ((holds_nullMarked_iff hne).mp (hall x hx)) T fields ho
  · intro h
    refine ⟨ds, rfl, fun x hx => ?_⟩
    by_cases hne : x = .null
    · subst hne
      exact holds_nullMarked_null (hds _ hx)
    · refine (holds_nullMarked_iff hne).mpr ((hitem x hx hne).mpr fun T fields ho => ?_)
      exact h T fields (.list hx ho)

/-- **Data conform to the type around a selection if and only if every object in them conforms to
    the type of an object.** -/
theorem holds_wrapped_iff (hnames : (g.schema.types.map NamedType.name).Nodup)
    (htag : TellsApart g object)
    (hw : wrapped g.schema (selectionType g object) t = .ok w) (hd : Completes g v ss t d)
    (hnull : d ≠ .null) :
    Holds g w d ↔ ∀ T fields, ObjectIn T fields d → ∀ ty, object T = .ok ty →
      Holds g ty (.object T fields) := by
  induction t generalizing w d with
  | nonNull t ih =>
      cases hd with
      | null h => exact absurd rfl hnull
      | nonNull hd _ => exact ih hw hd hnull
  | list t ih =>
      cases hd with
      | null h => exact absurd rfl hnull
      | list hds =>
          obtain ⟨item, hitem, hok⟩ := ok_of_bind_ok hw
          cases hok
          exact holds_array_iff hds fun d hd hne => ih hitem (hds d hd) hne
  | named n =>
      cases hd with
      | null h => exact absurd rfl hnull
      | leaf ht hleaf =>
          cases (selectionType_of_isLeaf hleaf).symm.trans (of_wrapped_named hw ht)
          refine ⟨fun _ T fields ho => ?_, fun _ => ⟨_, rfl, rfl⟩⟩
          cases ho
      | object ht hT hd =>
          cases hd with
          | object value hvalue =>
              rw [forall_objectIn_object]
              exact holds_selectionType_iff hnames htag (of_wrapped_named hw ht) hT

end Wrapped

end QueryTypings.Execution
