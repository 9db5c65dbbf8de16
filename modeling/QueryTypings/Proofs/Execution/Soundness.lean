/-
  Which responses the type that is printed for an operation describes.

  1. **Members** — a member that is not optional belongs to a required key without conditions
     (`optional_keyMember`), and literals among the members name the type of the object.

  2. **Levels decide** — data conform to the type of an object if and only if all levels in them
     cover what was printed (`holds_objectType_iff`).  Nothing else can go wrong: keys, lists, nulls,
     literals and alternatives are always as they were printed.

  3. **Operations** — the same for the type that the declaration of an operation gives its result
     (`response_holds_iff`).  Levels do fail to cover what was printed: in `sharedKey` a field that a
     condition leaves out takes with it a member that is not optional.
-/
import QueryTypings.Declaration.Operations
import QueryTypings.Proofs.Execution.Level

namespace QueryTypings.Execution

open QueryTypings.Graphql QueryTypings.Schema QueryTypings.Shape QueryTypings.Typescript
  QueryTypings.Declaration

variable {g : Setting} {v : String → Bool}

/-! ## The members of an object type -/

section Members

variable {object : List Selection → NamedType → Except Shape.Fault Ty} {T : NamedType} {key : String}
  {e : Shape.Entry} {m : Member}

/-- The member for a key: the name of the type, or what a field of the type yields. -/
theorem keyMember_cases (h : keyMember g object T key e = .ok m) :
    (e.fieldName = "__typename" ∧ m = .mk key e.conditional (.literal T.name))
      ∨ (e.fieldName ≠ "__typename" ∧ ∃ f w, T.field? e.fieldName = some f
          ∧ wrapped g.schema (selectionType g (object e.selections)) f.type = .ok w
          ∧ m = .mk key (!f.type.isNonNull || e.conditional) (nullMarked f.type w)) := by
  rw [keyMember] at h
  split at h
  · rename_i hname
    cases h
    exact Or.inl ⟨hname, rfl⟩
  · rename_i hname
    cases hf : T.field? e.fieldName with
    | none =>
        rw [hf] at h
        cases h
    | some f =>
        rw [hf] at h
        obtain ⟨w, hw, hm⟩ := ok_of_bind_ok h
        cases hm
        exact Or.inr ⟨hname, f, w, rfl, hw, rfl⟩

theorem name_keyMember (h : keyMember g object T key e = .ok m) : m.name = key := by
  rcases keyMember_cases h with ⟨_, rfl⟩ | ⟨_, _, _, _, _, rfl⟩ <;> rfl

/-- A member may be absent, unless its key is required and depends on no condition. -/
theorem optional_keyMember (h : keyMember g object T key e = .ok m) :
    m.optional = false ↔ e.conditional = false ∧ isRequired T e := by
  rcases keyMember_cases h with ⟨hname, rfl⟩ | ⟨hname, f, w, hf, _, rfl⟩
  · show e.conditional = false ↔ _
    exact ⟨fun hc => ⟨hc, Or.inl hname⟩, fun hc => hc.1⟩
  · show (!f.type.isNonNull || e.conditional) = false ↔ _
    rw [Bool.or_eq_false_iff, Bool.not_eq_false']
    constructor
    · rintro ⟨hnull, hc⟩
      exact ⟨hc, Or.inr ⟨f, hf, hnull⟩⟩
    · rintro ⟨hc, hreq⟩
      refine ⟨?_, hc⟩
      rcases hreq with hreq | ⟨f', hf', hnull⟩
      · exact absurd hreq hname
      · rw [hf] at hf'
        cases hf'
        exact hnull

/-- The type around a selection is never a literal. -/
theorem wrapped_ne_literal {s : Schema} {ofNamed : NamedType → Except Shape.Fault Ty}
    (h : ∀ t text, ofNamed t ≠ .ok (.literal text)) {t : TypeRef} {w : Ty}
    (hw : wrapped s ofNamed t = .ok w) (text : String) : nullMarked t w ≠ .literal text := by
  have hwrapped : w ≠ .literal text := by
    rintro rfl
    induction t with
    | nonNull t ih => exact ih hw
    | list t _ =>
        obtain ⟨item, _, hok⟩ := ok_of_bind_ok hw
        cases hok
    | named n =>
        rw [wrapped] at hw
        cases ht : s.type? n with
        | none => simp [ht] at hw
        | some t =>
            rw [ht] at hw
            exact h t text hw
  rw [nullMarked]
  split
  · exact hwrapped
  · exact fun h => by cases h

theorem selectionType_ne_literal {object : NamedType → Except Shape.Fault Ty}
    (h : ∀ t text, object t ≠ .ok (.literal text)) (t : NamedType) (text : String) :
    selectionType g object t ≠ .ok (.literal text) := by
  intro hok
  rcases selectionType_cases hok with ⟨-, hname⟩ | ⟨-, hobject⟩ | ⟨-, tys, -, halternatives⟩
  · cases hname
  · exact h t text hobject
  · cases halternatives

/-- The literals among the members name the type of the object. -/
theorem literal_keyMember (hobject : ∀ ss t text, object ss t ≠ .ok (.literal text))
    (h : keyMember g object T key e = .ok m) {text : String} (ht : m.type = .literal text) :
    text = T.name := by
  rcases keyMember_cases h with ⟨_, rfl⟩ | ⟨_, f, w, _, hw, rfl⟩
  · cases ht
    rfl
  · exact absurd ht (wrapped_ne_literal
      (selectionType_ne_literal (hobject e.selections)) hw text)

end Members

/-- The parts of the type of an object. -/
theorem objectType_cases {fuel : Nat} {typename : Bool} {ss : List Selection} {T : NamedType}
    {ty : Ty} (h : objectType g fuel typename ss T = .ok ty) :
    ∃ n members, fuel = n + 1
      ∧ (collect g.schema g.fragments T false ss).mapM
          (fun p => keyMember g (objectType g n true) T p.1 p.2) = .ok members
      ∧ ty = .object (typenameMembers typename T (collect g.schema g.fragments T false ss)
          ++ members) := by
  cases fuel with
  | zero => cases h
  | succ n =>
      rw [objectType] at h
      obtain ⟨members, hmembers, hok⟩ := ok_of_bind_ok h
      cases hok
      exact ⟨n, members, rfl, hmembers, rfl⟩

theorem objectType_ne_literal (fuel : Nat) (typename : Bool) (ss : List Selection)
    (T : NamedType) (text : String) : objectType g fuel typename ss T ≠ .ok (.literal text) := by
  intro h
  obtain ⟨_, _, _, _, hty⟩ := objectType_cases h
  cases hty

theorem mem_typenameMembers {typename : Bool} {T : NamedType} {fields : FieldMap} {m : Member}
    (h : m ∈ typenameMembers typename T fields) :
    m = .mk "__typename" true (.literal T.name) := by
  rw [typenameMembers] at h
  split at h
  · exact List.mem_singleton.mp h
  · cases h

/-- Below the top level only an object of the type itself conforms to the type of an object. -/
theorem name_eq_of_holds {fuel : Nat} {ss : List Selection} {T T' : NamedType} {ty : Ty}
    {fields : List (String × Data)} (h : objectType g fuel true ss T = .ok ty)
    (hholds : Holds g ty (.object T' fields)) : T.name = T'.name := by
  obtain ⟨n, members, _, hmembers, rfl⟩ := objectType_cases h
  obtain ⟨_, _, heq, hliteral, _, _⟩ := hholds
  cases heq
  by_cases hnamed : (collect g.schema g.fragments T false ss).any
      fun p => p.2.fieldName == "__typename"
  · -- Some key names the type.
    obtain ⟨⟨key, e⟩, he, hname⟩ := List.any_eq_true.mp hnamed
    obtain ⟨m, hm, hok⟩ := (exists_of_mapM_ok hmembers).1 _ he
    rcases keyMember_cases hok with ⟨_, rfl⟩ | ⟨hne, _⟩
    · exact hliteral _ (List.mem_append_right _ hm) _ rfl
    · exact absurd (beq_iff_eq.mp hname) hne
  · have hmem : Member.mk "__typename" true (.literal T.name)
        ∈ typenameMembers true T (collect g.schema g.fragments T false ss) := by
      simp [typenameMembers, hnamed]
    exact hliteral _ (List.mem_append_left _ hmem) _ rfl

/-! ## Responses and levels -/

/-- What stands under a key conforms to the member for the key if and only if every object in it
    conforms to the type of an object. -/
theorem holds_keyMember_iff (hnames : (g.schema.types.map NamedType.name).Nodup) {n : Nat}
    {T : NamedType} {key : String} {e : Shape.Entry} {m : Member} {grp : Group} {x : Data}
    (hm : keyMember g (objectType g n true) T key e = .ok m)
    (hname : e.fieldName = grp.fieldName) (hx : AnswersField g v T grp x) :
    Holds g m.type x ↔ ∀ T' fs, ObjectIn T' fs x →
      ∀ ty, objectType g n true e.selections T' = .ok ty → Holds g ty (.object T' fs) := by
  rcases keyMember_cases hm with ⟨htype, rfl⟩ | ⟨htype, f, w, hf, hw, rfl⟩
  · cases hx with
    | typeName _ =>
        constructor
        · intro _ T' fs ho
          cases ho
        · intro _
          rfl
    | field hne => exact absurd (hname ▸ htype) hne
  · cases hx with
    | typeName h => exact absurd (hname.trans h) htype
    | field _ hf' hx =>
        rw [← hname, hf] at hf'
        cases hf'
        by_cases hnull : x = .null
        · subst hnull
          constructor
          · intro _ T' fs ho
            cases ho
          · intro _
            exact holds_nullMarked_null hx
        · show Holds g (nullMarked f.type w) x ↔ _
          rw [holds_nullMarked_iff hnull]
          exact holds_wrapped_iff hnames
            (fun _ _ hty _ _ hholds => name_eq_of_holds hty hholds) hw hx hnull

/-- An object under a key answers the selections of the group, and is of a type that the field may
    have. -/
theorem answers_of_field {T T' : NamedType} {grp : Group} {x : Data} {fs : List (String × Data)}
    (hx : AnswersField g v T grp x) (ho : ObjectIn T' fs x) :
    Answers g v T' grp.selections (.object T' fs) ∧ grp.fieldName ≠ "__typename"
      ∧ ∃ f t, T.field? grp.fieldName = some f ∧ g.schema.type? f.type.base = some t
          ∧ T' ∈ objectsOf g.schema t := by
  cases hx with
  | typeName => cases ho
  | field hne hf hx =>
      obtain ⟨hanswers, t, ht, hT⟩ := answers_of_objectIn hx ho
      exact ⟨hanswers, hne, _, t, hf, ht, hT⟩

/-- An object under a key has a printed type. -/
theorem exists_type_of_field {object : List Selection → NamedType → Except Shape.Fault Ty}
    {T T' t : NamedType} {key : String} {e : Shape.Entry} {m : Member} {f : Field}
    (hm : keyMember g object T key e = .ok m) (hne : e.fieldName ≠ "__typename")
    (hf : T.field? e.fieldName = some f) (ht : g.schema.type? f.type.base = some t)
    (hT : T' ∈ objectsOf g.schema t) : ∃ ty, object e.selections T' = .ok ty := by
  rcases keyMember_cases hm with ⟨htype, _⟩ | ⟨_, f', w, hf', hw, _⟩
  · exact absurd htype hne
  · rw [hf] at hf'
    cases hf'
    exact exists_objectType hw ht hT

/-- A field of an object of a response: its group, and its data. -/
theorem mem_fields_iff {groups : OrderedMap Group} {value : String → Data} {key : String}
    {x : Data} :
    (key, x) ∈ groups.map (fun p => (p.1, value p.1))
      ↔ (∃ grp, (key, grp) ∈ groups) ∧ x = value key := by
  rw [List.mem_map]
  constructor
  · rintro ⟨⟨k, grp⟩, hmem, heq⟩
    cases heq
    exact ⟨⟨grp, hmem⟩, rfl⟩
  · rintro ⟨⟨grp, hmem⟩, rfl⟩
    exact ⟨(key, grp), hmem, rfl⟩

/-- Of types of a given depth, data that answer some selections conform to the type that was printed
    for these if and only if all levels in the data cover what was printed. -/
def LevelsDecide (g : Setting) (v : String → Bool) (fuel : Nat) : Prop :=
  ∀ (typename : Bool) (l : Level) (d : Data) (ty : Ty),
    objectType g fuel typename l.printed l.type = .ok ty →
    Answers g v l.type l.answered d → LeftOf g v l.answered l.printed →
    Unambiguous g l.type l.printed →
    (Holds g ty d ↔ ∀ l', Reaches g v l d l' → l'.Covers g v)

/-- The fields of an object that has given values under the keys that are asked for. -/
abbrev Level.fields (g : Setting) (v : String → Bool) (l : Level) (value : String → Data) :
    List (String × Data) :=
  (collectFields g l.type (keptBy v) l.answered).map fun p => (p.1, value p.1)

theorem Level.keys_fields (l : Level) (value : String → Data) :
    OrderedMap.keys (l.fields g v value)
      = OrderedMap.keys (collectFields g l.type (keptBy v) l.answered) := by
  simp [OrderedMap.keys, Function.comp_def]

section Step

variable {n : Nat} {l : Level} {typename : Bool} {members : List Member} {value : String → Data}
variable (ih : LevelsDecide g v n) (ha : Acyclic g.fragments)
  (hnames : (g.schema.types.map NamedType.name).Nodup)
  (hleft : LeftOf g v l.answered l.printed) (hu : Unambiguous g l.type l.printed)

include ih ha hnames hleft hu

/-- Under a key it is the levels below the key that decide. -/
theorem LevelsDecide.holds_key_iff {key : String} {e : Shape.Entry} {grp : Group} {m : Member}
    {x : Data}
    (he : (key, e) ∈ collect g.schema g.fragments l.type false l.printed)
    (hg : (key, grp) ∈ collectFields g l.type (keptBy v) l.answered)
    (hm : keyMember g (objectType g n true) l.type key e = .ok m)
    (hx : AnswersField g v l.type grp x) :
    Holds g m.type x ↔ ∀ T fs, ObjectIn T fs x →
      ∀ l', Reaches g v ⟨T, e.selections, grp.selections⟩ (.object T fs) l' → l'.Covers g v := by
  have hname := fieldName_eq ha hu hleft he hg
  rw [holds_keyMember_iff hnames hm hname hx]
  refine forall_congr' fun T => forall_congr' fun fs => forall_congr' fun ho => ?_
  obtain ⟨hans, hne, f, t, hf, ht, hT⟩ := answers_of_field hx ho
  rw [← hname] at hne hf
  obtain ⟨ty, hty⟩ := exists_type_of_field hm hne hf ht hT
  have hbelow := ih true ⟨T, e.selections, grp.selections⟩ (.object T fs) ty hty hans
    (hleft.inside ha he hg) (hu.inside he hf ht hT)
  rw [← hbelow]
  constructor
  · intro h
    exact h ty hty
  · intro h ty' hty'
    rw [hty] at hty'
    cases hty'
    exact h

variable (hmembers : (collect g.schema g.fragments l.type false l.printed).mapM
    (fun p => keyMember g (objectType g n true) l.type p.1 p.2) = .ok members)
  (hvalue : ∀ key grp, (key, grp) ∈ collectFields g l.type (keptBy v) l.answered →
    AnswersField g v l.type grp (value key))

include hmembers hvalue

/-- Where an object conforms to its type, all levels in it cover what was printed. -/
theorem LevelsDecide.covers_of_holds
    (hholds : Holds g (.object (typenameMembers typename l.type
        (collect g.schema g.fragments l.type false l.printed) ++ members))
      (.object l.type (l.fields g v value)))
    {l' : Level} (hr : Reaches g v l (.object l.type (l.fields g v value)) l') :
    l'.Covers g v := by
  obtain ⟨hfor, hback⟩ := exists_of_mapM_ok hmembers
  obtain ⟨_, _, heq, _, hpresent, hat⟩ := hholds
  cases heq
  cases hr with
  | self =>
      intro key e he hcond hreq
      obtain ⟨m, hm, hok⟩ := hfor _ he
      have hin := hpresent m (List.mem_append_right _ hm)
        ((optional_keyMember hok).mpr ⟨hcond, hreq⟩)
      rw [name_keyMember hok, Level.keys_fields] at hin
      exact (mem_keys_collectFields ha).mp hin
  | @inside _ _ _ fs key e grp x T he hg hx ho hr =>
      obtain ⟨_, rfl⟩ := mem_fields_iff.mp hx
      obtain ⟨m, hm, hmname, hholds⟩ := holdsAt_iff.mp (hat _ _ hx)
      rcases List.mem_append.mp hm with hm | hm
      · -- the member that names the type describes no object
        rw [mem_typenameMembers hm] at hholds
        have hx' : value key = .typeName l.type.name := hholds
        rw [hx'] at ho
        cases ho
      · obtain ⟨⟨key', e'⟩, he', hok⟩ := hback m hm
        obtain rfl : key' = key := (name_keyMember hok).symm.trans hmname
        obtain rfl := unique_entry he he'
        have hkey := ih.holds_key_iff ha hnames hleft hu he hg hok (hvalue _ _ hg)
        exact hkey.mp hholds T fs ho l' hr

/-- Where all levels in an object cover what was printed, it conforms to its type. -/
theorem LevelsDecide.holds_of_covers
    (hcovers : ∀ l', Reaches g v l (.object l.type (l.fields g v value)) l' → l'.Covers g v) :
    Holds g (.object (typenameMembers typename l.type
        (collect g.schema g.fragments l.type false l.printed) ++ members))
      (.object l.type (l.fields g v value)) := by
  obtain ⟨hfor, hback⟩ := exists_of_mapM_ok hmembers
  refine ⟨l.type, _, rfl, ?literals, ?present, ?described⟩
  case literals =>
    intro m hm text htext
    rcases List.mem_append.mp hm with hm | hm
    · rw [mem_typenameMembers hm] at htext
      cases htext
      rfl
    · obtain ⟨p, _, hok⟩ := hback m hm
      exact literal_keyMember (objectType_ne_literal n true) hok htext
  case present =>
    intro m hm hoptional
    rcases List.mem_append.mp hm with hm | hm
    · rw [mem_typenameMembers hm] at hoptional
      cases hoptional
    · obtain ⟨⟨key, e⟩, he, hok⟩ := hback m hm
      obtain ⟨hcond, hreq⟩ := (optional_keyMember hok).mp hoptional
      rw [name_keyMember hok, Level.keys_fields]
      exact (mem_keys_collectFields ha).mpr (hcovers _ .self key e he hcond hreq)
  case described =>
    intro key x hx
    obtain ⟨⟨grp, hg⟩, rfl⟩ := mem_fields_iff.mp hx
    obtain ⟨e, he⟩ := exists_entry_of_group ha hleft hg
    obtain ⟨m, hm, hok⟩ := hfor _ he
    have hkey := ih.holds_key_iff ha hnames hleft hu he hg hok (hvalue _ _ hg)
    refine holdsAt_iff.mpr ⟨m, List.mem_append_right _ hm, name_keyMember hok, ?_⟩
    exact hkey.mpr fun T fs ho l' hr => hcovers l' (.inside he hg hx ho hr)

end Step

/-- **Levels decide.**  The induction is on the depth that the type was given. -/
theorem holds_objectType_iff (ha : Acyclic g.fragments)
    (hnames : (g.schema.types.map NamedType.name).Nodup) (fuel : Nat) : LevelsDecide g v fuel := by
  induction fuel with
  | zero =>
      intro typename l d ty h
      cases h
  | succ n ih =>
      intro typename l d ty hty hanswers hleft hu
      obtain ⟨_, members, hn, hmembers, rfl⟩ := objectType_cases hty
      cases hn
      cases hanswers with
      | object value hvalue =>
          constructor
          · intro hholds l' hr
            exact ih.covers_of_holds ha hnames hleft hu hmembers hvalue hholds hr
          · exact ih.holds_of_covers ha hnames hleft hu hmembers hvalue

/-- Where fields that share a key stand or fall together, every level covers what was printed. -/
theorem covers_of_unmixed (ha : Acyclic g.fragments) {l l' : Level} {d : Data}
    (hr : Reaches g v l d l') (hd : Answers g v l.type l.answered d)
    (hl : LeftOf g v l.answered l.printed) (hu : Unambiguous g l.type l.printed)
    (hm : Unmixed g l.type l.printed) (h : SameOccurrences g l.printed l.answered) :
    l'.Covers g v := by
  induction hr with
  | self => exact covers_of_sameOccurrences h
  | inside he hg hx ho _ ih =>
      cases hd with
      | object value hvalue =>
          obtain ⟨_, rfl⟩ := mem_fields_iff.mp hx
          obtain ⟨hans, _, f, t, hf, ht, hT⟩ := answers_of_field (hvalue _ _ hg) ho
          rw [← fieldName_eq ha hu hl he hg] at hf
          exact ih hans (hl.inside ha he hg) (hu.inside he hf ht hT)
            (fun T'' ss'' hp => hm T'' ss'' (.inside he hf ht hT hp))
            (sameOccurrences_inside ha hm hl h he hg)

/-! ## Operations -/

/-- What validation promises for an operation. -/
structure Validated (g : Setting) (o : Operation) : Prop where
  /-- Fragments do not lead back to themselves. -/
  acyclic : Acyclic g.fragments
  /-- No two types have one name. -/
  names : (g.schema.types.map NamedType.name).Nodup
  /-- Fields that share a key can be merged. -/
  unambiguous : ∀ root, (g.schema.root? o.kind).bind g.schema.type? = some root →
    Unambiguous g root o.selections

/-- **Which responses the printed type describes.**  Where an operation has statements, one of them
    gives the type of its result.  A response to the operation conforms to it if and only if at
    every level the fields that conditions leave still ask for every member that is not optional.
    That is always so where of the fields that share a key either none depends on a condition or
    there is only one. -/
theorem response_holds_iff {name : String} {o : Operation} {stmts : List Statement}
    (hvalid : Validated g o) (h : operationStatements g name o = .ok stmts) :
    ∃ root ty, (g.schema.root? o.kind).bind g.schema.type? = some root
      ∧ .exportType none (resultName name o.kind) (.inline ty) ∈ stmts
      ∧ (∀ v d, Answers g v root o.selections d →
          (Holds g ty d ↔ ∀ l, Reaches g v ⟨root, o.selections, o.selections⟩ d l →
            l.Covers g v))
      ∧ (Unmixed g root o.selections → ∀ v d, Answers g v root o.selections d → Holds g ty d) := by
  rw [operationStatements] at h
  cases hroot : (g.schema.root? o.kind).bind g.schema.type? with
  | none =>
      rw [hroot] at h
      cases h
  | some root =>
      rw [hroot] at h
      obtain ⟨ty, hty, h⟩ := ok_of_bind_ok h
      obtain ⟨input, _, h⟩ := ok_of_bind_ok h
      cases h
      have hunambiguous := hvalid.unambiguous root hroot
      have hiff : ∀ v d, Answers g v root o.selections d →
          (Holds g ty d ↔ ∀ l, Reaches g v ⟨root, o.selections, o.selections⟩ d l →
            l.Covers g v) := fun v d hd =>
        holds_objectType_iff hvalid.acyclic hvalid.names _ false
          ⟨root, o.selections, o.selections⟩ d ty hty hd (LeftOf.refl g v o.selections) hunambiguous
      refine ⟨root, ty, rfl, List.mem_cons_of_mem _ List.mem_cons_self, hiff, ?_⟩
      intro hm v d hd
      refine (hiff v d hd).mpr fun l hr => ?_
      exact covers_of_unmixed hvalid.acyclic hr hd (LeftOf.refl g v o.selections) hunambiguous hm
        fun _ _ => Iff.rfl

/-! ## A condition on one of two fields that share a key -/

/-- Pairs of two texts, and a query for a pair. -/
def pairType : NamedType :=
  ⟨"Pair", none, .object [] [⟨"x", none, [], .nonNull (.named "String"), false⟩,
    ⟨"y", none, [], .nonNull (.named "String"), false⟩]⟩

def pairQueryType : NamedType :=
  ⟨"Query", none, .object [] [⟨"pair", none, [], .named "Pair", false⟩]⟩

def textType : NamedType := ⟨"String", none, .scalar⟩

def sharedKey : Setting :=
  ⟨⟨[pairQueryType, pairType, textType], some "Query", none, none, []⟩, [], []⟩

/-- The directive `@include(if: $more)`. -/
def includeMore : Directive :=
  ⟨⟨"include", .first⟩, [⟨⟨"if", .first⟩, .variable ⟨"more", .first⟩ .first⟩], .first⟩

/-- The selections `pair { x } pair @include(if: $more) { y }`. -/
def sharedKeySelections : List Selection :=
  [.branch (bareField "pair") .first [.leaf (bareField "x")],
   .branch { bareField "pair" with directives := [includeMore] } .first [.leaf (bareField "y")]]

def sharedKeyQuery : Operation :=
  ⟨none, .query, some ⟨"Q", .first⟩, [], [], sharedKeySelections, .first, .first⟩

/-- What `pair` is printed from. -/
def pairSelections : List Selection := [.leaf (bareField "x"), .leaf (bareField "y")]

theorem collect_sharedKey :
    collect sharedKey.schema sharedKey.fragments pairQueryType false sharedKeySelections
      = [("pair", ⟨⟨bareField "pair", [.leaf (bareField "x")]⟩,
          [⟨{ bareField "pair" with directives := [includeMore] }, [.leaf (bareField "y")]⟩],
          false⟩)] := by
  rfl

theorem collect_pair :
    collect sharedKey.schema sharedKey.fragments pairType false pairSelections
      = [("x", ⟨⟨bareField "x", []⟩, [], false⟩), ("y", ⟨⟨bareField "y", []⟩, [], false⟩)] := by
  rfl

theorem collectFields_sharedKey :
    collectFields sharedKey pairQueryType (keptBy fun _ => false) sharedKeySelections
      = [("pair", ⟨⟨bareField "pair", [.leaf (bareField "x")]⟩, []⟩)] := by
  rfl

/-- Below `pair` there are no further objects. -/
theorem printedAt_pair {T : NamedType} {ss : List Selection}
    (h : PrintedAt sharedKey pairType pairSelections T ss) :
    T = pairType ∧ ss = pairSelections := by
  cases h with
  | self => exact ⟨rfl, rfl⟩
  | inside he hf ht hT _ =>
      exfalso
      rw [collect_pair] at he
      have htext : ∀ {f : Field}, pairType.field? "x" = some f ∨ pairType.field? "y" = some f →
          ∀ {t : NamedType}, sharedKey.schema.type? f.type.base = some t →
            ∀ T', T' ∉ objectsOf sharedKey.schema t := by
        rintro f (hf | hf) t ht T' hT <;> cases hf <;> cases ht <;> cases hT
      rcases List.mem_cons.mp he with heq | he
      · cases heq
        exact htext (Or.inl hf) ht _ hT
      · cases List.mem_singleton.mp he
        exact htext (Or.inr hf) ht _ hT

theorem unambiguous_sharedKey : Unambiguous sharedKey pairQueryType sharedKeySelections := by
  intro T ss h
  cases h with
  | self => decide
  | inside he hf ht hT h =>
      rw [collect_sharedKey] at he
      cases List.mem_singleton.mp he
      cases hf
      cases ht
      obtain rfl := List.mem_singleton.mp hT
      obtain ⟨rfl, rfl⟩ := printedAt_pair h
      decide

theorem validated_sharedKey : Validated sharedKey sharedKeyQuery where
  acyclic := acyclic_of_lt (fun _ => 0) fun n m h => by
    obtain ⟨f, hf, _⟩ := h
    cases hf
  names := by decide
  unambiguous := by
    intro root hroot
    cases hroot
    exact unambiguous_sharedKey

/-- The response in which the pair has its first text only. -/
def firstTextOnly : Data :=
  .object pairQueryType [("pair", .object pairType [("x", .leaf textType)])]

theorem answers_firstTextOnly :
    Answers sharedKey (fun _ => false) pairQueryType sharedKeySelections firstTextOnly := by
  have htext : Answers sharedKey (fun _ => false) pairType [.leaf (bareField "x")]
      (.object pairType [("x", .leaf textType)]) := by
    refine .object (fun _ => .leaf textType) fun key grp hg => ?_
    cases List.mem_singleton.mp hg
    exact .field (by decide) rfl (.nonNull (.leaf rfl rfl) fun h => by cases h)
  refine .object (fun _ => .object pairType [("x", .leaf textType)]) fun key grp hg => ?_
  rw [collectFields_sharedKey] at hg
  cases List.mem_singleton.mp hg
  exact .field (by decide) rfl (.object rfl List.mem_cons_self htext)

/-- The statements for the query; `x` and `y` may not be absent. -/
def sharedKeyStatements : List Statement :=
  [.exportType none "QQueryVariables" .emptyRecord,
   .exportType none "QQuery" (.inline (.object [.mk "pair" true (.orNull (.object
      [.mk "__typename" true (.literal "Pair"), .mk "x" false (.name "string"),
       .mk "y" false (.name "string")]))]))]

/-- **A condition takes away a member that is not optional.**  The response without `y` does not
    conform to the type that is printed, for below `pair` only `x` is asked for. -/
theorem not_holds_firstTextOnly :
    Validated sharedKey sharedKeyQuery
      ∧ operationStatements sharedKey "Q" sharedKeyQuery = .ok sharedKeyStatements
      ∧ Answers sharedKey (fun _ => false) pairQueryType sharedKeySelections firstTextOnly
      ∧ ∃ ty, .exportType none "QQuery" (.inline ty) ∈ sharedKeyStatements
          ∧ ¬ Holds sharedKey ty firstTextOnly := by
  have hstmts : operationStatements sharedKey "Q" sharedKeyQuery = .ok sharedKeyStatements := rfl
  obtain ⟨root, ty, hroot, hmem, hiff, _⟩ := response_holds_iff validated_sharedKey hstmts
  cases hroot
  refine ⟨validated_sharedKey, hstmts, answers_firstTextOnly, ty, hmem, fun hholds => ?_⟩
  have hpair : Reaches sharedKey (fun _ => false)
      ⟨pairQueryType, sharedKeySelections, sharedKeySelections⟩ firstTextOnly
      ⟨pairType, pairSelections, [.leaf (bareField "x")]⟩ :=
    .inside (collect_sharedKey ▸ List.mem_cons_self) (collectFields_sharedKey ▸ List.mem_cons_self)
      List.mem_cons_self .self .self
  have hcovers := (hiff _ _ answers_firstTextOnly).mp hholds _ hpair
  have hy : ("y", ⟨⟨bareField "y", []⟩, [], false⟩)
      ∈ collect sharedKey.schema sharedKey.fragments pairType false pairSelections := by
    rw [collect_pair]
    exact List.mem_cons_of_mem _ List.mem_cons_self
  obtain ⟨n, hn, hkey⟩ := hcovers "y" _ hy rfl (Or.inr ⟨_, rfl, rfl⟩)
  have hnone : ∀ n ∈ fieldsMet sharedKey pairType (keptBy fun _ => false) [.leaf (bareField "x")],
      n.key ≠ "y" := by decide
  exact hnone n hn hkey

end QueryTypings.Execution
