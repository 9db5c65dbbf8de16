/-
  What keeps a schema from being examined.

  A schema has violations, and two kinds of them are obstacles: a default value for an input that
  cannot be one, and an enum of which the values cannot be evaluated.

  1. **Literals** — a literal comes upon a type with subfields where a part of it is judged by such a
     type.  Then, and only then, this is told of the literal (`unfit_literalIssues_iff`).

  2. **Violations** — no other violation is an obstacle, neither of roots, names, fields and
     interfaces nor of the searches for circles (`obstructs_typeFaults`,
     `not_obstructs_endlessFaults`).

  3. **Schemas** — so a schema cannot be examined if and only if the default value of one of its inputs
     comes upon a type with subfields, or values of one of its enums are misused
     (`obstructs_faults`, `ofText_unexaminable_iff`).
-/
import QueryTypings.Schema.Load

namespace QueryTypings.Schema

open QueryTypings.Graphql QueryTypings.Text

/-! ## Literals -/

/-- The value is judged by the type as a whole: it is neither null nor a variable, nor a list of the
    type's items. -/
def IsJudged : Value → TypeRef → Prop
  | .variable _ _, _ => False
  | .null _, _ => False
  | .list _ _, t => ∀ item, t.nullable ≠ .list item
  | _, _ => True

/-- A literal comes upon a type with subfields. -/
inductive Meets (s : Schema) : Value → TypeRef → Prop
  /-- It is judged by such a type. -/
  | here {v : Value} {t : TypeRef} {u : NamedType} (judged : IsJudged v t)
      (type : s.baseType? t = some u) (composite : u.isComposite = true) : Meets s v t
  /-- One of its items comes upon one. -/
  | item {v : Value} {items : List Value} {p : Position} {t item : TypeRef}
      (type : t.nullable = .list item) (mem : v ∈ items) (meets : Meets s v item) :
      Meets s (.list items p) t
  /-- What it gives for an input field comes upon one. -/
  | field {v : Value} {fields : List (Name × Value)} {p : Position} {t : TypeRef} {u : NamedType}
      {i : Input} (type : s.baseType? t = some u) (mem : i ∈ u.inputFields)
      (value : lastValue? fields i.name = some v) (meets : Meets s v i.type) :
      Meets s (.object fields p) t

/-- One of the misfits is that of a type with subfields. -/
def Unfit (issues : List LiteralIssue) : Prop := ∃ i ∈ issues, ∃ n, i.fault = .notLeaf n

variable {s : Schema}

theorem unfit_append {a b : List LiteralIssue} : Unfit (a ++ b) ↔ Unfit a ∨ Unfit b := by
  simp only [Unfit, List.mem_append, or_and_right, exists_or]

theorem unfit_flatMap {α : Type} {f : α → List LiteralIssue} {xs : List α} :
    Unfit (xs.flatMap f) ↔ ∃ x ∈ xs, Unfit (f x) := by
  simp only [Unfit, List.mem_flatMap]
  exact ⟨fun ⟨i, ⟨x, hx, hi⟩, h⟩ => ⟨x, hx, i, hi, h⟩, fun ⟨x, hx, i, hi, h⟩ => ⟨i, ⟨x, hx, hi⟩, h⟩⟩

theorem not_unfit_nil : ¬ Unfit [] := fun ⟨_, h, _⟩ => (by cases h)

theorem not_unfit_singleton {i : LiteralIssue} (h : ∀ n, i.fault ≠ .notLeaf n) : ¬ Unfit [i] := by
  rintro ⟨_, hmem, n, hn⟩
  exact h n (List.mem_singleton.mp hmem ▸ hn)

/-- No literal is wrong in this way for a scalar. -/
theorem scalarFault?_ne (scalar n : String) (v : Value) :
    scalarFault? scalar v ≠ some (.notLeaf n) := by
  have hinteger : ∀ d, integerFault? d ≠ some (.notLeaf n) := fun d h => by
    simp only [integerFault?] at h
    split at h
    · cases h
    · split at h <;> cases h
  intro h
  unfold scalarFault? at h
  split at h
  · exact hinteger _ h
  all_goals cases h

/-- Nor is one for an enum. -/
theorem enumFault?_ne (type n : String) (values : List String) (v : Value) :
    enumFault? type values v ≠ some (.notLeaf n) := by
  intro h
  unfold enumFault? at h
  split at h
  · split at h <;> cases h
  · dsimp only at h
    split at h <;> cases h

theorem unfit_map_toList {fault : Option LiteralFault} {f : LiteralFault → LiteralIssue}
    (hf : ∀ g n, (f g).fault = .notLeaf n ↔ g = .notLeaf n) :
    Unfit (fault.toList.map f) ↔ ∃ n, fault = some (.notLeaf n) := by
  simp only [Unfit, List.mem_map, Option.mem_toList]
  constructor
  · rintro ⟨_, ⟨g, hg, rfl⟩, n, hn⟩
    exact ⟨n, hg.trans (congrArg some ((hf g n).mp hn))⟩
  · rintro ⟨n, hn⟩
    exact ⟨_, ⟨_, hn, rfl⟩, n, (hf _ n).mpr rfl⟩

theorem isComposite_eq (u : NamedType) : u.isComposite = match u.parts with
    | .object _ _ | .interface _ _ | .union _ => true
    | _ => false := by
  cases hp : u.parts <;> simp [NamedType.isComposite, NamedType.isObject, NamedType.isAbstract,
    NamedType.isInterface, NamedType.isUnion, hp]

/-- A literal is told to be no value of a leaf where the type is none. -/
theorem unfit_leafIssues {u : NamedType} (h : u.isInputObject = false) (path : List PathStep)
    (v : Value) : Unfit (leafIssues u path v) ↔ u.isComposite = true := by
  unfold leafIssues
  rw [unfit_map_toList fun f n => by cases f <;> simp, isComposite_eq]
  cases hp : u.parts with
  | scalar =>
      refine iff_of_false ?_ Bool.false_ne_true
      rintro ⟨n, hn⟩
      exact scalarFault?_ne _ n _ hn
  | enum values =>
      refine iff_of_false ?_ Bool.false_ne_true
      rintro ⟨n, hn⟩
      exact enumFault?_ne _ n _ _ hn
  | input fields oneOf => simp [NamedType.isInputObject, hp] at h
  | object is fs | interface is fs | union ms => exact iff_of_true ⟨u.name, rfl⟩ rfl

/-- A single literal comes upon a type with subfields where that is what judges it. -/
theorem unfit_named {t : TypeRef} {path : List PathStep} {v : Value}
    {wrong : NamedType → LiteralIssue} (hwrong : ∀ u n, (wrong u).fault ≠ .notLeaf n) :
    Unfit (match s.baseType? t with
      | none => []
      | some u => if u.isInputObject then [wrong u] else leafIssues u path v)
      ↔ ∃ u, s.baseType? t = some u ∧ u.isComposite = true := by
  cases s.baseType? t with
  | none => exact iff_of_false not_unfit_nil (by simp)
  | some u =>
      simp only [Option.some.injEq, exists_eq_left']
      cases hu : u.isInputObject with
      | true =>
          refine iff_of_false (fun h => ?_) ?_
          · exact not_unfit_singleton (hwrong u) h
          · rw [isComposite_eq]
            cases hp : u.parts <;> simp [NamedType.isInputObject, hp] at hu ⊢
      | false => exact unfit_leafIssues hu path v

/-- The misfits of a field are those of the last value that is given for it. -/
theorem fieldIssues_eq (fields : List (Name × Value)) (name : String) (t : TypeRef)
    (path : List PathStep) : fieldIssues s fields name t path
      = (lastValue? fields name).map fun v => literalIssues s v t path := by
  induction fields with
  | nil => rfl
  | cons f r ih =>
      obtain ⟨n, v⟩ := f
      have hlast : lastValue? ((n, v) :: r) name
          = (lastValue? r name).or (if n.text = name then some v else none) := by
        simp only [lastValue?, List.reverse_cons, List.find?_append]
        cases r.reverse.find? fun f => f.1.text == name with
        | some f => rfl
        | none => by_cases hn : n.text = name <;> simp [hn]
      rw [fieldIssues, ih, hlast]
      cases lastValue? r name with
      | some w => rfl
      | none => by_cases hn : n.text = name <;> simp [hn]

theorem unfit_itemIssues {items : List Value} {t : TypeRef} {path : List PathStep}
    (h : ∀ v ∈ items, ∀ (t : TypeRef) (path : List PathStep),
      Unfit (literalIssues s v t path) ↔ Meets s v t) (n : Nat) :
    Unfit (itemIssues s items t path n) ↔ ∃ v ∈ items, Meets s v t := by
  induction items generalizing n with
  | nil => exact iff_of_false not_unfit_nil (by simp)
  | cons v r ih =>
      obtain ⟨hv, hr⟩ := List.forall_mem_cons.mp h
      rw [itemIssues, unfit_append, hv, ih hr]
      simp only [List.mem_cons, exists_eq_or_imp]

/-- The last value of a name is that of some field. -/
theorem exists_of_lastValue? {fields : List (Name × Value)} {name : String} {v : Value}
    (h : lastValue? fields name = some v) : ∃ f ∈ fields, f.2 = v := by
  obtain ⟨f, hf, rfl⟩ := Option.map_eq_some_iff.mp h
  exact ⟨f, List.mem_reverse.mp (List.mem_of_find?_eq_some hf), rfl⟩

section Objects

variable {fields : List (Name × Value)} {p : Position} {t : TypeRef} {path : List PathStep}
  {u : NamedType}

/-- Fields that are not declared are told of in another way. -/
theorem not_unfit_unknown {names : List String} {found : String} :
    ¬ Unfit (fields.flatMap fun f =>
      if names.contains f.1.text then []
      else [⟨.unknownField u.name f.1.text (suggestions f.1.text names) found, path,
        some f.1.position⟩]) := by
  intro hunfit
  obtain ⟨f, _, hunfit⟩ := unfit_flatMap.mp hunfit
  split at hunfit
  · exact not_unfit_nil hunfit
  · exact not_unfit_singleton (fun _ h => by cases h) hunfit

/-- So is the number of alternatives that are given. -/
theorem not_unfit_alternatives {names : List String} :
    ¬ Unfit (match (givenFields fields names).eraseDups with
      | [name] =>
          match lastValue? fields name with
          | some (.null _) => [⟨.notOneField u.name, path ++ [.field name], some p⟩]
          | _ => []
      | _ => [⟨.notOneField u.name, path, some p⟩]) := by
  intro hunfit
  split at hunfit
  · split at hunfit
    · exact not_unfit_singleton (fun _ h => by cases h) hunfit
    · exact not_unfit_nil hunfit
  · exact not_unfit_singleton (fun _ h => by cases h) hunfit

/-- For a field that is declared it is the last value given for it that counts. -/
theorem unfit_declared (h : ∀ f ∈ fields, ∀ (t : TypeRef) (path : List PathStep),
      Unfit (literalIssues s f.2 t path) ↔ Meets s f.2 t) (i : Input) :
    Unfit (match fieldIssues s fields i.name i.type (path ++ [.field i.name]) with
      | some issues => issues
      | none => if i.isRequired then
          [⟨.missingField u.name i.name (Value.object fields p).print, path, some p⟩] else [])
      ↔ ∃ v, lastValue? fields i.name = some v ∧ Meets s v i.type := by
  rw [fieldIssues_eq]
  cases hv : lastValue? fields i.name with
  | none =>
      refine iff_of_false (fun hunfit => ?_) (by simp)
      dsimp only [Option.map_none] at hunfit
      split at hunfit
      · exact not_unfit_singleton (fun _ h => by cases h) hunfit
      · exact not_unfit_nil hunfit
  | some v =>
      obtain ⟨f, hf, rfl⟩ := exists_of_lastValue? hv
      simpa using h f hf i.type (path ++ [.field i.name])

/-- Object literals for an input object are judged field by field. -/
theorem unfit_object {inputs : List Input} {oneOf : Bool}
    (hu : s.baseType? t = some u) (hp : u.parts = .input inputs oneOf)
    (h : ∀ f ∈ fields, ∀ (t : TypeRef) (path : List PathStep),
      Unfit (literalIssues s f.2 t path) ↔ Meets s f.2 t) :
    Unfit (literalIssues s (.object fields p) t path)
      ↔ ∃ i ∈ inputs, ∃ v, lastValue? fields i.name = some v ∧ Meets s v i.type := by
  rw [literalIssues, hu]
  simp only [hp]
  rw [unfit_append, unfit_append, unfit_flatMap]
  constructor
  · rintro ((⟨i, hi, hunfit⟩ | hunfit) | hunfit)
    · exact ⟨i, hi, (unfit_declared h i).mp hunfit⟩
    · exact absurd hunfit not_unfit_unknown
    · split at hunfit
      · exact absurd hunfit not_unfit_alternatives
      · exact absurd hunfit not_unfit_nil
  · rintro ⟨i, hi, hv⟩
    exact Or.inl (Or.inl ⟨i, hi, (unfit_declared h i).mpr hv⟩)

end Objects

theorem baseType?_nullable (t : TypeRef) : s.baseType? t.nullable = s.baseType? t := by
  cases t <;> rfl

mutual

/-- **What is told of a literal.** -/
theorem unfit_literalIssues_iff : ∀ (v : Value) (t : TypeRef) (path : List PathStep),
    Unfit (literalIssues s v t path) ↔ Meets s v t
  | .variable _ _, _, _ => iff_of_false not_unfit_nil fun h => by
      cases h with
      | here judged => exact judged
  | .null _, t, path => by
      refine iff_of_false (fun h => ?_) fun h => ?_
      · rw [literalIssues] at h
        split at h
        · exact not_unfit_singleton (fun _ h => by cases h) h
        · exact not_unfit_nil h
      · cases h with
        | here judged => exact judged
  | .list items p, t, path => by
      have hitems := unfit_items items
      rw [literalIssues]
      split
      · rename_i item hitem
        rw [unfit_itemIssues hitems]
        refine ⟨fun ⟨v, hv, h⟩ => .item hitem hv h, fun h => ?_⟩
        cases h with
        | here judged => exact absurd hitem (judged item)
        | item type mem meets =>
            obtain rfl := TypeRef.list.inj (hitem.symm.trans type)
            exact ⟨_, mem, meets⟩
      · rename_i hlist
        rw [baseType?_nullable]
        refine (unfit_named fun _ _ h => by cases h).trans
          ⟨fun ⟨u, hu, hc⟩ => .here hlist hu hc, fun h => ?_⟩
        cases h with
        | here _ type composite => exact ⟨_, type, composite⟩
        | item type => exact absurd type (hlist _)
  | .object fields p, t, path => by
      have hfields := unfit_fields fields
      cases hu : s.baseType? t with
      | none =>
          refine iff_of_false (fun h => ?_) fun h => ?_
          · rw [literalIssues, hu] at h
            exact not_unfit_nil h
          · cases h with
            | here _ type => cases hu.symm.trans type
            | field type => cases hu.symm.trans type
      | some u =>
          cases hp : u.parts with
          | input inputs oneOf =>
              have hinputs : u.inputFields = inputs := by rw [NamedType.inputFields, hp]
              rw [unfit_object hu hp hfields]
              refine ⟨fun ⟨i, hi, v, hv, h⟩ => .field hu (hinputs ▸ hi) hv h, fun h => ?_⟩
              cases h with
              | here _ type composite =>
                  obtain rfl := Option.some.inj (hu.symm.trans type)
                  rw [isComposite_eq, hp] at composite
                  cases composite
              | field type mem value meets =>
                  obtain rfl := Option.some.inj (hu.symm.trans type)
                  exact ⟨_, hinputs ▸ mem, _, value, meets⟩
          | _ =>
              have hleaf : literalIssues s (.object fields p) t path
                  = leafIssues u path (.object fields p) := by
                rw [literalIssues, hu]
                simp only [hp]
              have hnot : u.isInputObject = false := by rw [NamedType.isInputObject, hp]
              have hnone : u.inputFields = [] := by rw [NamedType.inputFields, hp]
              rw [hleaf, unfit_leafIssues hnot]
              refine ⟨fun hc => .here trivial hu hc, fun h => ?_⟩
              cases h with
              | here _ type composite => exact Option.some.inj (hu.symm.trans type) ▸ composite
              | field type mem =>
                  obtain rfl := Option.some.inj (hu.symm.trans type)
                  rw [hnone] at mem
                  cases mem
  | .int _ _, t, path | .float _ _, t, path | .string _ _ _, t, path | .boolean _ _, t, path
  | .enum _ _, t, path => by
      refine (unfit_named fun _ _ h => by cases h).trans
        ⟨fun ⟨u, hu, hc⟩ => .here trivial hu hc, fun h => ?_⟩
      cases h with
      | here _ type composite => exact ⟨_, type, composite⟩

theorem unfit_items : ∀ (items : List Value), ∀ v ∈ items, ∀ (t : TypeRef) (path : List PathStep),
    Unfit (literalIssues s v t path) ↔ Meets s v t
  | [] => fun _ h => absurd h List.not_mem_nil
  | v :: r => List.forall_mem_cons.mpr ⟨unfit_literalIssues_iff v, unfit_items r⟩

theorem unfit_fields : ∀ (fields : List (Name × Value)), ∀ f ∈ fields, ∀ (t : TypeRef)
    (path : List PathStep), Unfit (literalIssues s f.2 t path) ↔ Meets s f.2 t
  | [] => fun _ h => absurd h List.not_mem_nil
  | (_, v) :: r => List.forall_mem_cons.mpr ⟨unfit_literalIssues_iff v, unfit_fields r⟩

end

/-! ## Violations -/

/-- One of the violations is an obstacle. -/
def Obstructs (faults : List Fault) : Prop := ∃ f ∈ faults, f.obstacle? ≠ none

@[simp] theorem obstructs_nil : Obstructs [] ↔ False := by simp [Obstructs]

@[simp] theorem obstructs_cons {f : Fault} {fs : List Fault} :
    Obstructs (f :: fs) ↔ f.obstacle? ≠ none ∨ Obstructs fs := by
  simp only [Obstructs, List.mem_cons, exists_eq_or_imp]

@[simp] theorem obstructs_append {a b : List Fault} :
    Obstructs (a ++ b) ↔ Obstructs a ∨ Obstructs b := by
  simp only [Obstructs, List.mem_append, or_and_right, exists_or]

@[simp] theorem obstructs_flatMap {α : Type} {f : α → List Fault} {xs : List α} :
    Obstructs (xs.flatMap f) ↔ ∃ x ∈ xs, Obstructs (f x) := by
  simp only [Obstructs, List.mem_flatMap]
  exact ⟨fun ⟨g, ⟨x, hx, hg⟩, h⟩ => ⟨x, hx, g, hg, h⟩, fun ⟨x, hx, g, hg, h⟩ => ⟨g, ⟨x, hx, hg⟩, h⟩⟩

@[simp] theorem obstructs_map {α : Type} {f : α → Fault} {xs : List α} :
    Obstructs (xs.map f) ↔ ∃ x ∈ xs, (f x).obstacle? ≠ none := by
  simp only [Obstructs, List.mem_map]
  exact ⟨fun ⟨_, ⟨x, hx, rfl⟩, h⟩ => ⟨x, hx, h⟩, fun ⟨x, hx, h⟩ => ⟨_, ⟨x, hx, rfl⟩, h⟩⟩

@[simp] theorem obstructs_ite {c : Prop} [Decidable c] {a b : List Fault} :
    Obstructs (if c then a else b) ↔ c ∧ Obstructs a ∨ ¬ c ∧ Obstructs b := by
  by_cases h : c <;> simp [h]

/-- The default value of the input comes upon a type with subfields. -/
def Input.IsUnfit (s : Schema) (i : Input) : Prop := ∃ v, i.default? = some v ∧ Meets s v i.type

@[simp] theorem not_obstructs_nameFaults {name : String} : ¬ Obstructs (nameFaults name) := by
  simp [nameFaults, Fault.obstacle?]

@[simp] theorem obstructs_defaultFaults {label : String} {i : Input} :
    Obstructs (defaultFaults s label i) ↔ i.IsUnfit s := by
  have hissue : ∀ l : LiteralIssue, (Fault.badDefault label l).obstacle? ≠ none
      ↔ ∃ n, l.fault = .notLeaf n := by
    intro l
    cases hl : l.fault <;> simp [Fault.obstacle?, hl]
  rw [defaultFaults, Input.IsUnfit]
  cases i.default? with
  | none => simp
  | some v =>
      rw [obstructs_map]
      simp only [hissue, Option.some.injEq, exists_eq_left', ← unfit_literalIssues_iff v i.type [],
        Unfit]

@[simp] theorem obstructs_argumentFaults {label : String} {a : Input} :
    Obstructs (argumentFaults s label a) ↔ a.IsUnfit s := by
  simp [argumentFaults, Fault.obstacle?]

@[simp] theorem obstructs_directiveFaults {d : DirectiveInfo} :
    Obstructs (directiveFaults s d) ↔ ∃ a ∈ d.arguments, a.IsUnfit s := by
  simp [directiveFaults]

@[simp] theorem obstructs_fieldsFaults {t : NamedType} :
    Obstructs (fieldsFaults s t) ↔ ∃ a ∈ t.fields.flatMap Field.arguments, a.IsUnfit s := by
  have hfaults : Obstructs (fieldsFaults s t) ↔ ∃ f ∈ t.fields, ∃ a ∈ f.arguments, a.IsUnfit s := by
    simp [fieldsFaults, Fault.obstacle?]
  rw [hfaults]
  simp only [List.mem_flatMap]
  exact ⟨fun ⟨f, hf, a, ha, h⟩ => ⟨a, ⟨f, hf, ha⟩, h⟩, fun ⟨a, ⟨f, hf, ha⟩, h⟩ => ⟨f, hf, a, ha, h⟩⟩

@[simp] theorem obstructs_inputFieldsFaults {t : NamedType} {fields : List Input} {oneOf : Bool} :
    Obstructs (inputFieldsFaults s t fields oneOf) ↔ ∃ f ∈ fields, f.IsUnfit s := by
  simp [inputFieldsFaults, Fault.obstacle?]

theorem not_obstructs_promiseFaults {t i : NamedType} {p f : Field} :
    ¬ Obstructs (promiseFaults s t i p f) := by
  simp only [promiseFaults, obstructs_append, obstructs_flatMap]
  rintro (((h | ⟨a, _, h⟩) | ⟨b, _, h⟩) | h)
  · simp [Fault.obstacle?] at h
  · split at h
    · simp [Fault.obstacle?] at h
    · simp [Fault.obstacle?] at h
  · simp [Fault.obstacle?] at h
  · simp [Fault.obstacle?] at h

theorem not_obstructs_interfaceFaults {t : NamedType} {names seen : List String} :
    ¬ Obstructs (interfaceFaults s t names seen) := by
  have hancestors : ∀ i : NamedType, ¬ Obstructs (ancestorFaults t i) := by
    intro i
    rw [ancestorFaults, obstructs_map]
    rintro ⟨a, _, h⟩
    split at h <;> exact h rfl
  have himplementation : ∀ i : NamedType, ¬ Obstructs (implementationFaults s t i) := by
    intro i
    rw [implementationFaults, obstructs_flatMap]
    rintro ⟨p, _, h⟩
    split at h
    · simp [Fault.obstacle?] at h
    · exact not_obstructs_promiseFaults h
  induction names generalizing seen with
  | nil => simp [interfaceFaults]
  | cons n r ih =>
      rw [interfaceFaults]
      cases s.type? n with
      | none => exact ih
      | some i => simp [Fault.obstacle?, ih, hancestors, himplementation]

theorem not_obstructs_memberFaults {t : NamedType} {names seen : List String} :
    ¬ Obstructs (memberFaults s t names seen) := by
  induction names generalizing seen with
  | nil => simp [memberFaults]
  | cons n r ih => simp [memberFaults, Fault.obstacle?, ih]

theorem not_obstructs_rootFaults : ¬ Obstructs (rootFaults s) := by
  rintro ⟨f, hf, h⟩
  simp only [rootFaults, List.mem_append, List.mem_filterMap] at hf
  rcases hf with (hf | ⟨r, _, hf⟩) | ⟨n, _, hf⟩
  · split at hf
    · obtain rfl := List.mem_singleton.mp hf
      exact h rfl
    · cases hf
  · split at hf
    · cases hf
    · exact h (Option.some.inj hf ▸ rfl)
  · split at hf
    · cases hf
    · exact h (Option.some.inj hf ▸ rfl)

/-- What is found step by step holds no obstacle if no step finds one. -/
theorem foldl_obstructs {α β : Type} (faults : β → List Fault) {step : β → α → β}
    (h : ∀ st x, Obstructs (faults (step st x)) → Obstructs (faults st)) (xs : List α) (st : β) :
    Obstructs (faults (xs.foldl step st)) → Obstructs (faults st) := by
  induction xs generalizing st with
  | nil => exact id
  | cons x r ih => exact fun hr => h st x (ih _ hr)

mutual

/-- The search for circles through default values finds no obstacle. -/
theorem searchLiteral_obstructs : ∀ (n : Nat) (t : NamedType) (v : Value) (path : List String)
    (st : DefaultSearch), Obstructs (searchLiteral s n t v path st).faults → Obstructs st.faults
  | 0, _, _, _, _ => id
  | n + 1, t, v, path, st => by
      cases v with
      | list items p =>
          exact foldl_obstructs DefaultSearch.faults
            (fun st v => searchLiteral_obstructs n t v path st) items st
      | object fields p =>
          refine foldl_obstructs DefaultSearch.faults (fun st f h => ?_) t.inputFields st
          split at h
          · exact h
          · rename_i ft _
            split at h
            · exact h
            · split at h
              · exact searchLiteral_obstructs n ft _ path st h
              · exact searchField_obstructs n t f ft path st h
      | _ => exact id

theorem searchField_obstructs : ∀ (n : Nat) (t : NamedType) (f : Input) (ft : NamedType)
    (path : List String) (st : DefaultSearch),
    Obstructs (searchField s n t f ft path st).faults → Obstructs st.faults
  | 0, _, _, _, _, _ => id
  | n + 1, t, f, ft, path, st => by
      rw [searchField]
      split
      · exact id
      · dsimp only
        split
        · simp [Fault.obstacle?]
        · split
          · exact id
          · exact searchLiteral_obstructs n ft _ _ _

end

theorem not_obstructs_searchDefaults {t : NamedType} {visited : List String} :
    ¬ Obstructs (searchDefaults s t ⟨visited, []⟩).faults := fun h =>
  obstructs_nil.mp (searchLiteral_obstructs _ t _ _ _ h)

theorem searchEndless_obstructs {finite : List String} (n : Nat) (t : NamedType)
    (path : List (String × String)) (st : EndlessSearch) :
    Obstructs (searchEndless s finite n t path st).faults → Obstructs st.faults := by
  induction n generalizing t path st with
  | zero => exact id
  | succ n ih =>
      rw [searchEndless]
      split
      · exact id
      · refine foldl_obstructs EndlessSearch.faults (fun st f h => ?_) _ _
        dsimp only at h
        split at h
        · exact h
        · split at h
          · simpa [Fault.obstacle?] using h
          · exact ih _ _ st h

theorem not_obstructs_endlessFaults : ¬ Obstructs (endlessFaults s) := by
  intro h
  refine obstructs_nil.mp (foldl_obstructs EndlessSearch.faults (fun st t h => ?_) _ _ h)
  split at h
  · exact h
  · exact searchEndless_obstructs _ _ _ st h

/-! ## Schemas -/

/-- The inputs of a type: the arguments of its fields, or its fields if it is an input object. -/
def NamedType.inputs (t : NamedType) : List Input :=
  t.fields.flatMap Field.arguments ++ t.inputFields

/-- The inputs of a schema: the arguments of its directives, and the inputs of its types. -/
def inputs (s : Schema) : List Input :=
  s.directives.flatMap DirectiveInfo.arguments ++ s.types.flatMap NamedType.inputs

theorem obstructs_typeFaults {misused : List (String × Misuse)} {st : TypesState} {t : NamedType} :
    Obstructs (typeFaults s misused st t).faults ↔ Obstructs st.faults
      ∨ (∃ i ∈ t.inputs, i.IsUnfit s) ∨ t.isEnum = true ∧ ∃ m ∈ misused, m.1 = t.name := by
  rw [typeFaults]
  cases hp : t.parts with
  | scalar => simp [NamedType.inputs, NamedType.fields, NamedType.inputFields, NamedType.isEnum, hp]
  | object is fs | interface is fs =>
      simp [NamedType.inputs, NamedType.fields, NamedType.inputFields, NamedType.isEnum, hp,
        not_obstructs_interfaceFaults]
  | union ms =>
      simp [NamedType.inputs, NamedType.fields, NamedType.inputFields, NamedType.isEnum, hp,
        not_obstructs_memberFaults, Fault.obstacle?]
  | enum vs =>
      simp [NamedType.inputs, NamedType.fields, NamedType.inputFields, NamedType.isEnum, hp,
        Fault.obstacle?]
  | input fs oneOf =>
      simp [NamedType.inputs, NamedType.fields, NamedType.inputFields, NamedType.isEnum, hp,
        not_obstructs_searchDefaults]

theorem obstructs_foldl_typeFaults {misused : List (String × Misuse)} {ts : List NamedType}
    {st : TypesState} : Obstructs (ts.foldl (typeFaults s misused) st).faults ↔ Obstructs st.faults
      ∨ ∃ t ∈ ts, (∃ i ∈ t.inputs, i.IsUnfit s)
        ∨ t.isEnum = true ∧ ∃ m ∈ misused, m.1 = t.name := by
  induction ts generalizing st with
  | nil => simp
  | cons t r ih =>
      rw [List.foldl_cons, ih, obstructs_typeFaults]
      simp only [List.mem_cons, exists_eq_or_imp, or_assoc]

/-- **When violations of a schema are obstacles.** -/
theorem obstructs_faults {misused : List (String × Misuse)} : Obstructs (s.faults misused)
    ↔ (∃ i ∈ s.inputs, i.IsUnfit s)
      ∨ ∃ t ∈ s.types, t.isEnum = true ∧ ∃ m ∈ misused, m.1 = t.name := by
  have hinputs : (∃ i ∈ s.inputs, i.IsUnfit s) ↔ (∃ d ∈ s.directives, ∃ a ∈ d.arguments, a.IsUnfit s)
      ∨ ∃ t ∈ s.types, ∃ i ∈ t.inputs, i.IsUnfit s := by
    simp only [inputs, List.mem_append, List.mem_flatMap, or_and_right, exists_or]
    exact or_congr ⟨fun ⟨i, ⟨d, hd, hi⟩, h⟩ => ⟨d, hd, i, hi, h⟩,
      fun ⟨d, hd, i, hi, h⟩ => ⟨i, ⟨d, hd, hi⟩, h⟩⟩ ⟨fun ⟨i, ⟨t, ht, hi⟩, h⟩ => ⟨t, ht, i, hi, h⟩,
      fun ⟨t, ht, i, hi, h⟩ => ⟨i, ⟨t, ht, hi⟩, h⟩⟩
  rw [hinputs]
  simp only [faults, obstructs_append, obstructs_flatMap, obstructs_directiveFaults,
    obstructs_foldl_typeFaults, not_obstructs_rootFaults, not_obstructs_endlessFaults, obstructs_nil,
    false_or, or_false, and_or_left, exists_or, or_assoc]

/-- An enum is among those of which the values cannot be evaluated where some of them are misused. -/
theorem exists_enumsMisused_iff {d : Document} :
    (∃ t ∈ s.types, t.isEnum = true ∧ ∃ m ∈ enumsMisused s d, m.1 = t.name)
      ↔ ∃ t ∈ s.types, t.isEnum = true ∧ (partsOfType d t.name).flatMap (enumMisuses s) ≠ [] := by
  constructor
  · rintro ⟨_, _, _, m, hm, _⟩
    obtain ⟨u, hu, hhead⟩ := List.mem_filterMap.mp hm
    obtain ⟨hmem, hkind⟩ := List.mem_filter.mp hu
    refine ⟨u, hmem, hkind, fun hnil => ?_⟩
    rw [hnil] at hhead
    cases hhead
  · rintro ⟨t, ht, hkind, hne⟩
    obtain ⟨m, r, hmisuses⟩ := List.exists_cons_of_ne_nil hne
    refine ⟨t, ht, hkind, (t.name, m), List.mem_filterMap.mpr ⟨t, ?_, ?_⟩, rfl⟩
    · exact List.mem_filter.mpr ⟨ht, hkind⟩
    · rw [hmisuses]
      rfl

/-- The definitions of a text make a schema that cannot be examined: the default value of an input
    comes upon a type with subfields, or values of an enum are misused. -/
def Unexaminable (text : String) : Prop :=
  ∃ d, Document.ofText text = .ok d ∧ Check.definitionIssues d = []
    ∧ misuses (ofDefinitions d) d = []
    ∧ ((∃ i ∈ (ofDefinitions d).inputs, i.IsUnfit (ofDefinitions d))
      ∨ ∃ t ∈ (ofDefinitions d).types, t.isEnum = true
        ∧ (partsOfType d t.name).flatMap (enumMisuses (ofDefinitions d)) ≠ [])

/-- A text is a schema where its definitions keep all rules, no directive is misused, and there are no
    violations. -/
def IsSchema (text : String) (s : Schema) : Prop :=
  ∃ d, Document.ofText text = .ok d ∧ Check.definitionIssues d = []
    ∧ misuses (ofDefinitions d) d = [] ∧ s = ofDefinitions d ∧ s.faults (enumsMisused s d) = []

/-- One of the violations is an obstacle where a first one is found. -/
theorem obstructs_iff {faults : List Fault} :
    Obstructs faults ↔ ∃ o, faults.findSome? Fault.obstacle? = some o := by
  rw [← Option.isSome_iff_exists, List.findSome?_isSome_iff]
  simp only [Obstructs, Option.isSome_iff_ne_none]

/-- **When a text is a schema.** -/
theorem ofText_eq_ok_iff {text : String} : Schema.ofText text = .ok s ↔ IsSchema text s := by
  unfold Schema.ofText IsSchema
  cases Document.ofText text with
  | error e => exact iff_of_false (fun h => by cases h) (fun ⟨_, h, _⟩ => by cases h)
  | ok d =>
      simp only [Except.ok.injEq, exists_eq_left']
      cases Check.definitionIssues d with
      | cons i r => exact iff_of_false (fun h => by cases h) (fun ⟨h, _⟩ => by cases h)
      | nil =>
          dsimp only
          cases misuses (ofDefinitions d) d with
          | cons m r => exact iff_of_false (fun h => by cases h) (fun ⟨_, h, _⟩ => by cases h)
          | nil =>
              dsimp only
              constructor
              · intro h
                split at h
                · cases h
                · split at h
                  case isFalse => cases h
                  case isTrue hempty =>
                    cases h
                    exact ⟨rfl, rfl, rfl, List.isEmpty_iff.mp hempty⟩
              · rintro ⟨-, -, rfl, hsound⟩
                rw [hsound]
                rfl

/-- **When a schema cannot be examined.** -/
theorem ofText_unexaminable_iff {text : String} :
    (∃ shown o, Schema.ofText text = .error (.unexaminable shown o)) ↔ Unexaminable text := by
  unfold Schema.ofText Unexaminable
  cases Document.ofText text with
  | error e => exact iff_of_false (fun ⟨_, _, h⟩ => by cases h) (fun ⟨_, h, _⟩ => by cases h)
  | ok d =>
      simp only [Except.ok.injEq, exists_eq_left']
      cases Check.definitionIssues d with
      | cons i r => exact iff_of_false (fun ⟨_, _, h⟩ => by cases h) (fun ⟨h, _⟩ => by cases h)
      | nil =>
          dsimp only
          cases misuses (ofDefinitions d) d with
          | cons m r =>
              exact iff_of_false (fun ⟨_, _, h⟩ => by cases h) (fun ⟨_, h, _⟩ => by cases h)
          | nil =>
              rw [← exists_enumsMisused_iff, ← obstructs_faults, obstructs_iff]
              simp only [true_and]
              split
              case h_1 _ first hfirst => simp [hfirst]
              case h_2 hnone =>
                rw [hnone]
                split <;> simp

end QueryTypings.Schema
