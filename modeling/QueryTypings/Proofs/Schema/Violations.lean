/-
  Violations of rearranged schemas.

  A schema with the same parts in another order and without places (`Rearranged`) has the same names
  and types.  So what is judged by looking names up is judged alike in both schemas.

  1. **Literals** — a leaf is judged by its kind and its text (`leafIssues_unplaced`), and a literal
     by its parts, so it fits a type of the one schema if it fits that of the other
     (`literalIssues_rearranged`).

  2. **Inputs, objects and interfaces, roots** — each kind of violation by the violations inside it
     (`argumentFaults_rearranged`, `fieldsFaults_rearranged`, `interfaceFaults_rearranged`).

  3. **Misuses** — directives are misused in rearranged definitions if they are in the definitions
     (`misuses_rearranged`, `enumsMisused_rearranged`).
-/
import QueryTypings.Proofs.Schema.Rearranged
import QueryTypings.Proofs.Schema.Obstacles

namespace QueryTypings.Schema

open QueryTypings.Graphql QueryTypings.Text

/-! ## Literals -/

theorem scalarFault?_unplaced (scalar : String) (v : Value) :
    scalarFault? scalar v.unplaced = none ↔ scalarFault? scalar v = none := by
  cases v <;> unfold scalarFault? Value.unplaced <;> split <;> simp_all

/-- Only the names of its values are values of an enum. -/
theorem enumFault?_eq_none_iff {type : String} {values : List String} {v : Value} :
    enumFault? type values v = none ↔ ∃ n p, v = .enum n p ∧ n ∈ values := by
  cases v with
  | enum n p =>
      rw [enumFault?]
      by_cases hn : n ∈ values <;> simp [hn]
  | _ =>
      simp only [enumFault?]
      split <;> simp

theorem enumFault?_unplaced (type : String) (values : List String) (v : Value) :
    enumFault? type values v.unplaced = none ↔ enumFault? type values v = none := by
  rw [enumFault?_eq_none_iff, enumFault?_eq_none_iff]
  cases v <;> simp [Value.unplaced]

mutual

/-- What is left of a literal without variables has no places either. -/
theorem withoutVariables_unplaced : ∀ v : Value,
    withoutVariables v.unplaced = (withoutVariables v).unplaced
  | .variable _ _ | .int _ _ | .float _ _ | .string _ _ _ | .boolean _ _ | .null _ | .enum _ _ => rfl
  | .list items _ => by
      rw [Value.unplaced, withoutVariables, withoutVariables, Value.unplaced,
        itemsWithoutVariables_unplaced items]
  | .object fields _ => by
      rw [Value.unplaced, withoutVariables, withoutVariables, Value.unplaced,
        fieldsWithoutVariables_unplaced fields]

theorem itemsWithoutVariables_unplaced : ∀ items : List Value,
    itemsWithoutVariables (valuesUnplaced items) = valuesUnplaced (itemsWithoutVariables items)
  | [] => rfl
  | v :: r => by
      rw [valuesUnplaced, itemsWithoutVariables, itemsWithoutVariables, valuesUnplaced,
        withoutVariables_unplaced v, itemsWithoutVariables_unplaced r]

theorem fieldsWithoutVariables_unplaced : ∀ fields : List (Name × Value),
    fieldsWithoutVariables (objectFieldsUnplaced fields)
      = objectFieldsUnplaced (fieldsWithoutVariables fields)
  | [] => rfl
  | (n, v) :: r => by
      have hr := fieldsWithoutVariables_unplaced r
      have hv := withoutVariables_unplaced v
      cases v with
      | «variable» m p => exact hr
      | _ =>
          rw [objectFieldsUnplaced, Value.unplaced, fieldsWithoutVariables, fieldsWithoutVariables,
            objectFieldsUnplaced, hr, ← hv] <;> first | rfl | nofun

end

/-- A leaf is judged by its kind. -/
theorem leafIssues_eq_nil_iff {t : NamedType} {path : List PathStep} {v : Value} :
    leafIssues t path v = [] ↔ (match t.parts with
      | .scalar => scalarFault? t.name (withoutVariables v)
      | .enum values => enumFault? t.name values (withoutVariables v)
      | _ => some (.notLeaf t.name)) = none := by
  have hempty {fault : Option LiteralFault} {f : LiteralFault → LiteralIssue} :
      fault.toList.map f = [] ↔ fault = none := by
    cases fault <;> simp
  unfold leafIssues
  exact hempty

theorem leafIssues_unplaced (t : NamedType) (path : List PathStep) (v : Value) :
    leafIssues t.unplaced path v.unplaced = [] ↔ leafIssues t path v = [] := by
  rw [leafIssues_eq_nil_iff, leafIssues_eq_nil_iff, withoutVariables_unplaced]
  unfold NamedType.unplaced
  cases t.parts with
  | scalar => exact scalarFault?_unplaced t.name _
  | enum values => exact enumFault?_unplaced t.name values _
  | object is fs | interface is fs | union ms | input fs oneOf => exact Iff.rfl

theorem lastValue?_unplaced (fields : List (Name × Value)) (name : String) :
    lastValue? (objectFieldsUnplaced fields) name
      = (lastValue? fields name).map Value.unplaced := by
  rw [lastValue?, lastValue?, objectFieldsUnplaced_eq, ← List.map_reverse, List.find?_map,
    Option.map_map, Option.map_map]
  rfl

theorem givenFields_unplaced (fields : List (Name × Value)) (names : List String) :
    givenFields (objectFieldsUnplaced fields) names = givenFields fields names := by
  rw [givenFields, givenFields, objectFieldsUnplaced_eq, List.map_map]
  rfl

/-- Whether exactly one field is given, and not as null. -/
theorem alternative_unplaced (fields : List (Name × Value)) (names : List String)
    {several several' : LiteralIssue} {null null' : String → LiteralIssue} :
    (match (givenFields (objectFieldsUnplaced fields) names).eraseDups with
      | [name] =>
          match lastValue? (objectFieldsUnplaced fields) name with
          | some (.null _) => [null' name]
          | _ => []
      | _ => [several']) = []
    ↔ (match (givenFields fields names).eraseDups with
      | [name] =>
          match lastValue? fields name with
          | some (.null _) => [null name]
          | _ => []
      | _ => [several]) = [] := by
  rw [givenFields_unplaced]
  split
  · rename_i name _
    rw [lastValue?_unplaced]
    cases lastValue? fields name with
    | none => exact Iff.rfl
    | some v => cases v <;> simp [Value.unplaced]
  · simp

section Rearranged

variable {s S : Schema}

/-- A single literal is judged by its type. -/
theorem named_rearranged (h : s.Rearranged S) {t : TypeRef} {path : List PathStep} {v : Value}
    {wrong wrong' : NamedType → LiteralIssue} :
    (match S.baseType? t with
      | none => []
      | some u => if u.isInputObject then [wrong' u] else leafIssues u path v.unplaced) = []
    ↔ (match s.baseType? t with
      | none => []
      | some u => if u.isInputObject then [wrong u] else leafIssues u path v) = [] := by
  rw [h.baseType?]
  cases s.baseType? t with
  | none => exact Iff.rfl
  | some u =>
      simp only [Option.map_some, NamedType.isInputObject_unplaced]
      cases u.isInputObject with
      | true => simp
      | false => exact leafIssues_unplaced u path v

/-- What is given for a field, or is not. -/
theorem declared_rearranged {fields : List (Name × Value)}
    (hfields : ∀ f ∈ fields, ∀ (t : TypeRef) (path : List PathStep),
      literalIssues S f.2.unplaced t path = [] ↔ literalIssues s f.2 t path = [])
    (i : Input) {path : List PathStep} {missing missing' : LiteralIssue} :
    (match fieldIssues S (objectFieldsUnplaced fields) i.name i.type path with
      | some issues => issues
      | none => if i.unplaced.isRequired then [missing'] else []) = []
    ↔ (match fieldIssues s fields i.name i.type path with
      | some issues => issues
      | none => if i.isRequired then [missing] else []) = [] := by
  rw [fieldIssues_eq, fieldIssues_eq, lastValue?_unplaced]
  cases hv : lastValue? fields i.name with
  | none =>
      rw [Input.isRequired_unplaced]
      cases i.isRequired <;> simp
  | some v =>
      obtain ⟨f, hf, rfl⟩ := exists_of_lastValue? hv
      exact hfields f hf i.type path

mutual

/-- **A literal fits a type** of a rearranged schema if it fits the type. -/
theorem literalIssues_rearranged (h : s.Rearranged S) :
    ∀ (v : Value) (t : TypeRef) (path : List PathStep),
    literalIssues S v.unplaced t path = [] ↔ literalIssues s v t path = []
  | .variable _ _, _, _ => Iff.rfl
  | .null _, t, path => by
      rw [Value.unplaced, literalIssues, literalIssues]
      cases t.isNonNull <;> simp
  | .list items p, t, path => by
      rw [Value.unplaced, literalIssues, literalIssues]
      cases t.nullable with
      | list item => exact itemIssues_rearranged h items item path 0
      | named n => exact @named_rearranged s S h (.named n) path (.list items p) _ _
      | nonNull t => exact @named_rearranged s S h (.nonNull t) path (.list items p) _ _
  | .object fields p, t, path => by
      have hfields := fields_rearranged h fields
      rw [Value.unplaced, literalIssues, literalIssues, h.baseType?]
      cases s.baseType? t with
      | none => exact Iff.rfl
      | some u =>
          cases hp : u.parts with
          | input inputs oneOf =>
              have hnames : (inputs.map Input.unplaced).map Input.name = inputs.map Input.name := by
                rw [List.map_map]
                rfl
              simp only [Option.map_some, NamedType.unplaced, hp, Parts.unplaced, hnames,
                List.append_eq_nil_iff]
              refine and_congr (and_congr ?_ ?_) ?_
              · exact flatMap_map_eq_nil_iff Input.unplaced
                  (fun i => declared_rearranged hfields i) inputs
              · rw [objectFieldsUnplaced_eq]
                refine flatMap_map_eq_nil_iff
                  (fun f : Name × Value => (f.1.unplaced, f.2.unplaced)) (fun f => ?_) fields
                rw [Name.text_unplaced]
                split <;> simp
              · cases oneOf with
                | false => exact Iff.rfl
                | true => exact alternative_unplaced fields _
          | _ =>
              have hleaf := leafIssues_unplaced u path (.object fields p)
              simp only [Option.map_some, NamedType.unplaced, hp, Parts.unplaced] at hleaf ⊢
              exact hleaf
  | .int _ _, t, path | .float _ _, t, path | .string _ _ _, t, path | .boolean _ _, t, path
  | .enum _ _, t, path => by
      exact named_rearranged h

theorem itemIssues_rearranged (h : s.Rearranged S) :
    ∀ (items : List Value) (t : TypeRef) (path : List PathStep) (i : Nat),
    itemIssues S (valuesUnplaced items) t path i = [] ↔ itemIssues s items t path i = []
  | [], _, _, _ => Iff.rfl
  | v :: r, t, path, i => by
      rw [valuesUnplaced, itemIssues, itemIssues, List.append_eq_nil_iff, List.append_eq_nil_iff,
        literalIssues_rearranged h v, itemIssues_rearranged h r]

theorem fields_rearranged (h : s.Rearranged S) : ∀ (fields : List (Name × Value)), ∀ f ∈ fields,
    ∀ (t : TypeRef) (path : List PathStep),
    literalIssues S f.2.unplaced t path = [] ↔ literalIssues s f.2 t path = []
  | [] => fun f hf => absurd hf List.not_mem_nil
  | (n, v) :: r => fun f hf => by
      rcases List.mem_cons.mp hf with rfl | hf
      · exact literalIssues_rearranged h v
      · exact fields_rearranged h r f hf

end

end Rearranged

/-! ## Inputs -/

section Parts

variable {s S : Schema} (h : s.Rearranged S)

include h

theorem isInputType_rearranged (t : TypeRef) : isInputType S t = isInputType s t := by
  rw [isInputType, isInputType, h.baseType?, Option.map_map]
  cases s.baseType? t with
  | none => rfl
  | some u => exact u.isInput_unplaced

theorem isOutputType_rearranged (t : TypeRef) : isOutputType S t = isOutputType s t := by
  rw [isOutputType, isOutputType, h.baseType?, Option.map_map]
  cases s.baseType? t with
  | none => rfl
  | some u => exact u.isOutput_unplaced

theorem defaultFaults_rearranged (label : String) (i : Input) :
    defaultFaults S label i.unplaced = [] ↔ defaultFaults s label i = [] := by
  rw [defaultFaults, defaultFaults, Input.unplaced]
  cases i.default? with
  | none => exact Iff.rfl
  | some v =>
      simp only [Option.map_some, List.map_eq_nil_iff]
      exact literalIssues_rearranged h v i.type []

theorem argumentFaults_rearranged (label : String) (a : Input) :
    argumentFaults S label a.unplaced = [] ↔ argumentFaults s label a = [] := by
  have hname : a.unplaced.name = a.name := rfl
  have htype : a.unplaced.type = a.type := rfl
  have hdeprecated : a.unplaced.deprecated = a.deprecated := rfl
  simp only [argumentFaults, List.append_eq_nil_iff, defaultFaults_rearranged h,
    Input.isRequired_unplaced, hname, htype, hdeprecated, isInputType_rearranged h]

theorem arguments_rearranged (label : Input → String) (hlabel : ∀ a, label a.unplaced = label a)
    (as : List Input) :
    (as.map Input.unplaced).flatMap (fun a => argumentFaults S (label a) a) = []
      ↔ as.flatMap (fun a => argumentFaults s (label a) a) = [] := by
  refine flatMap_map_eq_nil_iff Input.unplaced (fun a => ?_) as
  rw [hlabel]
  exact argumentFaults_rearranged h (label a) a

theorem directiveFaults_rearranged (d : DirectiveInfo) :
    directiveFaults S d.unplaced = [] ↔ directiveFaults s d = [] := by
  have harguments := arguments_rearranged h (fun a => "@" ++ d.name ++ "(" ++ a.name ++ ":)")
    (fun _ => rfl) d.arguments
  rw [directiveFaults, directiveFaults, List.append_eq_nil_iff, List.append_eq_nil_iff]
  exact and_congr_right fun _ => harguments

theorem inputFieldsFaults_rearranged (t : NamedType) (fields : List Input) (oneOf : Bool) :
    inputFieldsFaults S t.unplaced (fields.map Input.unplaced) oneOf = []
      ↔ inputFieldsFaults s t fields oneOf = [] := by
  rw [inputFieldsFaults, inputFieldsFaults, List.append_eq_nil_iff, List.append_eq_nil_iff,
    List.isEmpty_map]
  refine and_congr_right fun _ => ?_
  refine flatMap_map_eq_nil_iff Input.unplaced (fun i => ?_) fields
  have hname : i.unplaced.name = i.name := rfl
  have htype : i.unplaced.type = i.type := rfl
  have hdeprecated : i.unplaced.deprecated = i.deprecated := rfl
  have hdefault : i.unplaced.default?.isSome = i.default?.isSome := Option.isSome_map
  simp only [List.append_eq_nil_iff, defaultFaults_rearranged h, Input.isRequired_unplaced, hname,
    htype, hdeprecated, hdefault, isInputType_rearranged h, NamedType.name_unplaced]

/-! ## Objects and interfaces -/

theorem fieldsFaults_rearranged (t : NamedType) :
    fieldsFaults S t.unplaced = [] ↔ fieldsFaults s t = [] := by
  rw [fieldsFaults, fieldsFaults, List.append_eq_nil_iff, List.append_eq_nil_iff,
    NamedType.fields_unplaced, List.isEmpty_map]
  refine and_congr_right fun _ => ?_
  refine flatMap_map_eq_nil_iff Field.unplaced (fun f => ?_) t.fields
  have harguments := arguments_rearranged h (fun a => argumentLabel t.name f.name a.name)
    (fun _ => rfl) f.arguments
  have htype : f.unplaced.type = f.type := rfl
  simp only [List.append_eq_nil_iff, htype, isOutputType_rearranged h]
  exact and_congr_right fun _ => harguments

omit h in
theorem isPossibleType_unplaced (t u : NamedType) :
    isPossibleType t.unplaced u.unplaced = isPossibleType t u := by
  have hparts : t.unplaced.parts = t.parts.unplaced := rfl
  rw [isPossibleType, isPossibleType, hparts]
  cases t.parts with
  | interface is fs =>
      simp only [Parts.unplaced, NamedType.isObject_unplaced, NamedType.isInterface_unplaced,
        NamedType.interfaces_unplaced, NamedType.name_unplaced]
  | _ => rfl

theorem isSubtype_rearranged (a b : TypeRef) : S.isSubtype a b = s.isSubtype a b := by
  induction a generalizing b with
  | nonNull a ih => cases b <;> simp only [Schema.isSubtype, ih]
  | list a ih => cases b <;> simp only [Schema.isSubtype, ih]
  | named n =>
      cases b with
      | nonNull b | list b => simp only [Schema.isSubtype]
      | named m =>
          rw [Schema.isSubtype, Schema.isSubtype, h.type?, h.type?]
          cases s.type? n with
          | none => rfl
          | some t =>
              cases s.type? m with
              | none => rfl
              | some u =>
                  simp only [Option.map_some, NamedType.isAbstract_unplaced,
                    NamedType.isInterface_unplaced, NamedType.isObject_unplaced,
                    isPossibleType_unplaced]

omit h in
theorem ancestorFaults_unplaced (t i : NamedType) :
    ancestorFaults t.unplaced i.unplaced = ancestorFaults t i := by
  rw [ancestorFaults, ancestorFaults, NamedType.interfaces_unplaced, NamedType.interfaces_unplaced]
  rfl

theorem promiseFaults_rearranged (t i : NamedType) (p f : Field) :
    promiseFaults S t.unplaced i.unplaced p.unplaced f.unplaced = []
      ↔ promiseFaults s t i p f = [] := by
  simp only [promiseFaults, List.append_eq_nil_iff]
  refine and_congr (and_congr (and_congr ?_ ?_) ?_) Iff.rfl
  · have htype (f : Field) : f.unplaced.type = f.type := rfl
    rw [htype, htype, isSubtype_rearranged h]
    split <;> simp
  · refine flatMap_map_eq_nil_iff Input.unplaced (fun a => ?_) p.arguments
    have hname : a.unplaced.name = a.name := rfl
    rw [hname, Field.argument?_unplaced]
    cases f.argument? a.name with
    | none => simp
    | some b =>
        have htype (i : Input) : i.unplaced.type = i.type := rfl
        simp only [Option.map_some, htype]
        split <;> simp
  · refine flatMap_map_eq_nil_iff Input.unplaced (fun b => ?_) f.arguments
    have hname : b.unplaced.name = b.name := rfl
    rw [hname, Field.argument?_unplaced, Input.isRequired_unplaced, Option.isNone_map]
    split <;> simp

theorem implementationFaults_rearranged (t i : NamedType) :
    implementationFaults S t.unplaced i.unplaced = [] ↔ implementationFaults s t i = [] := by
  rw [implementationFaults, implementationFaults, NamedType.fields_unplaced]
  refine flatMap_map_eq_nil_iff Field.unplaced (fun p => ?_) i.fields
  have hname : p.unplaced.name = p.name := rfl
  rw [hname, NamedType.field?_unplaced]
  cases t.field? p.name with
  | none => simp
  | some f => exact promiseFaults_rearranged h t i p f

theorem interfaceFaults_rearranged (t : NamedType) (names seen : List String) :
    interfaceFaults S t.unplaced names seen = [] ↔ interfaceFaults s t names seen = [] := by
  induction names generalizing seen with
  | nil => exact Iff.rfl
  | cons n r ih =>
      rw [interfaceFaults, interfaceFaults, h.type?]
      cases s.type? n with
      | none => exact ih seen
      | some i =>
          simp only [Option.map_some, NamedType.isInterface_unplaced, NamedType.name_unplaced,
            ancestorFaults_unplaced]
          split
          · simp
          · rw [List.append_eq_nil_iff, List.append_eq_nil_iff]
            refine and_congr_right fun _ => ?_
            split
            · simp
            · simp only [List.append_eq_nil_iff, implementationFaults_rearranged h, ih]

theorem memberFaults_rearranged (t : NamedType) (names seen : List String) :
    memberFaults S t.unplaced names seen = memberFaults s t names seen := by
  induction names generalizing seen with
  | nil => rfl
  | cons n r ih =>
      have hkind : ((S.type? n).map NamedType.isObject).getD false
          = ((s.type? n).map NamedType.isObject).getD false := by
        rw [h.type?, Option.map_map]
        cases s.type? n with
        | none => rfl
        | some u => exact u.isObject_unplaced
      simp only [memberFaults, hkind, ih, NamedType.name_unplaced]

/-! ## Roots -/

theorem rootFaults_rearranged : rootFaults S = rootFaults s := by
  have hkind (n : String) : ((S.type? n).map NamedType.isObject).getD false
      = ((s.type? n).map NamedType.isObject).getD false := by
    rw [h.type?, Option.map_map]
    cases s.type? n with
    | none => rfl
    | some u => exact u.isObject_unplaced
  have hquery : S.query = s.query := h.root? .query
  simp only [rootFaults, hkind, h.root?, hquery]

end Parts

/-! ## Misuses -/

section Misuses

variable {s S : Schema} (h : s.Rearranged S)

include h

theorem directiveMisuses_rearranged (standard : DirectiveInfo) (given : Directive) :
    directiveMisuses S standard given.unplaced = [] ↔ directiveMisuses s standard given = [] := by
  simp only [directiveMisuses, List.flatMap_eq_nil_iff]
  refine forall₂_congr fun i _ => ?_
  have hfind : given.unplaced.arguments.find? (fun a => a.name.text == i.name)
      = (given.arguments.find? fun a => a.name.text == i.name).map Argument.unplaced := by
    rw [Directive.unplaced, List.find?_map]
    rfl
  rw [hfind]
  cases given.arguments.find? fun a => a.name.text == i.name with
  | none => cases i.isRequired <;> simp
  | some a =>
      simp only [Option.map_some, List.map_eq_nil_iff]
      exact literalIssues_rearranged h a.value i.type []

theorem misusesOf_rearranged (name : String) (ds : List Directive) :
    misusesOf S name (ds.map Directive.unplaced) = [] ↔ misusesOf s name ds = [] := by
  have hfind : (ds.map Directive.unplaced).find? (fun d => d.name.text == name)
      = (ds.find? fun d => d.name.text == name).map Directive.unplaced := by
    rw [List.find?_map]
    rfl
  rw [misusesOf, misusesOf, hfind]
  cases standardDirectives.find? fun d => d.name == name with
  | none => exact Iff.rfl
  | some standard =>
      cases ds.find? fun d => d.name.text == name with
      | none => exact Iff.rfl
      | some given => exact directiveMisuses_rearranged h standard given

theorem inputMisuses_rearranged (is : List InputDefinition) :
    inputMisuses S (is.map InputDefinition.unplaced) = [] ↔ inputMisuses s is = [] :=
  flatMap_map_eq_nil_iff InputDefinition.unplaced
    (fun i => misusesOf_rearranged h "deprecated" i.directives) is

theorem fieldMisuses_rearranged (fs : List FieldDefinition) :
    fieldMisuses S (fs.map FieldDefinition.unplaced) = [] ↔ fieldMisuses s fs = [] := by
  refine flatMap_map_eq_nil_iff FieldDefinition.unplaced (fun f => ?_) fs
  rw [List.append_eq_nil_iff, List.append_eq_nil_iff]
  exact and_congr (inputMisuses_rearranged h f.arguments)
    (misusesOf_rearranged h "deprecated" f.directives)

theorem scalarMisuses_rearranged (t : TypeDefinition) :
    scalarMisuses S t.unplaced = [] ↔ scalarMisuses s t = [] := by
  have hparts : t.unplaced.parts = t.parts.unplaced := rfl
  rw [scalarMisuses, scalarMisuses, hparts]
  cases t.parts with
  | scalar => exact misusesOf_rearranged h "specifiedBy" t.directives
  | _ => exact Iff.rfl

theorem enumMisuses_rearranged (t : TypeDefinition) :
    enumMisuses S t.unplaced = [] ↔ enumMisuses s t = [] := by
  have hparts : t.unplaced.parts = t.parts.unplaced := rfl
  rw [enumMisuses, enumMisuses, hparts]
  cases t.parts with
  | enum vs =>
      exact flatMap_map_eq_nil_iff EnumValueDefinition.unplaced
        (fun v => misusesOf_rearranged h "deprecated" v.directives) vs
  | _ => exact Iff.rfl

theorem compositeMisuses_rearranged (t : TypeDefinition) :
    compositeMisuses S t.unplaced = [] ↔ compositeMisuses s t = [] := by
  have hparts : t.unplaced.parts = t.parts.unplaced := rfl
  simp only [compositeMisuses, List.map_eq_nil_iff, hparts]
  cases t.parts with
  | object is fs | interface is fs => exact fieldMisuses_rearranged h fs
  | input fs => exact inputMisuses_rearranged h fs
  | _ => exact Iff.rfl

variable {d D : Document} (hD : D.Perm d.unplaced) (hd : typeExtensions d = [])

include hD

omit h in
include hd in
theorem partsOfType_perm (name : String) :
    (partsOfType D name).Perm ((partsOfType d name).map TypeDefinition.unplaced) := by
  rw [partsOfType, partsOfType, hd, (Check.typeExtensions_eq_nil_iff hD).mpr hd]
  split
  · exact .refl _
  · rw [List.append_nil, List.append_nil]
    refine ((Check.typeDefinitions_perm hD).filter _).trans (.of_eq ?_)
    rw [List.filter_map]
    rfl

omit h in
theorem directiveExtensions_perm (name : String) :
    (directiveExtensions D name).Perm
      ((directiveExtensions d name).map DirectiveExtension.unplaced) := by
  refine Check.filterMap_perm (fun x => ?_) hD
  cases x with
  | directiveExtension e =>
      have hname : e.unplaced.name.text = e.name.text := rfl
      simp only [Definition.unplaced, hname]
      split <;> rfl
  | _ => rfl

include hd

/-- **Directives are misused** in rearranged definitions if they are in the definitions. -/
theorem misuses_rearranged : misuses S D = [] ↔ misuses s d = [] := by
  have hparts {f : TypeDefinition → List Misuse} {f' : TypeDefinition → List Misuse}
      (hf : ∀ t, f' t.unplaced = [] ↔ f t = []) (n : String) :
      (partsOfType D n).flatMap f' = [] ↔ (partsOfType d n).flatMap f = [] :=
    flatMap_perm_eq_nil_iff TypeDefinition.unplaced hf (partsOfType_perm hD hd n)
  simp only [misuses, List.append_eq_nil_iff]
  refine and_congr (and_congr ?_ ?_) ?_
  · exact flatMap_perm_eq_nil_iff TypeDefinition.unplaced
      (fun t => hparts (scalarMisuses_rearranged h) t.name.text) (Check.typeDefinitions_perm hD)
  · refine flatMap_perm_eq_nil_iff DirectiveDefinition.unplaced (fun e => ?_)
      (Check.directiveDefinitions_perm hD)
    simp only [List.append_eq_nil_iff]
    refine and_congr (and_congr (inputMisuses_rearranged h e.arguments)
      (misusesOf_rearranged h "deprecated" e.directives)) ?_
    exact flatMap_perm_eq_nil_iff DirectiveExtension.unplaced
      (fun x => misusesOf_rearranged h "deprecated" x.directives)
      (directiveExtensions_perm hD e.name.text)
  · exact flatMap_perm_eq_nil_iff NamedType.unplaced
      (fun t => hparts (compositeMisuses_rearranged h) t.name) h.types

omit h hD hd in
/-- Values of an enum of this name cannot be evaluated where some of them are misused. -/
theorem filter_enumsMisused_iff {n : String} : (enumsMisused s d).filter (fun m => m.1 == n) = []
    ↔ (s.types.filter fun t => t.isEnum && t.name == n).flatMap
        (fun t => (partsOfType d t.name).flatMap (enumMisuses s)) = [] := by
  simp only [List.filter_eq_nil_iff, List.flatMap_eq_nil_iff, enumsMisused, List.mem_filterMap,
    List.mem_filter, Bool.and_eq_true, beq_iff_eq]
  constructor
  · rintro hnone t ⟨ht, henum, rfl⟩
    cases hmisuses : (partsOfType d t.name).flatMap (enumMisuses s) with
    | nil => exact List.flatMap_eq_nil_iff.mp hmisuses
    | cons m r => exact absurd rfl (hnone (t.name, m) ⟨t, ⟨ht, henum⟩, by rw [hmisuses]; rfl⟩)
  · rintro hnone m ⟨t, ⟨ht, henum⟩, hm⟩ rfl
    obtain ⟨m', hhead, rfl⟩ := Option.map_eq_some_iff.mp hm
    have hempty := List.flatMap_eq_nil_iff.mpr (hnone t ⟨ht, henum, rfl⟩)
    rw [hempty] at hhead
    cases hhead

/-- The enums of which the values cannot be evaluated bear the same names. -/
theorem enumsMisused_rearranged (n : String) :
    (enumsMisused S D).filter (fun m => m.1 == n) = []
      ↔ (enumsMisused s d).filter (fun m => m.1 == n) = [] := by
  have henums : (S.types.filter fun t => t.isEnum && t.name == n).Perm
      ((s.types.filter fun t => t.isEnum && t.name == n).map NamedType.unplaced) := by
    refine (h.types.filter _).trans (.of_eq ?_)
    rw [List.filter_map]
    simp only [Function.comp_def, NamedType.isEnum_unplaced, NamedType.name_unplaced]
  rw [filter_enumsMisused_iff, filter_enumsMisused_iff]
  exact flatMap_perm_eq_nil_iff NamedType.unplaced
    (fun t => flatMap_perm_eq_nil_iff TypeDefinition.unplaced (enumMisuses_rearranged h)
      (partsOfType_perm hD hd t.name)) henums

end Misuses

end QueryTypings.Schema
