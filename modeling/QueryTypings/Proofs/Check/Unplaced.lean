/-
  Rules on definitions do not look at places.

  Issues say where they are, but whether there are any does not depend on it.  So the rules find
  issues in a piece of a document exactly if they find some in the piece without places, also under
  another vocabulary, as long as it knows the same types and the same directives (`Matches`).

  1. **Vocabularies** — what a rule asks of one (`Vocabulary.Matches`).

  2. **Repetitions, directives, types** (`repeatedDirectives_unplaced`, `directivesPart_unplaced`).

  3. **Definitions** — each part by the parts inside it (`selectionPart_unplaced`,
     `partsPart_unplaced`).
-/
import QueryTypings.Check.Definitions
import QueryTypings.Proofs.Schema.Unplaced

namespace QueryTypings.Check

open QueryTypings.Graphql QueryTypings.Schema

/-! ## Vocabularies -/

/-- Two vocabularies without a schema know the same types and the same directives, in the second
    one without places. -/
structure Vocabulary.Matches (v w : Vocabulary) : Prop where
  directive : ∀ n, w.directive? n = (v.directive? n).map DirectiveInfo.unplaced
  types : ∀ n, w.types.contains n = v.types.contains n
  plain : v.schema? = none ∧ w.schema? = none

/-! ## Repetitions -/

theorem repeatedNames_unplaced (ns : List Name) :
    repeatedNames (ns.map Name.unplaced) = (repeatedNames ns).map Name.unplaced := by
  have hgo (ns : List Name) (seen : List String) :
      repeatedNames.go (ns.map Name.unplaced) seen
        = (repeatedNames.go ns seen).map Name.unplaced := by
    induction ns generalizing seen with
    | nil => rfl
    | cons n r ih =>
        simp only [List.map_cons, repeatedNames.go, Name.text_unplaced, List.any_map, ih,
          Function.comp_def]
        split
        · rfl
        · split <;> rfl
  exact hgo ns []

theorem repeatedArguments_unplaced (as : List Argument) :
    repeatedArguments (as.map Argument.unplaced) = [] ↔ repeatedArguments as = [] := by
  have hnames : (as.map Argument.unplaced).map Argument.name
      = (as.map Argument.name).map Name.unplaced := by
    rw [List.map_map, List.map_map]
    rfl
  rw [repeatedArguments, repeatedArguments, hnames, repeatedNames_unplaced]
  simp only [List.map_eq_nil_iff]

variable {v w : Vocabulary}

theorem repeatedDirectives_unplaced (hw : v.Matches w) (seen ds : List Directive) :
    repeatedDirectives w (seen.map Directive.unplaced) (ds.map Directive.unplaced) = []
      ↔ repeatedDirectives v seen ds = [] := by
  induction ds generalizing seen with
  | nil => exact Iff.rfl
  | cons d r ih =>
      have hname : d.unplaced.name.text = d.name.text := rfl
      have hfind : (seen.map Directive.unplaced).find? (fun e => e.name.text == d.name.text)
          = (seen.find? fun e => e.name.text == d.name.text).map Directive.unplaced := by
        rw [List.find?_map]
        rfl
      rw [List.map_cons, repeatedDirectives, repeatedDirectives, hname, hw.directive, hfind]
      cases v.directive? d.name.text with
      | none => exact ih seen
      | some info =>
          dsimp only [Option.map_some, DirectiveInfo.unplaced]
          split
          · exact ih seen
          · cases seen.find? fun e => e.name.text == d.name.text with
            | some e => simp
            | none =>
                have hseen : seen.map Directive.unplaced ++ [d.unplaced]
                    = (seen ++ [d]).map Directive.unplaced := by rw [List.map_append]; rfl
                dsimp only [Option.map_none]
                rw [hseen]
                exact ih _

/-- The first ones of their kind. -/
theorem repeatedDirectives_nil_unplaced (hw : v.Matches w) (ds : List Directive) :
    repeatedDirectives w [] (ds.map Directive.unplaced) = [] ↔ repeatedDirectives v [] ds = [] :=
  repeatedDirectives_unplaced hw [] ds

mutual

theorem repeatedInputFields_unplaced : ∀ x : Value,
    repeatedInputFields x.unplaced = [] ↔ repeatedInputFields x = []
  | .variable _ _ | .int _ _ | .float _ _ | .string _ _ _ | .boolean _ _ | .null _ | .enum _ _ => Iff.rfl
  | .list items _ => repeatedInItems_unplaced items
  | .object fields _ => repeatedInFields_unplaced fields []

theorem repeatedInItems_unplaced : ∀ xs : List Value,
    repeatedInItems (valuesUnplaced xs) = [] ↔ repeatedInItems xs = []
  | [] => Iff.rfl
  | x :: r => by
      rw [valuesUnplaced, repeatedInItems, repeatedInItems, List.append_eq_nil_iff,
        List.append_eq_nil_iff, repeatedInputFields_unplaced x, repeatedInItems_unplaced r]

theorem repeatedInFields_unplaced : ∀ (fs : List (Name × Value)) (seen : List Name),
    repeatedInFields (objectFieldsUnplaced fs) (seen.map Name.unplaced) = []
      ↔ repeatedInFields fs seen = []
  | [], _ => Iff.rfl
  | (n, x) :: r, seen => by
      have hfind : (seen.map Name.unplaced).find? (fun m => m.text == n.text)
          = (seen.find? fun m => m.text == n.text).map Name.unplaced := by
        rw [List.find?_map]
        rfl
      have hrest := repeatedInFields_unplaced r (seen ++ [n])
      rw [List.map_append] at hrest
      rw [objectFieldsUnplaced, repeatedInFields, repeatedInFields, Name.text_unplaced, hfind]
      cases seen.find? fun m => m.text == n.text with
      | some m => simp
      | none =>
          dsimp only [Option.map_none]
          rw [List.append_eq_nil_iff, List.append_eq_nil_iff, repeatedInputFields_unplaced x]
          exact and_congr_right fun _ => hrest

end

theorem argumentValues_unplaced (as : List Argument) :
    argumentValues (as.map Argument.unplaced) = [] ↔ argumentValues as = [] := by
  have hvalue (a : Argument) : literalPart a.unplaced.value = [] ↔ literalPart a.value = [] :=
    repeatedInputFields_unplaced a.value
  exact flatMap_map_eq_nil_iff Argument.unplaced hvalue as

theorem literalPart_unplaced (a : Option Value) :
    ((a.map Value.unplaced).map literalPart).getD [] = [] ↔ (a.map literalPart).getD [] = [] := by
  have hvalue (x : Value) : literalPart x.unplaced = [] ↔ literalPart x = [] :=
    repeatedInputFields_unplaced x
  exact option_map_eq_nil_iff Value.unplaced hvalue a

/-! ## Directives and types -/

section Parts

variable (hw : v.Matches w)

include hw

theorem placementIssues_unplaced (location : String) (d : Directive) :
    placementIssues w location d.unplaced = [] ↔ placementIssues v location d = [] := by
  have hname : d.unplaced.name.text = d.name.text := rfl
  rw [placementIssues, placementIssues, hname, hw.directive]
  cases v.directive? d.name.text with
  | none => simp
  | some info =>
      dsimp only [Option.map_some, DirectiveInfo.unplaced]
      split <;> simp

theorem unknownDirectiveArguments_unplaced (d : Directive) :
    unknownDirectiveArguments w d.unplaced = [] ↔ unknownDirectiveArguments v d = [] := by
  have hname : d.unplaced.name.text = d.name.text := rfl
  rw [unknownDirectiveArguments, unknownDirectiveArguments, hname, hw.directive]
  cases v.directive? d.name.text with
  | none => exact Iff.rfl
  | some info =>
      have hknown : (info.arguments.map Input.unplaced).map Input.name
          = info.arguments.map Input.name := by
        rw [List.map_map]
        rfl
      dsimp only [Option.map_some, DirectiveInfo.unplaced]
      rw [hknown]
      refine flatMap_map_eq_nil_iff Argument.unplaced (fun a => ?_) d.arguments
      have harg : a.unplaced.name.text = a.name.text := rfl
      rw [harg]
      split <;> simp

theorem missingDirectiveArguments_unplaced (d : Directive) :
    missingDirectiveArguments w d.unplaced = [] ↔ missingDirectiveArguments v d = [] := by
  have hname : d.unplaced.name.text = d.name.text := rfl
  rw [missingDirectiveArguments, missingDirectiveArguments, hname, hw.directive]
  cases v.directive? d.name.text with
  | none => exact Iff.rfl
  | some info =>
      dsimp only [Option.map_some, DirectiveInfo.unplaced]
      refine flatMap_map_eq_nil_iff Input.unplaced (fun a => ?_) info.arguments
      have hgiven : (d.unplaced.arguments.any fun b => b.name.text == a.unplaced.name)
          = d.arguments.any fun b => b.name.text == a.name := by
        rw [Directive.unplaced, List.any_map]
        rfl
      rw [Input.isRequired_unplaced, hgiven]
      split <;> simp

theorem directiveValues_unplaced (d : Directive) :
    directiveValues w d.unplaced = [] ↔ directiveValues v d = [] := by
  rw [directiveValues, directiveValues, hw.plain.1, hw.plain.2]
  exact argumentValues_unplaced d.arguments

theorem directivesPart_unplaced (location : String) (ds : List Directive) :
    directivesPart w location (ds.map Directive.unplaced) = []
      ↔ directivesPart v location ds = [] := by
  refine flatMap_map_eq_nil_iff Directive.unplaced (fun d => ?_) ds
  have hrepeated : repeatedArguments d.unplaced.arguments = [] ↔ repeatedArguments d.arguments = [] :=
    repeatedArguments_unplaced d.arguments
  simp only [List.append_eq_nil_iff, placementIssues_unplaced hw, hrepeated,
    unknownDirectiveArguments_unplaced hw, directiveValues_unplaced hw,
    missingDirectiveArguments_unplaced hw]

theorem unknownType?_unplaced (inDefinition : Bool) (n : Name) :
    w.unknownType? inDefinition n.unplaced = [] ↔ v.unknownType? inDefinition n = [] := by
  rw [Vocabulary.unknownType?, Vocabulary.unknownType?, Name.text_unplaced, hw.types]
  split <;> simp

theorem unknownTypes_unplaced (inDefinition : Bool) (t : TypeNode) :
    w.unknownTypes inDefinition t.unplaced = [] ↔ v.unknownTypes inDefinition t = [] := by
  induction t with
  | named n => exact unknownType?_unplaced hw inDefinition n
  | list t _ ih => exact ih
  | nonNull t ih => exact ih

/-- Names of types. -/
theorem unknownNames_unplaced (inDefinition : Bool) (ns : List Name) :
    (ns.map Name.unplaced).flatMap (w.unknownType? inDefinition) = []
      ↔ ns.flatMap (v.unknownType? inDefinition) = [] :=
  flatMap_map_eq_nil_iff Name.unplaced (unknownType?_unplaced hw inDefinition) ns

end Parts

/-! ## Operations and fragments among the definitions -/

mutual

theorem selectionPart_unplaced (hw : v.Matches w) : ∀ x : Selection,
    selectionPart w x.unplaced = [] ↔ selectionPart v x = []
  | .leaf f => by
      simp only [Selection.unplaced, FieldHead.unplaced, selectionPart, List.append_eq_nil_iff,
        repeatedDirectives_nil_unplaced hw, repeatedArguments_unplaced, argumentValues_unplaced,
        directivesPart_unplaced hw]
  | .branch f _ ss => by
      simp only [Selection.unplaced, FieldHead.unplaced, selectionPart, List.append_eq_nil_iff,
        repeatedDirectives_nil_unplaced hw, repeatedArguments_unplaced, argumentValues_unplaced,
        directivesPart_unplaced hw, selectionsPart_unplaced hw ss]
  | .inline c ds _ _ ss => by
      simp only [Selection.unplaced, selectionPart, List.append_eq_nil_iff,
        repeatedDirectives_nil_unplaced hw, directivesPart_unplaced hw, selectionsPart_unplaced hw ss,
        option_map_eq_nil_iff Name.unplaced (unknownType?_unplaced hw false)]
  | .spread n ds _ => by
      simp only [Selection.unplaced, selectionPart, List.append_eq_nil_iff,
        repeatedDirectives_nil_unplaced hw, directivesPart_unplaced hw]

theorem selectionsPart_unplaced (hw : v.Matches w) : ∀ ss : List Selection,
    selectionsPart w (selectionsUnplaced ss) = [] ↔ selectionsPart v ss = []
  | [] => Iff.rfl
  | x :: r => by
      simp only [selectionsUnplaced, selectionsPart, List.append_eq_nil_iff,
        selectionPart_unplaced hw x, selectionsPart_unplaced hw r]

end

section Definitions

variable (hw : v.Matches w)

include hw

theorem variablePart_unplaced (d : VariableDefinition) :
    variablePart w d.unplaced = [] ↔ variablePart v d = [] := by
  simp only [VariableDefinition.unplaced, variablePart, List.append_eq_nil_iff,
    repeatedDirectives_nil_unplaced hw, unknownTypes_unplaced hw, literalPart_unplaced,
    directivesPart_unplaced hw]

theorem operationPart_unplaced (o : Operation) :
    operationPart w o.unplaced = [] ↔ operationPart v o = [] := by
  simp only [Operation.unplaced, operationPart, List.append_eq_nil_iff,
    repeatedDirectives_nil_unplaced hw,
    flatMap_map_eq_nil_iff VariableDefinition.unplaced (variablePart_unplaced hw),
    directivesPart_unplaced hw, selectionsPart_unplaced hw]

theorem fragmentPart_unplaced (f : Fragment) :
    fragmentPart w f.unplaced = [] ↔ fragmentPart v f = [] := by
  simp only [Fragment.unplaced, fragmentPart, List.append_eq_nil_iff,
    repeatedDirectives_nil_unplaced hw, unknownType?_unplaced hw, directivesPart_unplaced hw,
    selectionsPart_unplaced hw]

/-! ## Definitions -/

theorem inputPart_unplaced (location : String) (i : InputDefinition) :
    inputPart w location i.unplaced = [] ↔ inputPart v location i = [] := by
  simp only [InputDefinition.unplaced, inputPart, List.append_eq_nil_iff,
    repeatedDirectives_nil_unplaced hw, unknownTypes_unplaced hw, literalPart_unplaced,
    directivesPart_unplaced hw]

theorem inputParts_unplaced (location : String) (is : List InputDefinition) :
    (is.map InputDefinition.unplaced).flatMap (inputPart w location) = []
      ↔ is.flatMap (inputPart v location) = [] :=
  flatMap_map_eq_nil_iff InputDefinition.unplaced (inputPart_unplaced hw location) is

theorem fieldPart_unplaced (f : FieldDefinition) :
    fieldPart w f.unplaced = [] ↔ fieldPart v f = [] := by
  simp only [FieldDefinition.unplaced, fieldPart, List.append_eq_nil_iff,
    repeatedDirectives_nil_unplaced hw, inputParts_unplaced hw, unknownTypes_unplaced hw,
    directivesPart_unplaced hw]

/-- The parts of a type. -/
theorem partsPart_unplaced (t : TypeDefinition) :
    partsPart w t.unplaced = [] ↔ partsPart v t = [] := by
  let value (v : Vocabulary) (e : EnumValueDefinition) : List Issue :=
    repeatedDirectives v [] e.directives ++ directivesPart v "ENUM_VALUE" e.directives
  have hvalue (e : EnumValueDefinition) : value w e.unplaced = [] ↔ value v e = [] := by
    simp only [value, EnumValueDefinition.unplaced, List.append_eq_nil_iff,
      repeatedDirectives_nil_unplaced hw, directivesPart_unplaced hw]
  have hlocation : typeLocation t.parts.unplaced = typeLocation t.parts := by
    cases t.parts <;> rfl
  simp only [TypeDefinition.unplaced, partsPart, hlocation]
  cases t.parts with
  | scalar => exact directivesPart_unplaced hw _ _
  | object is fs | interface is fs =>
      simp only [TypeParts.unplaced, List.append_eq_nil_iff, unknownNames_unplaced hw,
        directivesPart_unplaced hw, flatMap_map_eq_nil_iff FieldDefinition.unplaced (fieldPart_unplaced hw)]
  | union ms =>
      simp only [TypeParts.unplaced, List.append_eq_nil_iff, unknownNames_unplaced hw,
        directivesPart_unplaced hw]
  | enum vs =>
      have hvalues := flatMap_map_eq_nil_iff EnumValueDefinition.unplaced hvalue vs
      rw [TypeParts.unplaced, List.append_eq_nil_iff, List.append_eq_nil_iff,
        directivesPart_unplaced hw, hvalues]
  | input fs =>
      simp only [TypeParts.unplaced, List.append_eq_nil_iff, directivesPart_unplaced hw,
        inputParts_unplaced hw]

end Definitions

end QueryTypings.Check
