/-
  Rules on definitions do not look at the order of definitions.

  1. **Claims, without places** — a definition claims the same and has issues by itself or not,
     wherever it stands (`claims_unplaced`, `definitionPart_unplaced`).

  2. **Definitions by kind** — the definitions of one kind are rearranged with the others
     (`typeDefinitions_perm`), so the vocabulary of a document stays the same (`matches_of_perm`).

  3. **Rearranged documents** — a document and another one with the same definitions in any order
     and without places both have issues or both have none (`definitionIssues_rearranged`).
-/
import QueryTypings.Proofs.Check.Claims
import QueryTypings.Proofs.Check.Unplaced

namespace QueryTypings.Check

open QueryTypings.Graphql QueryTypings.Schema

variable {v w : Vocabulary}

/-! ## Claims, without places -/

section Unplaced

variable (hw : v.Matches w)

include hw

theorem standsOnce_unplaced (n : String) : standsOnce w n = standsOnce v n := by
  rw [standsOnce, standsOnce, hw.directive, Option.map_map]
  rfl

theorem namesOnce_unplaced (ds : List Directive) :
    namesOnce w (ds.map Directive.unplaced) = namesOnce v ds := by
  have honce : standsOnce w = standsOnce v := funext (standsOnce_unplaced hw)
  rw [namesOnce, namesOnce, honce, List.map_map]
  rfl

theorem claims_unplaced (x : Definition) : claims w x.unplaced = claims v x := by
  cases x with
  | operation o | fragment f | type t => rfl
  | schema d =>
      simp only [Definition.unplaced, SchemaDefinition.unplaced, claims, namesOnce_unplaced hw,
        List.map_map]
      rfl
  | directive d =>
      simp only [Definition.unplaced, DirectiveDefinition.unplaced, claims, namesOnce_unplaced hw,
        Name.text_unplaced]
  | directiveExtension d =>
      simp only [Definition.unplaced, DirectiveExtension.unplaced, claims, namesOnce_unplaced hw,
        Name.text_unplaced]

omit hw in
theorem argumentsTwice_unplaced (owner : String) (is : List InputDefinition) :
    argumentsTwice owner (is.map InputDefinition.unplaced) = [] ↔ argumentsTwice owner is = [] := by
  have hnames : (is.map InputDefinition.unplaced).map InputDefinition.name
      = (is.map InputDefinition.name).map Name.unplaced := by
    rw [List.map_map, List.map_map]
    rfl
  rw [argumentsTwice, argumentsTwice, hnames, repeatedNames_unplaced]
  simp only [List.map_eq_nil_iff]

theorem schemaPart_unplaced (d : SchemaDefinition) :
    schemaPart w [] d.unplaced = [] ↔ schemaPart v [] d = [] := by
  have hroots : (d.roots.map fun r => (r.1, r.2.unplaced)).flatMap
        (fun r => w.unknownType? true r.2) = []
      ↔ d.roots.flatMap (fun r => v.unknownType? true r.2) = [] := by
    refine flatMap_map_eq_nil_iff (fun r : OperationKind × Name => (r.1, r.2.unplaced)) ?_ d.roots
    exact fun r => unknownType?_unplaced hw true r.2
  have hkinds : (d.roots.map fun r => (r.1, r.2.unplaced)).map (fun r => r.1.word)
      = d.roots.map fun r => r.1.word := by
    rw [List.map_map]
    rfl
  simp only [schemaPart, schemaBody, SchemaDefinition.unplaced, List.append_eq_nil_iff,
    List.map_eq_nil_iff, hroots, hkinds, directivesPart_unplaced hw]
  simp only [schemaDefinitions, List.filterMap_nil, List.flatMap_nil,
    repeatedDirectives_nil_unplaced hw, List.any_nil, Bool.and_false, Bool.false_eq_true, if_false]

theorem typePart_unplaced (t : TypeDefinition) :
    typePart w [] [] t.unplaced = [] ↔ typePart v [] [] t = [] := by
  have hvalues : enumNames t.parts.unplaced = enumNames t.parts := by
    cases t.parts with
    | enum vs =>
        rw [TypeParts.unplaced, enumNames, enumNames, List.map_map]
        rfl
    | _ => rfl
  have hfields : fieldNames t.parts.unplaced = fieldNames t.parts := by
    cases t.parts with
    | object is fs | interface is fs | input fs =>
        rw [TypeParts.unplaced, fieldNames, fieldNames, List.map_map]
        rfl
    | _ => rfl
  have hdefinitions : fieldDefinitions t.parts.unplaced
      = (fieldDefinitions t.parts).map FieldDefinition.unplaced := by
    cases t.parts <;> rfl
  have harguments (fs : List FieldDefinition) : (fs.map FieldDefinition.unplaced).flatMap
        (fun f => argumentsTwice (t.name.text ++ "." ++ f.name.text) f.arguments) = []
      ↔ fs.flatMap (fun f => argumentsTwice (t.name.text ++ "." ++ f.name.text) f.arguments) = [] :=
    flatMap_map_eq_nil_iff FieldDefinition.unplaced
      (fun f => argumentsTwice_unplaced _ f.arguments) fs
  have hextension : extensionIssues [] t.unplaced = [] ↔ extensionIssues [] t = [] := by
    rw [extensionIssues, extensionIssues, TypeDefinition.unplaced]
    cases t.isExtension <;> simp [typeDefinitions]
  have hname : t.unplaced.name.text = t.name.text := rfl
  have hparts : t.unplaced.parts = t.parts.unplaced := rfl
  have hdirectives : t.unplaced.directives = t.directives.map Directive.unplaced := rfl
  have hnone (n : String) : namesakes [] n = [] := rfl
  simp only [typePart, List.append_eq_nil_iff, List.map_eq_nil_iff, hname, hparts, hdirectives,
    hvalues, hfields, hdefinitions, harguments, hextension, partsPart_unplaced hw, hnone,
    List.flatMap_nil, repeatedDirectives_nil_unplaced hw]
  simp only [typeDefinitions, List.filterMap_nil, List.any_nil, Bool.and_false, Bool.false_eq_true,
    if_false]

theorem directivePart_unplaced (d : DirectiveDefinition) :
    directivePart w [] d.unplaced = [] ↔ directivePart v [] d = [] := by
  have hempty (n : String) : directivesOnDirective [] n = [] := rfl
  simp only [directivePart, directiveBody, DirectiveDefinition.unplaced, List.append_eq_nil_iff,
    argumentsTwice_unplaced, hempty, repeatedDirectives_nil_unplaced hw, inputParts_unplaced hw,
    directivesPart_unplaced hw, Name.text_unplaced]
  simp only [directiveDefinitions, List.filterMap_nil, List.any_nil, Bool.false_eq_true, if_false]

theorem directiveExtensionPart_unplaced (d : DirectiveExtension) :
    directiveExtensionPart w [] d.unplaced = [] ↔ directiveExtensionPart v [] d = [] := by
  have hempty (n : String) : directivesOnDirective [] n = [] := rfl
  simp only [directiveExtensionPart, DirectiveExtension.unplaced, List.append_eq_nil_iff, hempty,
    repeatedDirectives_nil_unplaced hw, directivesPart_unplaced hw]

theorem definitionPart_unplaced (x : Definition) :
    definitionPart w [] [] x.unplaced = [] ↔ definitionPart v [] [] x = [] := by
  cases x with
  | operation o => exact operationPart_unplaced hw o
  | fragment f => exact fragmentPart_unplaced hw f
  | schema d => exact schemaPart_unplaced hw d
  | type t => exact typePart_unplaced hw t
  | directive d => exact directivePart_unplaced hw d
  | directiveExtension d => exact directiveExtensionPart_unplaced hw d

end Unplaced

/-! ## Definitions by kind -/

variable {d D : Document}

/-- What is picked out of definitions is rearranged with them. -/
theorem filterMap_perm {α : Type} {g : Definition → Option α} {f : α → α}
    (hg : ∀ x, g x.unplaced = (g x).map f) (h : D.Perm d.unplaced) :
    (D.filterMap g).Perm ((d.filterMap g).map f) := by
  refine (h.filterMap g).trans (.of_eq ?_)
  rw [Document.unplaced, List.filterMap_map, List.map_filterMap]
  exact List.filterMap_congr fun x _ => hg x

section Kinds

variable (h : D.Perm d.unplaced)

include h

theorem typeDefinitions_perm :
    (typeDefinitions D).Perm ((typeDefinitions d).map TypeDefinition.unplaced) := by
  refine filterMap_perm (fun x => ?_) h
  cases x with
  | type t =>
      simp only [Definition.unplaced, TypeDefinition.unplaced]
      split <;> rfl
  | _ => rfl

theorem typeExtensions_perm :
    (typeExtensions D).Perm ((typeExtensions d).map TypeDefinition.unplaced) := by
  refine filterMap_perm (fun x => ?_) h
  cases x with
  | type t =>
      simp only [Definition.unplaced, TypeDefinition.unplaced]
      split <;> rfl
  | _ => rfl

theorem directiveDefinitions_perm :
    (directiveDefinitions D).Perm ((directiveDefinitions d).map DirectiveDefinition.unplaced) := by
  refine filterMap_perm (fun x => ?_) h
  cases x <;> rfl

theorem schemaDefinitions_perm :
    (schemaDefinitions D).Perm ((schemaDefinitions d).map SchemaDefinition.unplaced) := by
  refine filterMap_perm (fun x => ?_) h
  cases x <;> rfl

/-- No type is extended if none is in the other document. -/
theorem typeExtensions_eq_nil_iff : typeExtensions D = [] ↔ typeExtensions d = [] := by
  rw [← List.length_eq_zero_iff, (typeExtensions_perm h).length_eq, List.length_map,
    List.length_eq_zero_iff]

/-- Directives bear the same names. -/
theorem directiveNames_perm : ((directiveDefinitions D).map fun e => e.name.text).Perm
    ((directiveDefinitions d).map fun e => e.name.text) := by
  have hnames := (directiveDefinitions_perm h).map fun e => e.name.text
  rwa [List.map_map] at hnames

theorem directives_perm : ((directiveDefinitions D).map DirectiveInfo.ofDefinition).Perm
    (((directiveDefinitions d).map DirectiveInfo.ofDefinition).map DirectiveInfo.unplaced) := by
  refine ((directiveDefinitions_perm h).map _).trans (.of_eq ?_)
  rw [List.map_map, List.map_map]
  exact List.map_congr_left fun e _ => DirectiveInfo.ofDefinition_unplaced e

end Kinds

/-- Directives in a document without issues bear different names. -/
theorem nodup_directives_of_apart (h : d.Pairwise (Apart v)) :
    ((directiveDefinitions d).map fun e => e.name.text).Nodup := by
  rw [List.Nodup, List.pairwise_map, directiveDefinitions, List.pairwise_filterMap]
  refine h.imp fun {x y} hxy e he f hf hname => ?_
  cases x with
  | directive e' =>
      cases y with
      | directive f' =>
          obtain rfl := Option.some.inj he
          obtain rfl := Option.some.inj hf
          exact hxy (.directive e'.name.text) (mem_claims_directive.mpr ⟨e', rfl, rfl⟩)
            (mem_claims_directive.mpr ⟨f', rfl, hname⟩)
      | _ => cases hf
  | _ => cases he

/-- The vocabulary of a document does not depend on order and places. -/
theorem matches_of_perm (h : D.Perm d.unplaced)
    (hdistinct : ((directiveDefinitions d).map fun e => e.name.text).Nodup) :
    (definitionVocabulary d).Matches (definitionVocabulary D) := by
  refine ⟨fun n => ?_, fun n => ?_, rfl, rfl⟩
  · have hown : ((directiveDefinitions D).map DirectiveInfo.ofDefinition).reverse.Perm
        (((directiveDefinitions d).map DirectiveInfo.ofDefinition).reverse.map
          DirectiveInfo.unplaced) := by
      rw [List.map_reverse]
      exact (List.reverse_perm _).trans ((directives_perm h).trans (List.reverse_perm _).symm)
    have hnames : ((((directiveDefinitions d).map DirectiveInfo.ofDefinition).reverse.map
        DirectiveInfo.unplaced).map DirectiveInfo.name).Nodup := by
      rw [List.map_reverse, List.map_reverse, List.nodup_reverse, List.map_map, List.map_map]
      exact hdistinct
    have hstandard : standardDirectives.reverse.find? (fun d => d.name == n)
        = (standardDirectives.reverse.find? fun d => d.name == n).map DirectiveInfo.unplaced := by
      calc standardDirectives.reverse.find? (fun d => d.name == n)
          = (standardDirectives.reverse.map DirectiveInfo.unplaced).find? fun d => d.name == n := by
            rw [List.map_reverse, standardDirectives_unplaced]
        _ = (standardDirectives.reverse.find? fun d => d.name == n).map DirectiveInfo.unplaced := by
            rw [List.find?_map]
            rfl
    rw [Vocabulary.directive?, Vocabulary.directive?, definitionVocabulary, definitionVocabulary,
      List.reverse_append, List.reverse_append, List.find?_append, List.find?_append,
      find?_name_of_perm DirectiveInfo.name hown hnames, List.find?_map, Option.map_or, ← hstandard]
    rfl
  · have hnames := (typeDefinitions_perm h).map fun t => t.name.text
    rw [List.map_map] at hnames
    exact (hnames.contains_eq (a := n)).trans rfl

/-- **Neither order nor places matter**: a document without extensions of types and the same
    definitions in any order and without places both have issues or both have none. -/
theorem definitionIssues_rearranged (h : D.Perm d.unplaced) (hd : typeExtensions d = []) :
    definitionIssues D = [] ↔ definitionIssues d = [] := by
  -- under vocabularies that match, the same claims are made in both documents
  have hsame (hw : (definitionVocabulary d).Matches (definitionVocabulary D)) :
      definitionIssues D = [] ↔ definitionIssues d = [] := by
    have hapart (x y : Definition) :
        Apart (definitionVocabulary D) x.unplaced y.unplaced ↔ Apart (definitionVocabulary d) x y := by
      rw [Apart, Apart, claims_unplaced hw, claims_unplaced hw]
    rw [definitionIssues_eq_nil_iff hd, definitionIssues_eq_nil_iff ((typeExtensions_eq_nil_iff h).mpr hd),
      h.pairwise_iff Apart.symm, Document.unplaced, List.pairwise_map]
    simp only [hapart, h.mem_iff]
    rw [Document.unplaced, List.forall_mem_map]
    simp only [definitionPart_unplaced hw]
  constructor
  · intro hD
    refine (hsame (matches_of_perm h ?_)).mp hD
    have hapart := ((definitionIssues_eq_nil_iff ((typeExtensions_eq_nil_iff h).mpr hd)).mp hD).2
    exact (directiveNames_perm h).nodup_iff.mp (nodup_directives_of_apart hapart)
  · intro hd'
    refine (hsame (matches_of_perm h ?_)).mpr hd'
    exact nodup_directives_of_apart ((definitionIssues_eq_nil_iff hd).mp hd').2

end QueryTypings.Check
