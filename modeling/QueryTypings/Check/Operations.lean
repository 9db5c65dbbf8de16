/-
  Rules on documents that ask for data.

  The document is gone through once, from front to back and from the outside in, and at every node
  the rules speak in a fixed order.  Rules on a whole operation's variables speak when the operation
  begins, except those on their types, which speak when it has been gone through, as do the rules on
  required arguments for a field or a directive.

  Some rules look beyond a node: conflicts of fields, circles of fragments, repeated labels and the
  number of uses of variables.  They are found beforehand and reported where they belong.

  A selection set lies one level below the set around it, and the set of a fragment one level below
  the set in which it is spread.  A document that goes too deep is not checked at all.  A fragment
  that leads back to itself adds nothing where it does; that is a fault of another kind.
-/
import QueryTypings.Check.Fields
import QueryTypings.Check.Incremental
import QueryTypings.Check.Inquiry
import QueryTypings.Check.Merging
import QueryTypings.Check.Subscription
import QueryTypings.Check.Variables

namespace QueryTypings.Check

open QueryTypings.Graphql QueryTypings.Schema

/-! ## How deep a document goes -/

/-- The greatest number of selection sets inside one another. -/
def depthLimit : Nat := 200

/-- The fragments that have been measured, each with its number of levels; those that are being
    measured count as none. -/
abbrev Measured := List (String × Nat)

mutual

/-- The number of levels below the set in which a selection stands; `measure` answers for the
    fragment of a given name. -/
def levelsOfSelection (measure : String → StateM Measured Nat) :
    Selection → StateM Measured Nat
  | .leaf _ => pure 0
  | .branch _ _ ss => do return (← levelsBelow measure ss) + 1
  | .inline _ _ _ _ ss => do return (← levelsBelow measure ss) + 1
  | .spread n _ _ => measure n.text

/-- The greatest number of levels below the set of some selections. -/
def levelsBelow (measure : String → StateM Measured Nat) : List Selection → StateM Measured Nat
  | [] => pure 0
  | s :: r => do return max (← levelsOfSelection measure s) (← levelsBelow measure r)

end

/-- The number of levels of a fragment.  The fuel bounds how many are entered on the way. -/
def levelsOfFragment (q : Inquiry) : Nat → String → StateM Measured Nat
  | 0, _ => pure 0
  | fuel + 1, name => do
      match (← get).lookup name, q.fragment? name with
      | some n, _ => return n
      | none, none => return 0
      | none, some f =>
          modify ((name, 0) :: ·)
          let n ← levelsBelow (levelsOfFragment q fuel) f.selections
          modify ((name, n + 1) :: ·)
          return n + 1

/-- The number of levels of a document. -/
def depth (q : Inquiry) : Nat :=
  let measure := levelsOfFragment q (q.document.fragments.length + 1)
  let operations := q.document.operations.mapM fun o => levelsBelow measure o.selections
  let fragments := q.document.fragments.mapM fun f => measure f.name.text
  let measured := operations.run []
  max (measured.1.foldl (fun n m => max n (m + 1)) 0)
    ((fragments.run measured.2).1.foldl max 0)

/-- The document goes too deep. -/
def isTooDeep (q : Inquiry) : Bool := depthLimit < depth q

/-! ## Findings -/

/-- What has been found beforehand. -/
structure Findings where
  vocabulary : Vocabulary
  conflicts : List (Position × List Issue)
  circles : List (Position × List Issue)
  labels : List (String × Position)
  excess : List (Position × List Issue)

/-- Looks through a document beforehand. -/
def Findings.of (q : Inquiry) : Findings where
  vocabulary := q.vocabulary
  conflicts := setConflicts q
  circles := fragmentCircles q
  labels := documentLabels q.document
  excess := excessiveUses q 0 q.document.operations

/-- The issues that were found for a place. -/
def foundAt (position : Position) (found : List (Position × List Issue)) : List Issue :=
  ((found.find? fun f => f.1 == position).map (·.2)).getD []

/-- What stays the same inside a document. -/
structure Scope where
  inquiry : Inquiry
  findings : Findings

/-! ## Directives -/

/-- The issues of a directive on a node of the given field. -/
def directiveIssues (c : Scope) (p : Place) (named : Option NamedField) (location : String)
    (d : Directive) : List Issue :=
  let v := c.findings.vocabulary
  let s := c.inquiry.schema
  let field := named.map NamedField.field
  placementIssues v location d ++ labelIssues c.findings.labels d ++ streamedFieldIssues p named d
    ++ unknownDirectiveArguments v d ++ repeatedArguments d.arguments
    ++ d.arguments.flatMap (fun a =>
      valueIssues s (argumentInput? s d.name.text field a.name.text) a.value)
    ++ missingDirectiveArguments v d

/-- The issues of the directives on a node of the given field. -/
def directivesIssues (c : Scope) (p : Place) (named : Option NamedField) (location : String)
    (ds : List Directive) : List Issue :=
  ds.flatMap (directiveIssues c p named location)

/-- Where no selection set stands around a node. -/
def Place.nowhere : Place := ⟨none, none⟩

/-! ## Selections -/

/-- The issues of a field up to its selection set. -/
def fieldIssues (c : Scope) (p : Place) (f : FieldHead)
    (selected : Option (Position × List Selection)) :
    List Issue :=
  let q := c.inquiry
  selectionSetIssues q p f (selected.map (·.1)) ++ unknownFieldIssues q p f
    ++ repeatedDirectives c.findings.vocabulary [] f.directives ++ repeatedArguments f.arguments
    ++ introspectionIssues q f ((selected.map (·.2)).getD [])
    ++ f.arguments.flatMap (argumentIssues q p f)
    ++ directivesIssues c p (p.namedField? q f) "FIELD" f.directives

/-- The issues of an inline fragment up to its selection set. -/
def inlineIssues (c : Scope) (p : Place) (condition : Option Name) (ds : List Directive)
    (position : Position) : List Issue :=
  let q := c.inquiry
  let v := c.findings.vocabulary
  (match condition with
    | some n => conditionIssues q none n ++ overlapIssues q p none n.text position
    | none => [])
  ++ repeatedDirectives v [] ds
  ++ (match condition with
    | some n => v.unknownType? false n
    | none => [])
  ++ directivesIssues c p p.named "INLINE_FRAGMENT" ds

mutual

/-- The issues of a selection. -/
def selectionIssues (c : Scope) (p : Place) : Selection → List Issue
  | .leaf f => fieldIssues c p f none ++ missingArguments c.inquiry p f
  | .branch f o ss =>
      fieldIssues c p f (some (o, ss)) ++ foundAt o c.findings.conflicts
        ++ selectionsIssues c (p.ofField c.inquiry f) ss ++ missingArguments c.inquiry p f
  | .inline n ds position _ ss =>
      inlineIssues c p n ds position
        ++ selectionsIssues c (p.ofCondition c.inquiry n) ss
  | .spread n ds position =>
      spreadIssues c.inquiry p n position ++ repeatedDirectives c.findings.vocabulary [] ds
        ++ directivesIssues c p p.named "FRAGMENT_SPREAD" ds

/-- The issues of selections. -/
def selectionsIssues (c : Scope) (p : Place) : List Selection → List Issue
  | [] => []
  | s :: r => selectionIssues c p s ++ selectionsIssues c p r

end

/-! ## Definitions -/

/-- The issues of the declaration of a variable. -/
def variableIssues (c : Scope) (d : VariableDefinition) : List Issue :=
  let q := c.inquiry
  let v := c.findings.vocabulary
  let type := TypeRef.ofNode d.type
  let input? : Option Input :=
    if ((q.schema.baseType? type).map NamedType.isInput).getD false then
      some (plainInput d.name.text type)
    else none
  inputTypeIssues q d ++ repeatedDirectives v [] d.directives ++ v.unknownTypes false d.type
    ++ (d.default?.map (valueIssues q.schema input?)).getD []
    ++ directivesIssues c .nowhere none "VARIABLE_DEFINITION" d.directives

/-- The operation's name is that of one before it. -/
def secondOperationIssues (before : List Operation) (o : Operation) : List Issue :=
  match o.name? with
  | none => []
  | some n =>
      match (before.filterMap Operation.name?).find? fun m => m.text == n.text with
      | some m => [⟨.secondOperation n.text, some m.position⟩]
      | none => []

/-- An operation without a name is the only one. -/
def anonymousIssues (q : Inquiry) (o : Operation) : List Issue :=
  if o.name?.isNone && 1 < q.document.operations.length then [⟨.loneAnonymous, some o.position⟩]
  else []

/-- The schema has the kind of operation. -/
def supportIssues (q : Inquiry) (o : Operation) : List Issue :=
  if (q.schema.root? o.kind).isSome then [] else [⟨.unsupportedOperation o.kind, some o.position⟩]

/-- The issues of an operation. -/
def operationIssues (c : Scope) (before : List Operation) (o : Operation) : List Issue :=
  let q := c.inquiry
  let p := Place.ofOperation q o
  supportIssues q o ++ secondOperationIssues before o ++ anonymousIssues q o
    ++ subscriptionIssues q o ++ secondVariables o ++ foundAt o.position c.findings.excess
    ++ undefinedVariables q o ++ unusedVariables q o
    ++ repeatedDirectives c.findings.vocabulary [] o.directives
    ++ incrementalRootIssues q o ++ incrementalSubscriptionIssues q o
    ++ o.variableDefinitions.flatMap (variableIssues c)
    ++ directivesIssues c .nowhere none (operationLocation o.kind) o.directives
    ++ foundAt o.opening c.findings.conflicts ++ selectionsIssues c p o.selections
    ++ misplacedVariables q o

/-- The issues of a fragment. -/
def fragmentIssues (c : Scope) (before : List Fragment) (f : Fragment) : List Issue :=
  let q := c.inquiry
  let v := c.findings.vocabulary
  conditionIssues q (some f.name.text) f.condition ++ secondFragmentIssues before f
    ++ foundAt f.position c.findings.circles ++ repeatedDirectives v [] f.directives
    ++ v.unknownType? false f.condition
    ++ directivesIssues c .nowhere none "FRAGMENT_DEFINITION" f.directives
    ++ foundAt f.opening c.findings.conflicts
    ++ selectionsIssues c (.ofFragment q f) f.selections

/-- A definition that cannot be executed: its name in messages, and its place. -/
def notExecutable? : Definition → Option (String × Position)
  | .operation _ => none
  | .fragment _ => none
  | .schema d => some ("schema", d.position)
  | .type t => some ("'" ++ t.name.text ++ "'", t.position)
  | .directive d => some ("'" ++ d.name.text ++ "'", d.position)
  | .directiveExtension d => some ("'" ++ d.name.text ++ "'", d.position)

/-- The issues of a definition; `before` precede it. -/
def definitionIssuesHere (q : Inquiry) (found : Findings) (before : Document) :
    Definition → List Issue
  | .operation o => operationIssues ⟨q, found⟩ before.operations o
  | .fragment f => fragmentIssues ⟨q, found⟩ before.fragments f
  | .schema d => schemaBody found.vocabulary before d
  | .type t => typeBody found.vocabulary before t
  | .directive d => directiveBody found.vocabulary before d
  | .directiveExtension d => directiveExtensionPart found.vocabulary before d

/-- The issues of definitions, of which those `before` are done. -/
def issuesFrom (q : Inquiry) (found : Findings) (before : Document) : Document → List Issue
  | [] => []
  | d :: r => definitionIssuesHere q found before d ++ issuesFrom q found (before ++ [d]) r

/-- All issues of the document. -/
def Inquiry.issues (q : Inquiry) : List Issue :=
  if isTooDeep q then [⟨.tooMuchWork, none⟩]
  else (q.document.filterMap notExecutable?).map (fun (name, p) => ⟨.notExecutable name, some p⟩)
    ++ issuesFrom q (.of q) [] q.document

/-- The greatest number of issues that are reported. -/
def issueLimit : Nat := 100

/-- What comes of checking a document, if it does not pass. -/
inductive Verdict
  | issues (reported : List Issue)
  /-- A directive had to be evaluated and could not be. -/
  | misuse (misuse : Misuse)
deriving Repr, BEq

/-- Goes through the issues in order, of which `room` may still be reported.  The checking ends
    where there is no more room, where the document takes too much work, and at a misuse.  -/
def verdictFrom : Nat → List Issue → List Issue → Verdict
  | _, told, [] => .issues told.reverse
  | room, told, i :: r =>
      match i.problem, room with
      | .misuse m, _ => .misuse m
      | .tooMuchWork, _ => .issues (i :: told).reverse
      | _, 0 => .issues (⟨.tooMany, none⟩ :: told).reverse
      | _, room + 1 => verdictFrom room (i :: told) r

/-- What comes of the issues of a document. -/
def verdict (issues : List Issue) : Verdict := verdictFrom issueLimit [] issues

end QueryTypings.Check
