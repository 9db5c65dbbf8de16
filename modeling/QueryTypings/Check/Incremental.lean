/-
  Rules on `@defer` and `@stream`.

  Neither may stand at the top level of a mutation or a subscription, nor anywhere in a subscription
  unless it can be switched off; labels are plain strings and no two are equal; only lists are
  streamed.

  An operation is gone through once for each of the first two rules, every fragment being entered
  once.  Fields may be streamed, fragments deferred; what stands elsewhere is misplaced, and told as
  that.
-/
import QueryTypings.Check.Spreads

namespace QueryTypings.Check

open QueryTypings.Graphql QueryTypings.Schema

/-- The name of a directive that delivers data in parts, as messages begin with it. -/
def incrementalName? (d : Directive) : Option String :=
  match d.name.text with
  | "defer" => some "Defer"
  | "stream" => some "Stream"
  | _ => none

/-- The value of a directive's argument. -/
def argumentValue? (d : Directive) (name : String) : Option Value :=
  (d.arguments.find? fun a => a.name.text == name).map Argument.value

/-! ## Directives of an operation -/

/-- What has been found in an operation: directives, and the fragments that were entered. -/
structure Sighted where
  directives : List Directive
  entered : List String

/-- Adds the directives of a given name. -/
def Sighted.add (name : String) (ds : List Directive) (w : Sighted) : Sighted :=
  { w with directives := w.directives ++ ds.filter fun d => d.name.text == name }

/-- A condition may leave the selection out: only a plain `false` is no reason to skip, and only a
    plain `true` is one to include. -/
def mayBeLeftOut (ds : List Directive) : Bool :=
  ds.any fun d =>
    match d.name.text, argumentValue? d "if" with
    | "skip", some (.boolean b _) => b
    | "skip", _ => true
    | "include", some (.boolean b _) => !b
    | "include", _ => true
    | _, _ => false

mutual

/-- Adds the directives in a selection.  If the search goes `deep`, it goes into what is selected of
    fields and passes over selections that may be left out.  `enter` adds those of a fragment that
    is spread with given directives. -/
def sightSelection (deep : Bool) (enter : String → List Directive → Sighted → Sighted)
    (w : Sighted) : Selection → Sighted
  | .leaf f => if deep && mayBeLeftOut f.directives then w else w.add "stream" f.directives
  | .branch f _ ss =>
      if deep && mayBeLeftOut f.directives then w
      else if deep then sightSelections deep enter (w.add "stream" f.directives) ss
      else w.add "stream" f.directives
  | .inline _ ds _ _ ss =>
      if deep && mayBeLeftOut ds then w else sightSelections deep enter (w.add "defer" ds) ss
  | .spread n ds _ => if deep && mayBeLeftOut ds then w else enter n.text ds w

/-- Adds the directives in selections, one after another. -/
def sightSelections (deep : Bool) (enter : String → List Directive → Sighted → Sighted)
    (w : Sighted) : List Selection → Sighted
  | [] => w
  | s :: r => sightSelections deep enter (sightSelection deep enter w s) r

end

/-- Adds the directives of a fragment and of its spread; the fuel bounds how many are entered. -/
def sightFragment (q : Inquiry) (deep : Bool) :
    Nat → String → List Directive → Sighted → Sighted
  | 0, _, _, w => w
  | fuel + 1, name, ds, w =>
      if w.entered.contains name then w
      else match q.fragment? name with
        | none => w
        | some f =>
            let w := w.add "defer" ds
            sightSelections deep (sightFragment q deep fuel)
              { w with entered := name :: w.entered } f.selections

/-- The directives of an operation that deliver data in parts, at its top level or anywhere. -/
def sighted (q : Inquiry) (deep : Bool) (o : Operation) : List Directive :=
  let fuel := q.document.fragments.length + 1
  (sightSelections deep (sightFragment q deep fuel) ⟨[], []⟩ o.selections).directives

/-- The top level of a mutation or a subscription is delivered in parts. -/
def incrementalRootIssues (q : Inquiry) (o : Operation) : List Issue :=
  match o.kind, q.schema.root? o.kind with
  | .query, _ => []
  | kind, some root =>
      (sighted q false o).filterMap fun d => (incrementalName? d).map fun name =>
        ⟨.incrementalOnRoot name root kind, some d.position⟩
  | _, none => []

/-- The `if` argument is false or a variable. -/
def canBeSwitchedOff (d : Directive) : Bool :=
  match argumentValue? d "if" with
  | some (.boolean b _) => !b
  | some (.variable _ _) => true
  | _ => false

/-- Something in a subscription is delivered in parts, and cannot be switched off. -/
def incrementalSubscriptionIssues (q : Inquiry) (o : Operation) : List Issue :=
  match o.kind with
  | .subscription =>
      (sighted q true o).filterMap fun d =>
        if canBeSwitchedOff d then none
        else (incrementalName? d).map fun name =>
          ⟨.incrementalInSubscription name, some d.position⟩
  | _ => []

/-! ## Single directives -/

/-- The label is no plain string, or that of another directive; `labels` are those of the document
    in order.  A label may be null, and is none then. -/
def labelIssues (labels : List (String × Position)) (d : Directive) : List Issue :=
  match incrementalName? d, argumentValue? d "label" with
  | some _, some (.string label _ _) =>
      match labels.find? fun l => l.1 == label with
      | some l => if l.2 == d.position then [] else [⟨.labelNotUnique, some l.2⟩]
      | none => []
  | some _, some (.null _) => []
  | some name, some _ => [⟨.labelNotStatic name, some d.position⟩]
  | _, _ => []

/-- The type is a list, which may exclude null. -/
def isListType (t : TypeRef) : Bool := t.nullable matches .list _

/-- The streamed field is no list.  It is named if it is one of the type's own. -/
def streamedFieldIssues (p : Place) (named : Option NamedField) (d : Directive) : List Issue :=
  match p.parent, named with
  | some t, some n =>
      if d.name.text == "stream" && !isListType n.field.type then
        let name := if n.owner = some t.name then some n.field.name else none
        [⟨.streamOnNonList name t.name, some d.position⟩]
      else []
  | _, _ => []

/-! ## Labels of a document -/

/-- The labels of directives. -/
def labelsOf (ds : List Directive) : List (String × Position) :=
  ds.filterMap fun d =>
    match incrementalName? d, argumentValue? d "label" with
    | some _, some (.string label _ _) => some (label, d.position)
    | _, _ => none

mutual

/-- The labels in a selection. -/
def labelsInSelection : Selection → List (String × Position)
  | .leaf f => labelsOf f.directives
  | .branch f _ ss => labelsOf f.directives ++ labelsInSelections ss
  | .inline _ ds _ _ ss => labelsOf ds ++ labelsInSelections ss
  | .spread _ ds _ => labelsOf ds

/-- The labels in selections. -/
def labelsInSelections : List Selection → List (String × Position)
  | [] => []
  | s :: r => labelsInSelection s ++ labelsInSelections r

end

/-- The labels of a document in order. -/
def documentLabels (d : Document) : List (String × Position) :=
  d.flatMap fun
    | .operation o =>
        labelsOf (o.variableDefinitions.flatMap VariableDefinition.directives)
          ++ labelsOf o.directives ++ labelsInSelections o.selections
    | .fragment f => labelsOf f.directives ++ labelsInSelections f.selections
    | _ => []

end QueryTypings.Check
