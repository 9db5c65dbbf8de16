/-
  The rule on subscriptions: exactly one field at the top level.

  The top level is what the operation selects of the root type, fragments included.  A selection
  there must not depend on a condition; the first condition that is found is reported alone.

  Where a fragment is entered, its `@defer` is evaluated by the definition of that directive.  If it
  cannot be, nothing else is told.
-/
import QueryTypings.Check.Spreads
import QueryTypings.OrderedMap

namespace QueryTypings.Check

open QueryTypings.Graphql QueryTypings.Schema

/-- What has been found at the top level: fields by their keys, the conditions, the misuses of
    `@defer`, and the fragments that were entered. -/
structure TopLevel where
  fields : OrderedMap FieldHead
  conditions : List Directive
  misuses : List Misuse
  entered : List String

namespace TopLevel

/-- Nothing found yet. -/
def empty : TopLevel := ⟨[], [], [], []⟩

/-- Adds a field; of several with one key the first is kept. -/
def addField (t : TopLevel) (f : FieldHead) : TopLevel :=
  if (OrderedMap.get? f.key t.fields).isSome then t
  else { t with fields := t.fields ++ [(f.key, f)] }

/-- Adds a condition. -/
def addCondition (t : TopLevel) (d : Directive) : TopLevel :=
  { t with conditions := t.conditions ++ [d] }

/-- Evaluates the `@defer` among the directives of a fragment. -/
def evaluate (s : Schema) (t : TopLevel) (ds : List Directive) : TopLevel :=
  match ds.find? fun d => d.name.text == deferDirective.name with
  | some d => { t with misuses := t.misuses ++ directiveMisuses s deferDirective d }
  | none => t

end TopLevel

/-- The condition of a selection: the first `@skip`, else the first `@include`. -/
def condition? (ds : List Directive) : Option Directive :=
  (ds.find? fun d => d.name.text == "skip").or (ds.find? fun d => d.name.text == "include")

/-- A fragment with a condition on a type applies to the root type. -/
def appliesToRoot (s : Schema) (root condition : String) : Bool :=
  condition == root || match s.type? condition, s.type? root with
    | some c, some r => c.isAbstract && isPossibleType c r
    | _, _ => false

mutual

/-- Adds what a selection contributes; `enter` adds the fragment of a given name, which is spread
    with given directives. -/
def topSelection (s : Schema) (root : String)
    (enter : String → List Directive → TopLevel → TopLevel) (t : TopLevel) : Selection → TopLevel
  | .leaf f =>
      match condition? f.directives with
      | some d => t.addCondition d
      | none => t.addField f
  | .branch f _ _ =>
      match condition? f.directives with
      | some d => t.addCondition d
      | none => t.addField f
  | .inline c ds _ _ ss =>
      match condition? ds with
      | some d => t.addCondition d
      | none =>
          if (c.map fun n => appliesToRoot s root n.text).getD true then
            topSelections s root enter (t.evaluate s ds) ss
          else t
  | .spread n ds _ =>
      if t.entered.contains n.text then t
      else match condition? ds with
        | some d => t.addCondition d
        | none => enter n.text ds t

/-- Adds what selections contribute, one after another. -/
def topSelections (s : Schema) (root : String)
    (enter : String → List Directive → TopLevel → TopLevel) (t : TopLevel) :
    List Selection → TopLevel
  | [] => t
  | x :: r => topSelections s root enter (topSelection s root enter t x) r

end

/-- Adds what a fragment contributes if it applies; the fuel bounds how many are entered. -/
def enterFragment (q : Inquiry) (root : String) :
    Nat → String → List Directive → TopLevel → TopLevel
  | 0, _, _, t => t
  | fuel + 1, name, ds, t =>
      match q.fragment? name with
      | none => t
      | some f =>
          if appliesToRoot q.schema root f.condition.text then
            let t := t.evaluate q.schema ds
            topSelections q.schema root (enterFragment q root fuel)
              { t with entered := name :: t.entered } f.selections
          else t

/-- The top level of selections of the root type. -/
def topLevel (q : Inquiry) (root : String) (ss : List Selection) : TopLevel :=
  topSelections q.schema root (enterFragment q root (q.document.fragments.length + 1)) .empty ss

/-- The fields of the top level that describe the schema or a type. -/
def isIntrospective (name : String) : Bool := name.toList.take 2 == ['_', '_']

/-- The issues of a subscription's top level. -/
def subscriptionIssues (q : Inquiry) (o : Operation) : List Issue :=
  let name := o.name?.map Name.text
  let issue (fault : SubscriptionFault) (p : Position) : Issue := ⟨.subscription name fault, some p⟩
  match o.kind, q.schema.subscription with
  | .subscription, some root =>
      let top := topLevel q root o.selections
      match top.misuses, top.conditions, top.fields with
      | m :: _, _, _ => [⟨.misuse m, none⟩]
      | [], d :: _, _ => [issue .conditional d.position]
      | [], [], [] => [issue .none o.opening]
      | [], [], fields =>
          (match fields with
            | _ :: extra :: _ => [issue .several extra.2.position]
            | _ => [])
          ++ (fields.filter fun p => isIntrospective p.2.name.text).map fun p =>
            issue .introspection p.2.position
  | _, _ => []

end QueryTypings.Check
