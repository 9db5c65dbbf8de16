/-
  What can be wrong with a document, in words.

  `Problem` has a case for every rule that a document can break, whether it defines a schema or asks
  for data.  An `Issue` is a problem and the place that its message points at; some problems have no
  place.  Two problems end the checking: a document that takes too much work, and a directive that
  has to be evaluated and cannot be.
-/
import QueryTypings.Schema.Annotation

namespace QueryTypings.Check

open QueryTypings.Graphql QueryTypings.Text

/-- Why two fields with one response key cannot be merged. -/
inductive ConflictReason
  | differentFields (a b : String)
  | differentArguments
  | bothStreamed
  | oneStreamed
  | differentTypes (a b : String)
  | subfields (reasons : List (String × ConflictReason))
deriving Repr, BEq

mutual

/-- The whole wording of a reason. -/
def ConflictReason.fullMessage : ConflictReason → String
  | .differentFields a b => "'" ++ a ++ "' and '" ++ b ++ "' are different fields"
  | .differentArguments => "they have differing arguments"
  | .bothStreamed =>
      "they have overlapping stream directives."
        ++ " See https://github.com/graphql/defer-stream-wg/discussions/100"
  | .oneStreamed => "they have overlapping stream directives"
  | .differentTypes a b => "they return conflicting types '" ++ a ++ "' and '" ++ b ++ "'"
  | .subfields reasons => joinWith " and " (subfieldMessages reasons)

/-- The wordings of the reasons of subfields. -/
def subfieldMessages : List (String × ConflictReason) → List String
  | [] => []
  | (key, reason) :: r =>
      ("subfields '" ++ key ++ "' conflict because " ++ reason.fullMessage) :: subfieldMessages r

end

/-- The number of characters of a reason that are told. -/
def maxReasonLength : Nat := 1000

/-- The wording of a reason, cut if it is long. -/
def ConflictReason.message (reason : ConflictReason) : String :=
  let text := reason.fullMessage
  if maxReasonLength < text.length then String.ofList (text.toList.take maxReasonLength) ++ "..."
  else text

/-- What is wrong with the top level of a subscription. -/
inductive SubscriptionFault
  | several | none | introspection | conditional
deriving Repr, BEq, DecidableEq

/-- A broken rule. -/
inductive Problem
  -- definitions of a schema
  | secondSchema
  | secondRoot (kind : OperationKind)
  | secondType (name : String)
  | secondEnumValue (type value : String)
  | secondField (type field : String)
  | secondArgumentDefinition (owner argument : String)
  | secondDirective (name : String)
  | extendsUnknown (name : String) (near : List String)
  | extendsOtherKind (kind name : String)
  -- names, directives and arguments
  | unknownType (name : String) (near : List String)
  | unknownDirective (name : String)
  | misplacedDirective (name location : String)
  | repeatedDirective (name : String)
  | unknownDirectiveArgument (argument directive : String) (near : List String)
  | unknownArgument (argument field : String) (near : List String)
  | repeatedArgument (name : String)
  | repeatedInputField (name : String)
  | missingArgument (owner argument type : String)
  -- operations and fragments
  | notExecutable (what : String)
  | unsupportedOperation (kind : OperationKind)
  | secondOperation (name : String)
  | loneAnonymous
  | subscription (name : Option String) (fault : SubscriptionFault)
  | fragmentOnLeaf (fragment : Option String) (type : String)
  | nonInputVariable (name type : String)
  | selectionOnLeaf (field type : String)
  | missingSelection (field type : String)
  | unknownField (field type : String) (inlineTypes fields : List String)
  | secondFragment (name : String)
  | unknownFragment (name : String)
  | impossibleSpread (fragment : Option String) (parent type : String)
  | fragmentCycle (fragment : String) (via : List String)
  | secondVariable (name : String)
  | undefinedVariable (name : String) (operation : Option String)
  | unusedVariable (name : String) (operation : Option String)
  | incrementalOnRoot (directive type : String) (kind : OperationKind)
  | incrementalInSubscription (directive : String)
  | labelNotStatic (directive : String)
  | labelNotUnique
  | streamOnNonList (field : Option String) (type : String)
  | literal (fault : Schema.LiteralFault)
  | badPosition (name type expected : String)
  | nullableInOneOf (name type object : String)
  | conflict (key : String) (reason : ConflictReason)
  | introspectionTooDeep
  | tooMany
  | tooMuchWork
  | misuse (misuse : Schema.Misuse)
deriving Repr, BEq

/-- The operation to which a variable belongs, in words. -/
def ofOperation (relation : String) : Option String → String
  | some n => relation ++ " operation '" ++ n ++ "'"
  | none => ""

/-- The wording of a problem. -/
def Problem.message : Problem → String
  | .secondSchema => "Must provide only one schema definition."
  | .secondRoot k => "There can be only one " ++ k.word ++ " type in schema."
  | .secondType n => "There can be only one type named '" ++ n ++ "'."
  | .secondEnumValue t v => "Enum value '" ++ t ++ "." ++ v ++ "' can only be defined once."
  | .secondField t f => "Field '" ++ t ++ "." ++ f ++ "' can only be defined once."
  | .secondArgumentDefinition o a =>
      "Argument '" ++ o ++ "(" ++ a ++ ":)' can only be defined once."
  | .secondDirective n => "There can be only one directive named '@" ++ n ++ "'."
  | .extendsUnknown n near =>
      "Cannot extend type '" ++ n ++ "' because it is not defined." ++ didYouMean "" near
  | .extendsOtherKind k n => "Cannot extend non-" ++ k ++ " type '" ++ n ++ "'."
  | .unknownType n near => "Unknown type '" ++ n ++ "'." ++ didYouMean "" near
  | .unknownDirective n => "Unknown directive '@" ++ n ++ "'."
  | .misplacedDirective n l => "Directive '@" ++ n ++ "' may not be used on " ++ l ++ "."
  | .repeatedDirective n => "The directive '@" ++ n ++ "' can only be used once at this location."
  | .unknownDirectiveArgument a d near =>
      "Unknown argument '" ++ a ++ "' on directive '@" ++ d ++ "'." ++ didYouMean "" near
  | .unknownArgument a f near =>
      "Unknown argument '" ++ a ++ "' on field '" ++ f ++ "'." ++ didYouMean "" near
  | .repeatedArgument n => "There can be only one argument named '" ++ n ++ "'."
  | .repeatedInputField n => "There can be only one input field named '" ++ n ++ "'."
  | .missingArgument o a t =>
      "Argument '" ++ o ++ "(" ++ a ++ ":)' of type '" ++ t
        ++ "' is required, but it was not provided."
  | .notExecutable w => "The " ++ w ++ " definition is not executable."
  | .unsupportedOperation k =>
      "The " ++ k.word ++ " operation is not supported by the schema."
  | .secondOperation n => "There can be only one operation named '" ++ n ++ "'."
  | .loneAnonymous => "This anonymous operation must be the only defined operation."
  | .subscription n fault =>
      (match n with
        | some n => "Subscription '" ++ n ++ "'"
        | none => "Anonymous Subscription")
      ++ match fault with
        | .several => " must select only one top level field."
        | .none => " must select one top level field."
        | .introspection => " must not select an introspection top level field."
        | .conditional =>
            " must not use `@skip` or `@include` directives in the top level selection."
  | .fragmentOnLeaf f t =>
      "Fragment " ++ (match f with
        | some n => "'" ++ n ++ "' "
        | none => "")
        ++ "cannot condition on non composite type '" ++ t ++ "'."
  | .nonInputVariable v t => "Variable '$" ++ v ++ "' cannot be non-input type '" ++ t ++ "'."
  | .selectionOnLeaf f t =>
      "Field '" ++ f ++ "' must not have a selection since type '" ++ t ++ "' has no subfields."
  | .missingSelection f t =>
      "Field '" ++ f ++ "' of type '" ++ t ++ "' must have a selection of subfields. Did you mean '"
        ++ f ++ " \x7b ... \x7d'?"
  | .unknownField f t inlineTypes fields =>
      "Cannot query field '" ++ f ++ "' on type '" ++ t ++ "'."
        ++ if inlineTypes.isEmpty then didYouMean "" fields
          else didYouMean "to use an inline fragment on" inlineTypes
  | .secondFragment n => "There can be only one fragment named '" ++ n ++ "'."
  | .unknownFragment n => "Unknown fragment '" ++ n ++ "'."
  | .impossibleSpread f p t =>
      "Fragment " ++ (match f with
        | some n => "'" ++ n ++ "' "
        | none => "")
        ++ "cannot be spread here as objects of type '" ++ p ++ "' can never be of type '" ++ t
        ++ "'."
  | .fragmentCycle f via =>
      "Cannot spread fragment '" ++ f ++ "' within itself"
        ++ (if via.isEmpty then ""
            else " via " ++ joinWith ", " (via.map fun n => "'" ++ n ++ "'"))
        ++ "."
  | .secondVariable n => "There can be only one variable named '$" ++ n ++ "'."
  | .undefinedVariable v o =>
      "Variable '$" ++ v ++ "' is not defined" ++ ofOperation " by" o ++ "."
  | .unusedVariable v o => "Variable '$" ++ v ++ "' is never used" ++ ofOperation " in" o ++ "."
  | .incrementalOnRoot d t k =>
      d ++ " directive cannot be used on root " ++ k.word ++ " type '" ++ t ++ "'."
  | .incrementalInSubscription d =>
      d ++ " directive not supported on subscription operations."
        ++ " Disable `@" ++ d.toLower ++ "` by setting the `if` argument to `false`."
  | .labelNotStatic d => d ++ " directive label argument must be a static string."
  | .labelNotUnique => "Defer/Stream directive label argument must be unique."
  | .streamOnNonList f t =>
      "Stream directive cannot be used on non-list field"
        ++ ((f.map fun n => " '" ++ n ++ "'").getD "")
        ++ " on type '" ++ t ++ "'."
  | .literal fault => fault.message
  | .badPosition v t e =>
      "Variable '$" ++ v ++ "' of type '" ++ t ++ "' used in position expecting type '" ++ e ++ "'."
  | .nullableInOneOf v t o =>
      "Variable '$" ++ v ++ "' is of type '" ++ t
        ++ "' but must be non-nullable to be used for OneOf Input Object '" ++ o ++ "'."
  | .conflict k reason =>
      "Fields '" ++ k ++ "' conflict because " ++ reason.message
        ++ ". Use different aliases on the fields to fetch both if this was intentional."
  | .introspectionTooDeep => "Maximum introspection depth exceeded"
  | .tooMuchWork => "Validation aborted."
  | .misuse m => m.message
  | .tooMany => "Too many validation errors, error limit reached. Validation aborted."

/-- A problem and the place that its message points at. -/
structure Issue where
  problem : Problem
  position : Option Position
deriving Repr, BEq

/-- The message of an issue, with its place if it has one. -/
def Issue.message (i : Issue) : String :=
  i.problem.message ++ match i.position with
    | some p => " (" ++ p.toText ++ ")"
    | none => ""

end QueryTypings.Check
