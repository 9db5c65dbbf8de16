/-
  Values against types.

  A literal fits a type if null stands only where the type admits it, lists and objects have the
  form of the type, and every leaf is written as its scalar or enum demands.  A single value fits a
  list type if it fits the items.  A variable fits everywhere; its declaration is judged elsewhere.
  A scalar that the schema adds to the standard ones accepts every literal.

  An input object of which exactly one field is to be given counts the fields that its type has.

  Every misfit carries the path to it inside the literal and its place in the text.  A leaf that is
  written as a list or an object is judged without its variables, as a value that stands nowhere.
-/
import QueryTypings.Schema.Basic
import QueryTypings.Graphql.Printed
import QueryTypings.Text.Integer
import QueryTypings.Text.Suggestion

namespace QueryTypings.Schema

open QueryTypings.Graphql QueryTypings.Text

/-- Why a literal does not fit a type. -/
inductive LiteralFault
  | nullForNonNull (type : String)
  | notAnObject (type found : String)
  | missingField (type field found : String)
  | unknownField (type field : String) (near : List String) (found : String)
  | notOneField (type : String)
  | notInteger (found : String)
  | outOfRange (found : String)
  | tooManyDigits (digits : Nat) (found : String)
  | notNumeric (found : String)
  | notString (found : String)
  | notBoolean (found : String)
  | notId (found : String)
  | notEnumValue (type found : String) (near : List String)
  | unknownEnumValue (type found : String) (near : List String)
  | immeasurable (type found : String)
  | notLeaf (type : String)
deriving Repr, BEq, DecidableEq

/-- The wording of a misfit that shows when a literal is read as a type's value. -/
def unreadable (type cause found : String) : String :=
  "Expected value of type '" ++ type ++ "', but encountered error '" ++ cause ++ "'; found: "
    ++ found ++ "."

/-- The wording of a misfit. -/
def LiteralFault.message : LiteralFault → String
  | .nullForNonNull t => "Expected value of non-null type '" ++ t ++ "' not to be None."
  | .notAnObject t v => "Expected value of type '" ++ t ++ "' to be an object, found: " ++ v ++ "."
  | .missingField t f v =>
      "Expected value of type '" ++ t ++ "' to include required field '" ++ f ++ "', found: " ++ v
        ++ "."
  | .unknownField t f near v =>
      "Expected value of type '" ++ t ++ "' not to include unknown field '" ++ f ++ "'"
        ++ (if near.isEmpty then ", found: " else "." ++ didYouMean "" near ++ " Found: ") ++ v
        ++ "."
  | .notOneField t =>
      "Within OneOf Input Object type '" ++ t ++ "', exactly one field must be specified, and the "
        ++ "value for that field must be non-null."
  | .notInteger v => "Int cannot represent non-integer value: " ++ v
  | .outOfRange v => "Int cannot represent non 32-bit signed integer value: " ++ v
  | .tooManyDigits n v => unreadable "Int" (tooManyDigitsMessage n) v
  | .notNumeric v => "Float cannot represent non numeric value: " ++ v
  | .notString v => "String cannot represent a non string value: " ++ v
  | .notBoolean v => "Boolean cannot represent a non boolean value: " ++ v
  | .notId v => "ID cannot represent a non-string and non-integer value: " ++ v
  | .notEnumValue t v near =>
      "Enum '" ++ t ++ "' cannot represent non-enum value: " ++ v ++ "."
        ++ didYouMean "the enum value" near
  | .unknownEnumValue t v near =>
      "Value '" ++ v ++ "' does not exist in '" ++ t ++ "' enum."
        ++ didYouMean "the enum value" near
  | .notLeaf t => "Expected " ++ t ++ " to be a GraphQL leaf type."
  | .immeasurable t v => unreadable t "list assignment index out of range" v

/-- A step into a literal. -/
inductive PathStep
  | field (name : String)
  | item (index : Nat)
deriving Repr, BEq, DecidableEq

/-- A step as it is written. -/
def PathStep.text : PathStep → String
  | .field n => "." ++ n
  | .item i => "[" ++ toString i ++ "]"

/-- A misfit, the path to it and its place. -/
structure LiteralIssue where
  fault : LiteralFault
  path : List PathStep
  position : Option Position
deriving Repr, BEq

/-! ## Leaves -/

mutual

/-- A literal without its variables: null in lists, left out of objects. -/
def withoutVariables : Value → Value
  | .variable _ p => .null p
  | .list items p => .list (itemsWithoutVariables items) p
  | .object fields p => .object (fieldsWithoutVariables fields) p
  | v => v

/-- The items of a list without variables. -/
def itemsWithoutVariables : List Value → List Value
  | [] => []
  | v :: r => withoutVariables v :: itemsWithoutVariables r

/-- The fields of an object without variables. -/
def fieldsWithoutVariables : List (Name × Value) → List (Name × Value)
  | [] => []
  | (_, .variable _ _) :: r => fieldsWithoutVariables r
  | (n, v) :: r => (n, withoutVariables v) :: fieldsWithoutVariables r

end

/-- The integer lies within 32 bits, sign included. -/
def fitsInt32 (n : Int) : Bool := decide (-2147483648 ≤ n) && decide (n ≤ 2147483647)

/-- What is wrong with the digits of an integer. -/
def integerFault? (d : String) : Option LiteralFault :=
  let digits := d.toList.countP Char.isDigit
  if maxDigits < digits then some (.tooManyDigits digits d)
  else if fitsInt32 (d.toInt?.getD 0) then none
  else some (.outOfRange d)

/-- What is wrong with a literal for a standard scalar; other scalars accept everything. -/
def scalarFault? (scalar : String) (v : Value) : Option LiteralFault :=
  match scalar, v with
  | "Int", .int d _ => integerFault? d
  | "Int", v => some (.notInteger v.print)
  | "Float", .int _ _ => none
  | "Float", .float _ _ => none
  | "Float", v => some (.notNumeric v.print)
  | "String", .string _ _ _ => none
  | "String", v => some (.notString v.print)
  | "Boolean", .boolean _ _ => none
  | "Boolean", v => some (.notBoolean v.print)
  | "ID", .string _ _ _ => none
  | "ID", .int _ _ => none
  | "ID", v => some (.notId v.print)
  | _, _ => none

/-- What is wrong with a literal for an enum.  The names of values are suggested for the text of any
    other literal, unless one of them cannot be measured against it. -/
def enumFault? (type : String) (values : List String) (v : Value) : Option LiteralFault :=
  match v with
  | .enum n _ =>
      if values.contains n then none
      else some (.unknownEnumValue type n (suggestions n values))
  | v =>
      let text := v.print
      if values.any (outgrows text) then some (.immeasurable type text)
      else some (.notEnumValue type text (suggestions text values))

/-- What is wrong with a literal for a type that is no input object.  No literal is one of a type
    that has subfields. -/
def leafIssues (t : NamedType) (path : List PathStep) (v : Value) : List LiteralIssue :=
  let rebuilt := withoutVariables v
  let fault :=
    match t.parts with
    | .scalar => scalarFault? t.name rebuilt
    | .enum values => enumFault? t.name values rebuilt
    | _ => some (.notLeaf t.name)
  let position :=
    match v with
    | .list _ _ => none
    | .object _ _ => none
    | v => some v.position
  fault.toList.map fun
    | .immeasurable type _ => ⟨.immeasurable type v.print, path, some v.position⟩
    | f => ⟨f, path, position⟩

/-! ## Literals -/

/-- The names among some given ones that an object literal has fields of. -/
def givenFields (fields : List (Name × Value)) (names : List String) : List String :=
  (fields.map fun f => f.1.text).filter names.contains

/-- The value of the last field of a given name. -/
def lastValue? (fields : List (Name × Value)) (name : String) : Option Value :=
  (fields.reverse.find? fun f => f.1.text == name).map (·.2)

mutual

/-- The misfits of a literal for a type; `path` leads to the literal. -/
def literalIssues (s : Schema) : Value → TypeRef → List PathStep → List LiteralIssue
  | .variable _ _, _, _ => []
  | .null p, t, path => if t.isNonNull then [⟨.nullForNonNull t.text, path, some p⟩] else []
  | .list items p, t, path =>
      match t.nullable with
      | .list item => itemIssues s items item path 0
      | t =>
          match s.baseType? t with
          | none => []
          | some named =>
              if named.isInputObject then
                [⟨.notAnObject named.name (Value.list items p).print, path, some p⟩]
              else leafIssues named path (.list items p)
  | .object fields p, t, path =>
      match s.baseType? t with
      | none => []
      | some named =>
          match named.parts with
          | .input inputs oneOf =>
              let found := (Value.object fields p).print
              let declared := inputs.flatMap fun i =>
                match fieldIssues s fields i.name i.type (path ++ [.field i.name]) with
                | some issues => issues
                | none =>
                    if i.isRequired then [⟨.missingField named.name i.name found, path, some p⟩]
                    else []
              let names := inputs.map Input.name
              let unknown := fields.flatMap fun f =>
                if names.contains f.1.text then []
                else
                  let fault := .unknownField named.name f.1.text (suggestions f.1.text names) found
                  [⟨fault, path, some f.1.position⟩]
              let alternative :=
                match (givenFields fields names).eraseDups with
                | [name] =>
                    match lastValue? fields name with
                    | some (.null _) => [⟨.notOneField named.name, path ++ [.field name], some p⟩]
                    | _ => []
                | _ => [⟨.notOneField named.name, path, some p⟩]
              declared ++ unknown ++ if oneOf then alternative else []
          | _ => leafIssues named path (.object fields p)
  | v, t, path =>
      match s.baseType? t with
      | none => []
      | some named =>
          if named.isInputObject then
            [⟨.notAnObject named.name v.print, path, some v.position⟩]
          else leafIssues named path v

/-- The misfits of the items of a list, the first of which has a given index. -/
def itemIssues (s : Schema) : List Value → TypeRef → List PathStep → Nat → List LiteralIssue
  | [], _, _, _ => []
  | v :: r, t, path, i =>
      literalIssues s v t (path ++ [.item i]) ++ itemIssues s r t path (i + 1)

/-- The misfits of the last field of a given name, if there is one. -/
def fieldIssues (s : Schema) :
    List (Name × Value) → String → TypeRef → List PathStep → Option (List LiteralIssue)
  | [], _, _, _ => none
  | (n, v) :: r, name, t, path =>
      match fieldIssues s r name t path with
      | some issues => some issues
      | none => if n.text = name then some (literalIssues s v t path) else none

end

end QueryTypings.Schema
