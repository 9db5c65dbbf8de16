/-
  Reading a document from its tokens.

  A reader consumes tokens from the front and fails with a syntax error at the first token that does
  not fit.  An illegal token fails as soon as it comes to the front.  Selection sets, list and
  object values and list types may be nested 200 deep altogether; the readers of nested things count
  down what is left of that, which is also what makes them end.
-/
import QueryTypings.Graphql.Document
import QueryTypings.Graphql.Token.Scan

namespace QueryTypings.Graphql

/-- The token in front and those behind it. -/
structure Tokens where
  front : Token
  behind : List Token

/-- A reader of tokens. -/
abbrev Reader := StateT Tokens (Except SyntaxError)

namespace Reader

/-! ## Single tokens -/

/-- Fails at a place. -/
def fail {α : Type} (fault : SyntaxFault) (p : Position) : Reader α :=
  fun _ => .error ⟨fault, p⟩

/-- Refuses an illegal token. -/
def legal (t : Token) : Except SyntaxError Unit :=
  match t.kind with
  | .illegal fault => .error ⟨.lexical fault, t.position⟩
  | _ => .ok ()

/-- The token in front. -/
def front : Reader Token := fun s => .ok (s.front, s)

/-- The token behind the one in front. -/
def second : Reader Token := fun s =>
  match s.behind with
  | [] => .ok (s.front, s)
  | t :: _ => (legal t).map fun _ => (t, s)

/-- Drops the token in front. -/
def drop : Reader Unit := fun s =>
  match s.behind with
  | [] => .ok ((), s)
  | t :: r => (legal t).map fun _ => ((), ⟨t, r⟩)

/-- Fails at a token that fits nowhere. -/
def unexpected {α : Type} (t : Token) : Reader α := fail (.unexpected t) t.position

/-- The token in front has a given kind. -/
def isFront (k : TokenKind) : Reader Bool := do return (← front).kind == k

/-- Takes a token of a given kind. -/
def take (k : TokenKind) : Reader Token := do
  let t ← front
  if t.kind = k then drop; return t
  else fail (.expectedKind k t) t.position

/-- Takes a punctuator. -/
def takePunctuator (p : Punctuator) : Reader Unit := do let _ ← take (.punctuator p)

/-- Takes a token of a given kind if it is in front. -/
def skip (k : TokenKind) : Reader Bool := do
  if (← front).kind = k then drop; return true
  else return false

/-- Takes a punctuator if it is in front. -/
def skipPunctuator (p : Punctuator) : Reader Bool := skip (.punctuator p)

/-- Takes a given word. -/
def takeWord (word : String) : Reader Unit := do
  let t ← front
  if t.kind = .name && t.value = word then drop
  else fail (.expectedKeyword word t) t.position

/-- Takes a given word if it is in front. -/
def skipWord (word : String) : Reader Bool := do
  let t ← front
  if t.kind = .name && t.value = word then drop; return true
  else return false

/-- Takes a name. -/
def name : Reader Name := do
  let t ← take .name
  return ⟨t.value, t.position⟩

/-! ## Repetitions -/

/-- The number of tokens left, which bounds every repetition. -/
def left : Reader Nat := fun s => .ok (s.behind.length + 1, s)

/-- Items up to a closing punctuator. -/
def untilClosed {α : Type} (item : Reader α) (close : Punctuator) : Nat → Reader (List α)
  | 0 => do unexpected (← front)
  | n + 1 => do
      if ← skipPunctuator close then return []
      let a ← item
      return a :: (← untilClosed item close n)

/-- Any number of items between punctuators. -/
def any {α : Type} (openWith : Punctuator) (item : Reader α) (close : Punctuator) :
    Reader (List α) := do
  takePunctuator openWith
  untilClosed item close (← left)

/-- At least one item between punctuators. -/
def many {α : Type} (openWith : Punctuator) (item : Reader α) (close : Punctuator) :
    Reader (List α) := do
  takePunctuator openWith
  let a ← item
  return a :: (← untilClosed item close (← left))

/-- At least one item between punctuators, or nothing at all. -/
def optionalMany {α : Type} (openWith : Punctuator) (item : Reader α) (close : Punctuator) :
    Reader (List α) := do
  if ← isFront (.punctuator openWith) then many openWith item close else return []

/-- Further items, each behind a separator. -/
def moreSeparated {α : Type} (item : Reader α) (separator : Punctuator) : Nat → Reader (List α)
  | 0 => return []
  | n + 1 => do
      if ← skipPunctuator separator then
        let a ← item
        return a :: (← moreSeparated item separator n)
      else return []

/-- At least one item, with separators between them and perhaps one in front. -/
def separated {α : Type} (item : Reader α) (separator : Punctuator) : Reader (List α) := do
  let _ ← skipPunctuator separator
  let a ← item
  return a :: (← moreSeparated item separator (← left))

/-- Items as long as a given punctuator is in front. -/
def whileFront {α : Type} (p : Punctuator) (item : Reader α) : Nat → Reader (List α)
  | 0 => return []
  | n + 1 => do
      if ← isFront (.punctuator p) then
        let a ← item
        return a :: (← whileFront p item n)
      else return []

/-! ## Values, types and directives -/

/-- Fails where no more nesting is allowed. -/
def tooDeep {α : Type} : Reader α := do fail .nestedTooDeeply (← front).position

/-- How deep a document may be nested. -/
def maxDepth : Nat := 200

/-- A variable from its dollar on: its name and its place. -/
def variableUse : Reader (Name × Position) := do
  let t ← take (.punctuator .dollar)
  return (← name, t.position)

/-- A field of an object value, given the reader of its value. -/
def objectField (value : Reader Value) : Reader (Name × Value) := do
  let n ← name
  takePunctuator .colon
  return (n, ← value)

/-- A value; a constant holds no variables.  `depth` is the nesting that is left. -/
def value (constant : Bool) (depth : Nat) : Reader Value := do
  let t ← front
  match t.kind with
  | .punctuator .bracketL =>
      match depth with
      | 0 => tooDeep
      | n + 1 => return .list (← any .bracketL (value constant n) .bracketR) t.position
  | .punctuator .braceL =>
      match depth with
      | 0 => tooDeep
      | n + 1 =>
          return .object (← any .braceL (objectField (value constant n)) .braceR) t.position
  | .int => drop; return .int t.value t.position
  | .float => drop; return .float t.value t.position
  | .string => drop; return .string t.value false t.position
  | .blockString => drop; return .string t.value true t.position
  | .name =>
      drop
      match t.value with
      | "true" => return .boolean true t.position
      | "false" => return .boolean false t.position
      | "null" => return .null t.position
      | n => return .enum n t.position
  | .punctuator .dollar =>
      if constant then
        drop
        let next ← front
        if next.kind = .name then fail (.variableInConstant next.value) t.position
        else unexpected t
      else
        let (n, p) ← variableUse
        return .variable n p
  | _ => unexpected t

/-- A type. -/
def typeNode : Nat → Reader TypeNode
  | 0 => tooDeep
  | n + 1 => do
      let t ← front
      let inner ←
        if ← skipPunctuator .bracketL then
          let item ← typeNode n
          takePunctuator .bracketR
          pure (TypeNode.list item t.position)
        else TypeNode.named <$> name
      if ← skipPunctuator .bang then return .nonNull inner else return inner

/-- The type of a variable, a field or an argument. -/
def wholeType : Reader TypeNode := typeNode (maxDepth + 1)

/-- An argument. -/
def argument (constant : Bool) (depth : Nat) : Reader Argument := do
  let n ← name
  takePunctuator .colon
  return ⟨n, ← value constant depth⟩

/-- The arguments of a field or a directive. -/
def arguments (constant : Bool) (depth : Nat) : Reader (List Argument) :=
  optionalMany .parenL (argument constant depth) .parenR

/-- A directive. -/
def directive (constant : Bool) (depth : Nat) : Reader Directive := do
  let t ← take (.punctuator .at)
  let n ← name
  return ⟨n, ← arguments constant depth, t.position⟩

/-- Any number of directives. -/
def directives (constant : Bool) (depth : Nat) : Reader (List Directive) := do
  whileFront .at (directive constant depth) (← left)

/-- Directives whose arguments are constants. -/
def constantDirectives : Reader (List Directive) := directives true maxDepth

/-! ## Operations and fragments -/

/-- The name of a fragment, which may not be `on`. -/
def fragmentName : Reader Name := do
  let t ← front
  if t.value = "on" then unexpected t else name

/-- A field, given the reader of its selection set. -/
def field (depth : Nat) (selections : Reader (List Selection)) : Reader Selection := do
  let t ← front
  let first ← name
  let renamed ← skipPunctuator .colon
  let n ← if renamed then name else pure first
  let args ← arguments false depth
  let ds ← directives false depth
  let head : FieldHead := ⟨if renamed then some first else none, n, args, ds, t.position⟩
  let opening ← front
  if opening.kind = .punctuator .braceL then
    return .branch head opening.position (← selections)
  else return .leaf head

/-- A selection that begins with three points, given the reader of its selection set. -/
def fragmentUse (depth : Nat) (selections : Reader (List Selection)) : Reader Selection := do
  let t ← take (.punctuator .spread)
  let conditional ← skipWord "on"
  if !conditional && (← isFront .name) then
    let n ← fragmentName
    return .spread n (← directives false depth) t.position
  else
    let condition ← if conditional then some <$> name else pure none
    let ds ← directives false depth
    let opening ← front
    return .inline condition ds t.position opening.position (← selections)

/-- A selection set. -/
def selectionSet : Nat → Reader (List Selection)
  | 0 => tooDeep
  | n + 1 =>
      any .braceL
        (do
          if ← isFront (.punctuator .spread) then fragmentUse n (selectionSet n)
          else field n (selectionSet n))
        .braceR

/-- A description, if one is in front. -/
def description : Reader (Option Description) := do
  let t ← front
  match t.kind with
  | .string => drop; return some ⟨t.value, false⟩
  | .blockString => drop; return some ⟨t.value, true⟩
  | _ => return none

/-- The kind of an operation. -/
def operationKind : Reader OperationKind := do
  let t ← take .name
  match t.value with
  | "query" => return .query
  | "mutation" => return .mutation
  | "subscription" => return .subscription
  | _ => unexpected t

/-- A default value, if there is one. -/
def defaultValue : Reader (Option Value) := do
  if ← skipPunctuator .equals then some <$> value true maxDepth else return none

/-- The declaration of a variable. -/
def variableDefinition : Reader VariableDefinition := do
  let t ← front
  let d ← description
  let (n, p) ← variableUse
  takePunctuator .colon
  let type ← wholeType
  let default? ← defaultValue
  return ⟨d, n, p, type, default?, ← constantDirectives, t.position⟩

/-- An operation. -/
def operation : Reader Operation := do
  let t ← front
  if t.kind = .punctuator .braceL then
    return ⟨none, .query, none, [], [], ← selectionSet maxDepth, t.position, t.position⟩
  else
    let d ← description
    let kind ← operationKind
    let n ← if ← isFront .name then some <$> name else pure none
    let vs ← optionalMany .parenL variableDefinition .parenR
    let ds ← directives false maxDepth
    let opening ← front
    return ⟨d, kind, n, vs, ds, ← selectionSet maxDepth, opening.position, t.position⟩

/-- A fragment. -/
def fragment : Reader Fragment := do
  let t ← front
  let d ← description
  takeWord "fragment"
  let n ← fragmentName
  takeWord "on"
  let condition ← name
  let ds ← directives false maxDepth
  let opening ← front
  return ⟨d, n, condition, ds, ← selectionSet maxDepth, opening.position, t.position⟩

/-! ## The type system -/

/-- An argument of a field or a directive, or a field of an input object. -/
def inputDefinition : Reader InputDefinition := do
  let d ← description
  let n ← name
  takePunctuator .colon
  let type ← wholeType
  let default? ← defaultValue
  return ⟨d, n, type, default?, ← constantDirectives⟩

/-- The arguments that a definition declares. -/
def argumentDefinitions : Reader (List InputDefinition) :=
  optionalMany .parenL inputDefinition .parenR

/-- A field of an object or an interface. -/
def fieldDefinition : Reader FieldDefinition := do
  let d ← description
  let n ← name
  let args ← argumentDefinitions
  takePunctuator .colon
  let type ← wholeType
  return ⟨d, n, args, type, ← constantDirectives⟩

/-- A value of an enum. -/
def enumValueDefinition : Reader EnumValueDefinition := do
  let d ← description
  let t ← front
  if t.value = "true" || t.value = "false" || t.value = "null" then
    fail (.reservedEnumValue t) t.position
  else
    let n ← name
    return ⟨d, n, ← constantDirectives⟩

/-- The interfaces that a type implements. -/
def implemented : Reader (List Name) := do
  if ← skipWord "implements" then separated name .amp else return []

/-- The fields of an object or an interface. -/
def fieldDefinitions : Reader (List FieldDefinition) :=
  optionalMany .braceL fieldDefinition .braceR

/-- The members of a union. -/
def unionMembers : Reader (List Name) := do
  if ← skipPunctuator .equals then separated name .pipe else return []

/-- The root types that a schema names. -/
def rootType : Reader (OperationKind × Name) := do
  let kind ← operationKind
  takePunctuator .colon
  return (kind, ← name)

/-- The places where a directive may stand. -/
def directiveLocations : List String :=
  ["QUERY", "MUTATION", "SUBSCRIPTION", "FIELD", "FRAGMENT_DEFINITION", "FRAGMENT_SPREAD",
    "INLINE_FRAGMENT", "VARIABLE_DEFINITION", "FRAGMENT_VARIABLE_DEFINITION", "SCHEMA", "SCALAR",
    "OBJECT", "FIELD_DEFINITION", "ARGUMENT_DEFINITION", "INTERFACE", "UNION", "ENUM", "ENUM_VALUE",
    "INPUT_OBJECT", "INPUT_FIELD_DEFINITION", "DIRECTIVE_DEFINITION"]

/-- A place where a directive may stand. -/
def directiveLocation : Reader Name := do
  let t ← front
  let n ← name
  if directiveLocations.contains n.text then return n else unexpected t

/-- Nothing has been added: not an extension. -/
def requireParts (found : Bool) : Reader Unit := do
  if found then return () else unexpected (← front)

/-- The definition or the extension of a type, from its keyword on. -/
def typeDefinition (isExtension : Bool) (p : Position) (d : Option Description) (keyword : String) :
    Reader TypeDefinition := do
  takeWord keyword
  let n ← name
  let finish (ds : List Directive) (parts : TypeParts) (added : Bool) : Reader TypeDefinition := do
    if isExtension then requireParts (added || !ds.isEmpty)
    return ⟨isExtension, d, n, ds, parts, p⟩
  match keyword with
  | "scalar" => finish (← constantDirectives) .scalar false
  | "union" =>
      let ds ← constantDirectives
      let members ← unionMembers
      finish ds (.union members) (!members.isEmpty)
  | "enum" =>
      let ds ← constantDirectives
      let values ← optionalMany .braceL enumValueDefinition .braceR
      finish ds (.enum values) (!values.isEmpty)
  | "input" =>
      let ds ← constantDirectives
      let fields ← optionalMany .braceL inputDefinition .braceR
      finish ds (.input fields) (!fields.isEmpty)
  | _ =>
      let interfaces ← implemented
      let ds ← constantDirectives
      let fields ← fieldDefinitions
      let parts :=
        if keyword = "interface" then TypeParts.interface interfaces fields
        else .object interfaces fields
      finish ds parts (!interfaces.isEmpty || !fields.isEmpty)

/-- The definition or the extension of a schema, from its keyword on. -/
def schemaDefinition (isExtension : Bool) (p : Position) (d : Option Description) :
    Reader SchemaDefinition := do
  takeWord "schema"
  let ds ← constantDirectives
  let roots ←
    if isExtension then optionalMany .braceL rootType .braceR else many .braceL rootType .braceR
  if isExtension then requireParts (!ds.isEmpty || !roots.isEmpty)
  return ⟨isExtension, d, ds, roots, p⟩

/-- The definition of a directive, from its keyword on. -/
def directiveDefinition (p : Position) (d : Option Description) : Reader DirectiveDefinition := do
  takeWord "directive"
  takePunctuator .at
  let n ← name
  let args ← argumentDefinitions
  let ds ← constantDirectives
  let repeatable ← skipWord "repeatable"
  takeWord "on"
  return ⟨d, n, args, ds, repeatable, ← separated directiveLocation .pipe, p⟩

/-- The extension of a directive, from its keyword on. -/
def directiveExtension (p : Position) : Reader DirectiveExtension := do
  takeWord "directive"
  takePunctuator .at
  let n ← name
  let ds ← constantDirectives
  requireParts (!ds.isEmpty)
  return ⟨n, ds, p⟩

/-- The keywords that begin the definition of a type. -/
def typeKeywords : List String := ["scalar", "type", "interface", "union", "enum", "input"]

/-- An extension. -/
def extension : Reader Definition := do
  let p := (← front).position
  let t ← second
  if t.kind = .name then
    if typeKeywords.contains t.value then
      takeWord "extend"
      return .type (← typeDefinition true p none t.value)
    else match t.value with
      | "schema" => takeWord "extend"; return .schema (← schemaDefinition true p none)
      | "directive" => takeWord "extend"; return .directiveExtension (← directiveExtension p)
      | _ => unexpected t
  else unexpected t

/-- The definition of which `key` says what it defines; `t` is its first token, which is another one
    if a description stands in front. -/
def keyedDefinition (t key : Token) (described : Bool) : Reader Definition := do
  if key.kind = .name then
    if typeKeywords.contains key.value then
      let d ← description
      return .type (← typeDefinition false t.position d key.value)
    match key.value with
    | "schema" =>
        let d ← description
        return .schema (← schemaDefinition false t.position d)
    | "directive" =>
        let d ← description
        return .directive (← directiveDefinition t.position d)
    | "query" | "mutation" | "subscription" => return .operation (← operation)
    | "fragment" => return .fragment (← fragment)
    | word =>
        if described then fail .strayDescription t.position
        if word = "extend" then extension else unexpected key
  else unexpected key

/-- A definition. -/
def definition : Reader Definition := do
  let t ← front
  if t.kind = .punctuator .braceL then return .operation (← operation)
  let described := t.kind == .string || t.kind == .blockString
  let key ← if described then second else pure t
  if described && key.kind = .punctuator .braceL then fail .descriptionOnShorthand t.position
  keyedDefinition t key described

/-- Definitions up to the end of the text. -/
def definitions : Nat → Reader Document
  | 0 => do unexpected (← front)
  | n + 1 => do
      if ← isFront .endOfText then return []
      let d ← definition
      return d :: (← definitions n)

/-- A document: at least one definition. -/
def document : Reader Document := do
  let d ← definition
  return d :: (← definitions (← left))

end Reader

/-- The document that a text writes. -/
def Document.ofText (text : String) : Except SyntaxError Document :=
  match tokens text with
  | [] => .ok []
  | t :: r => do
      Reader.legal t
      Reader.document.run' ⟨t, r⟩

end QueryTypings.Graphql
