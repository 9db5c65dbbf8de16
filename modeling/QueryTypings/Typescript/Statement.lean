/-
  TypeScript types and statements, as far as declaration files use them.

  A type is built from names, members of the record of scalars, string literals, arrays, unions with
  null, wrappers such as `Maybe`, object types, unions and alternatives.  `Ty.text` writes a type in
  one line; alternatives that read alike are written once.

  A statement imports types, exports a type or declares a constant.  An exported type is written in
  one line, as a record with a line for each member, as a list of string literals, or as a text that
  is given.  `Statement.exported?` says which name a statement exports as a type.

  A description becomes a comment in front of what it describes: in one line if the description has
  one line, otherwise a line for each.  Blanks around the description are dropped, and the end mark
  of comments is broken up wherever it occurs inside.
-/
import QueryTypings.Text.Blank
import QueryTypings.Text.Lines

namespace QueryTypings.Typescript

open QueryTypings.Text

/-! ## Types -/

mutual

/-- A TypeScript type. -/
inductive Ty
  /-- A type by its name, or any text that stands for a type. -/
  | name (text : String)
  /-- The member of `Scalars` for a scalar. -/
  | scalar (name : String)
  /-- The type of one string. -/
  | literal (text : String)
  | array (item : Ty)
  /-- The type or null. -/
  | orNull (type : Ty)
  /-- A generic type of one argument. -/
  | generic (name : String) (argument : Ty)
  | object (members : List Member)
  /-- One of several types; of none, no value at all. -/
  | union (types : List Ty)
  /-- One of several types, each of which is written once. -/
  | alternatives (types : List Ty)

/-- A member of an object type. -/
inductive Member
  | mk (name : String) (optional : Bool) (type : Ty)

end

deriving instance Repr, BEq for Ty, Member

/-- The name of a member. -/
def Member.name : Member → String
  | .mk n _ _ => n

/-- The member may be absent. -/
def Member.optional : Member → Bool
  | .mk _ o _ => o

/-- The type of a member. -/
def Member.type : Member → Ty
  | .mk _ _ t => t

/-- The mark behind the name of an optional member. -/
def optionalMark (optional : Bool) : String := if optional then "?" else ""

/-- The texts that differ, in the order of their first places. -/
def distinctTexts (texts : List String) : List String :=
  texts.foldl (fun seen t => if seen.contains t then seen else seen ++ [t]) []

/-- Texts of alternatives as one text. -/
def unionText : List String → String
  | [] => "never"
  | texts => joinWith " | " texts

mutual

/-- A type as text. -/
def Ty.text : Ty → String
  | .name t => t
  | .scalar n => "Scalars['" ++ n ++ "']"
  | .literal s => "'" ++ s ++ "'"
  | .array t => "Array<" ++ t.text ++ ">"
  | .orNull t => t.text ++ " | null"
  | .generic n t => n ++ "<" ++ t.text ++ ">"
  | .object [] => "\x7b\x7d"
  | .object ms => "\x7b " ++ joinWith ", " (memberTexts ms) ++ " \x7d"
  | .union ts => unionText (typeTexts ts)
  | .alternatives ts => unionText (distinctTexts (typeTexts ts))

/-- A member as text. -/
def Member.text : Member → String
  | .mk n optional t => n ++ optionalMark optional ++ ": " ++ t.text

/-- Types as texts. -/
def typeTexts : List Ty → List String
  | [] => []
  | t :: r => t.text :: typeTexts r

/-- Members as texts. -/
def memberTexts : List Member → List String
  | [] => []
  | m :: r => m.text :: memberTexts r

end

theorem typeTexts_eq_map (ts : List Ty) : typeTexts ts = ts.map Ty.text := by
  induction ts with
  | nil => rfl
  | cons t r ih => rw [typeTexts, ih, List.map_cons]

theorem memberTexts_eq_map (ms : List Member) : memberTexts ms = ms.map Member.text := by
  induction ms with
  | nil => rfl
  | cons m r ih => rw [memberTexts, ih, List.map_cons]

/-! ## Comments -/

/-- Puts a backslash between a star and a slash. -/
def breakEndMarks : List Char → List Char
  | '*' :: '/' :: r => '*' :: '\\' :: '/' :: breakEndMarks r
  | c :: r => c :: breakEndMarks r
  | [] => []

/-- The lines of a description inside a comment. -/
def commentLines (description : String) : List (List Char) :=
  lines (breakEndMarks (trim description.toList))

/-- A line between the first and the last of a comment. -/
def commentRow (indent line : List Char) : List Char :=
  trimEnd (indent ++ [' ', '*', ' '] ++ line)

/-- The comment for a description, ending in a line feed; nothing for no description. -/
def comment (indent : String) (description : Option String) : String :=
  match description with
  | none => ""
  | some d =>
      if d = "" then ""
      else
        match commentLines d with
        | [line] => indent ++ "/** " ++ String.ofList line ++ " */\n"
        | rows =>
            indent ++ "/**\n"
              ++ String.ofList (intercal ['\n'] (rows.map (commentRow indent.toList)))
              ++ "\n" ++ indent ++ " */\n"

/-! ## Statements -/

/-- A member of a record, with its description. -/
structure RecordMember where
  description : Option String
  name : String
  optional : Bool
  type : Ty
deriving Repr, BEq

/-- A member's line, after its comment. -/
def RecordMember.text (m : RecordMember) : String :=
  comment "  " m.description ++ "  " ++ m.name ++ optionalMark m.optional ++ ": " ++ m.type.text
    ++ ";"

/-- What an exported type is. -/
inductive Body
  /-- A type in one line. -/
  | inline (type : Ty)
  /-- A record with a line for each member. -/
  | record (members : List RecordMember)
  /-- One of several strings, with a line for each. -/
  | choice (values : List String)
  /-- A record without any member. -/
  | emptyRecord
deriving Repr, BEq

/-- A body as text, with what separates it from the equals sign. -/
def Body.text : Body → String
  | .inline t => " " ++ t.text
  | .record ms => " \x7b\n" ++ joinWith "\n" (ms.map RecordMember.text) ++ "\n\x7d"
  | .choice [] => "\n  never"
  | .choice values => "\n" ++ joinWith "\n" (values.map fun v => "  | '" ++ v ++ "'")
  | .emptyRecord => " \x7b [key: string]: never \x7d"

/-- A statement. -/
inductive Statement
  /-- Imports types from a module. -/
  | importTypes (names : List String) (specifier : String)
  /-- Exports a type. -/
  | exportType (description : Option String) (name : String) (body : Body)
  /-- Exports a type with parameters, both given as text. -/
  | exportGeneric (name parameters body : String)
  /-- Declares and exports a constant. -/
  | declareConst (name : String) (type : Ty)
  /-- Exports nothing, which makes the file a module. -/
  | exportNothing
deriving Repr, BEq

/-- A statement as text. -/
def Statement.text : Statement → String
  | .importTypes names specifier =>
      "import type \x7b" ++ (if names.isEmpty then "" else " " ++ joinWith ", " names ++ " ")
        ++ "\x7d from \"" ++ specifier ++ "\";"
  | .exportType d n b => comment "" d ++ "export type " ++ n ++ " =" ++ b.text ++ ";"
  | .exportGeneric n ps b => "export type " ++ n ++ ps ++ " = " ++ b ++ ";"
  | .declareConst n t => "export declare const " ++ n ++ ": " ++ t.text ++ ";"
  | .exportNothing => "export\x7b\x7d;"

/-- The name that a statement exports as a type. -/
def Statement.exported? : Statement → Option String
  | .exportType _ n _ => some n
  | .exportGeneric n _ _ => some n
  | _ => none

/-- The constant that a statement declares. -/
def Statement.constant? : Statement → Option String
  | .declareConst n _ => some n
  | _ => none

end QueryTypings.Typescript
