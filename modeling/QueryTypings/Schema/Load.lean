/-
  From schema text to a schema that documents can be checked against.

  A text fails to be a schema for one of five reasons: it is not well-formed, its definitions break
  rules, a standard directive in them is misused, or the schema that they describe cannot be
  examined or is unsound.  The first reason that applies is reported.
-/
import QueryTypings.Check.Definitions
import QueryTypings.Schema.Check
import QueryTypings.Graphql.Document.Read

namespace QueryTypings.Schema

open QueryTypings.Graphql QueryTypings.Text

/-- Why a text is no schema. -/
inductive TextFault
  | malformed (text : String) (error : SyntaxError)
  | illDefined (issues : List Check.Issue)
  | misused (text : String) (misuse : Misuse)
  | unexaminable (text : String) (obstacle : Obstacle)
  | unsound (faults : List Fault)

/-- The wording: a syntax error and a misuse come with the lines around them, issues of definitions
    are separated by blank lines, violations by semicolons. -/
def TextFault.message : TextFault → String
  | .malformed text e => e.message ++ shownPlace text e.position
  | .illDefined issues => joinWith "\n\n" (issues.map fun i => i.problem.message)
  | .misused text m => m.messageIn text
  | .unexaminable text o => o.messageIn text
  | .unsound faults => joinWith "; " (faults.map Fault.message)

/-- The schema that a text writes. -/
def ofText (text : String) : Except TextFault Schema :=
  match Document.ofText text with
  | .error e => .error (.malformed text e)
  | .ok d =>
      match Check.definitionIssues d with
      | [] =>
          let s := ofDefinitions d
          match misuses s d with
          | m :: _ => .error (.misused text m)
          | [] =>
              let faults := s.faults (enumsMisused s d)
              match faults.findSome? Fault.obstacle? with
              | some obstacle => .error (.unexaminable text obstacle)
              | none => if faults.isEmpty then .ok s else .error (.unsound faults)
      | issues => .error (.illDefined issues)

/-! ## Optional inputs -/

/-- Marks the input of a given name. -/
def markInput (name : String) (inputs : List Input) : List Input :=
  inputs.map fun i => if i.name = name then { i with markedOptional := true } else i

/-- Marks an input field, or an argument of a field, as one that may be left out. -/
def markOptional (s : Schema) (type field : String) (argument : Option String) : Schema :=
  { s with
    types := s.types.map fun t =>
      if t.name ≠ type then t
      else
        let mark (f : Field) : Field :=
          match argument with
          | some a => if f.name = field then { f with arguments := markInput a f.arguments } else f
          | none => f
        match t.parts, argument with
        | .input fs oneOf, none => { t with parts := .input (markInput field fs) oneOf }
        | .object is fs, _ => { t with parts := .object is (fs.map mark) }
        | .interface is fs, _ => { t with parts := .interface is (fs.map mark) }
        | _, _ => t }

end QueryTypings.Schema
