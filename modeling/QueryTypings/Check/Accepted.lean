/-
  From query text to a document that the schema can answer.

  A text that holds only blank lines and lines that begin with `#` is an empty document.  Any other
  text is read and checked; it fails because it is not well-formed, because it breaks rules, or
  because a directive in it had to be evaluated and could not be.
-/
import QueryTypings.Check.Operations
import QueryTypings.Graphql.Document.Read
import QueryTypings.Text.Blank

namespace QueryTypings.Check

open QueryTypings.Graphql QueryTypings.Schema QueryTypings.Text

/-- Why a text is no document for a schema: one message for the error of a malformed text, or for
    each issue.  An obstacle is nothing that a text is refused for. -/
inductive QueryFault
  | refused (messages : List String)
  | obstructed (text : String) (obstacle : Obstacle)
deriving Repr, BEq

/-- The message for a malformed text. -/
def malformedMessage (e : SyntaxError) : String := e.message ++ " (" ++ e.position.toText ++ ")"

/-- The line holds nothing, or begins with a comment. -/
def isBlankLine (line : List Char) : Bool :=
  (trim line).isEmpty || (trimStart line).head? == some '#'

/-- All lines of the text are blank or comments. -/
def isBlankText (text : String) : Bool := (lines text.toList).all isBlankLine

/-- The document that a text writes, if the schema can answer it. -/
def accepted (s : Schema) (text : String) : Except QueryFault Document :=
  if isBlankText text then .ok []
  else match Document.ofText text with
    | .error e => .error (.refused [malformedMessage e])
    | .ok d =>
        match verdict (Inquiry.mk s d).issues with
        | .issues [] => .ok d
        | .issues issues => .error (.refused (issues.map Issue.message))
        | .misuse m => .error (.obstructed text (.misuse m))

end QueryTypings.Check
