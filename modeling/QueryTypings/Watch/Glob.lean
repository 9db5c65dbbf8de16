/-
  Patterns for paths, and what they select in a tree.

  A pattern is a list of parts between slashes.  A part of two stars stands for any directories; a
  part with stars, question marks and sets of characters in brackets is a pattern for a name; every
  other part stands for itself.  Letters of different case differ.

  A pattern leads from a directory over directories to whatever its last part finds there.  A part
  that stands for itself is looked up, and a look-up may be refused; the other parts only find what
  is there.
-/
import QueryTypings.FileTree.Change
import QueryTypings.Path.Basic

namespace QueryTypings.Watch

open QueryTypings.Text

/-! ## Patterns for names -/

/-- Characters that a set in brackets holds: those from one to another. -/
structure Span where
  first : Char
  last : Char
deriving Repr, BEq, DecidableEq

/-- A piece of a pattern for a name. -/
inductive Piece
  | anything
  | anyChar
  | oneOf (negated : Bool) (spans : List Span)
  | exactly (c : Char)
deriving Repr, BEq, DecidableEq

/-- The spans that the text between brackets describes: a hyphen between two characters makes a span
    of them. -/
def spans : List Char → List Span
  | a :: '-' :: b :: r => ⟨a, b⟩ :: spans r
  | a :: r => ⟨a, a⟩ :: spans r
  | [] => []

/-- The text up to the bracket that closes a set, and what follows it.  A bracket that comes first
    belongs to the set. -/
def closing? (cs : List Char) : Option (List Char × List Char) :=
  let (mark, cs) := match cs with
    | '!' :: r => (['!'], r)
    | r => ([], r)
  let (own, cs) := match cs with
    | ']' :: r => ([']'], r)
    | r => ([], r)
  match cs.dropWhile (· != ']') with
  | [] => none
  | _ :: r => some (mark ++ own ++ cs.takeWhile (· != ']'), r)

/-- The set that the text between brackets describes. -/
def setPiece : List Char → Piece
  | '!' :: r => .oneOf true (spans r)
  | cs => .oneOf false (spans cs)

/-- The pieces of a pattern, which has no more than `fuel` characters.  A bracket that nothing
    closes stands for itself. -/
def piecesFrom : Nat → List Char → List Piece
  | 0, _ => []
  | _, [] => []
  | fuel + 1, c :: r =>
      if c = '*' then .anything :: piecesFrom fuel r
      else if c = '?' then .anyChar :: piecesFrom fuel r
      else if c = '[' then
        match closing? r with
        | some (set, r) => setPiece set :: piecesFrom fuel r
        | none => .exactly c :: piecesFrom fuel r
      else .exactly c :: piecesFrom fuel r

/-- The pieces of a pattern for a name. -/
def pieces (pattern : List Char) : List Piece := piecesFrom pattern.length pattern

/-- The character is in one of the spans. -/
def inSpans (spans : List Span) (c : Char) : Bool :=
  spans.any fun s => s.first.toNat ≤ c.toNat && c.toNat ≤ s.last.toNat

/-- The piece fits a character. -/
def Piece.fits (p : Piece) (c : Char) : Bool :=
  match p with
  | .anything => true
  | .anyChar => true
  | .oneOf negated ss => inSpans ss c != negated
  | .exactly d => c == d

/-- One of the ends of a text satisfies a condition, the text itself and the empty one included. -/
def anyEnd (holds : List Char → Bool) : List Char → Bool
  | [] => holds []
  | c :: r => holds (c :: r) || anyEnd holds r

/-- The pieces fit a name from beginning to end. -/
def fitsName : List Piece → List Char → Bool
  | [], cs => cs.isEmpty
  | .anything :: ps, cs => anyEnd (fitsName ps) cs
  | _ :: _, [] => false
  | p :: ps, c :: r => p.fits c && fitsName ps r

/-! ## Patterns for paths -/

/-- A part of a pattern. -/
inductive PatternPart
  | directories
  /-- Two dots, or a name without anything that stands for something else. -/
  | exactly (name : String)
  | name (pieces : List Piece)
deriving Repr, BEq, DecidableEq

/-- Two stars stand in the text. -/
def hasTwoStars : List Char → Bool
  | '*' :: '*' :: _ => true
  | _ :: r => hasTwoStars r
  | [] => false

/-- The character stands, or may stand, for something else. -/
def isWild (c : Char) : Bool := c == '*' || c == '?' || c == '['

/-- The part that a text writes; two stars stand alone or not at all. -/
def patternPart? (cs : List Char) : Option PatternPart :=
  if cs = ['*', '*'] then some .directories
  else if hasTwoStars cs then none
  else if cs.any isWild then some (.name (pieces cs))
  else some (.exactly (String.ofList cs))

/-- The parts of a pattern.  A slash at the end asks for directories. -/
def patternParts? (pattern : String) : Option (List PatternPart) :=
  let parts := splitAt '/' pattern.toList
  ((parts.filter Path.isPart).mapM patternPart?).map fun ps =>
    if parts.getLast? == some [] then ps ++ [.directories] else ps

/-! ## What patterns select -/

/-- A place, with the names by which a pattern led there from the root. -/
structure Spot where
  names : List String
  place : List String
deriving Repr, BEq, DecidableEq

/-- The spot further down where names lead that are in the tree. -/
def Spot.down (s : Spot) (names : List String) : Spot := ⟨s.names ++ names, s.place ++ names⟩

/-- The spot that a single name leads to, if there is anything. -/
def Spot.next? (t : FileTree) (s : Spot) (name : String) :
    Except FileTree.Obstacle (Option (Spot × Entry)) :=
  let names := s.names ++ [name]
  let found : Except Refusal (Spot × Entry) := do
    if FileTree.isTooLongPath (Path.mk .root names).text then throw .nameTooLong
    let place ← t.follow s.place [name]
    return (⟨names, place⟩, ← t.entryAt place)
  match found with
  | .ok p => .ok (some p)
  | .error r => if r.isAbsence then .ok none else .error ⟨r, names⟩

/-- What the parts of a pattern select from a directory. -/
def select (t : FileTree) : List PatternPart → Spot → Except FileTree.Obstacle (List Spot)
  | [], s => .ok [s]
  | .exactly name :: ps, s => do
      match ← s.next? t name with
      | some (next, e) => if ps.isEmpty || e == .directory then select t ps next else return []
      | none => return []
  | .name p :: ps, s => do
      let fitting := (t.children s.place).filter fun c =>
        fitsName p c.1.toList && (ps.isEmpty || c.2 == .directory)
      let found ← fitting.mapM fun c => select t ps (s.down [c.1])
      return found.flatten
  | .directories :: ps, s => do
      let found ← ([] :: t.directoriesBelow s.place).mapM fun d => select t ps (s.down d)
      return found.flatten.eraseDups

end QueryTypings.Watch
