/-
  Rules on fragments and where they are spread.

  Spreads are listed selection set by selection set: first those that stand in a set itself, then
  those of the sets nested in it, the last nested set coming first.  In this order the fragments
  that an operation needs are found, those of one fragment before those of the next, and the way
  round a circle of fragments.
-/
import QueryTypings.Check.Inquiry

namespace QueryTypings.Check

open QueryTypings.Graphql QueryTypings.Schema

/-! ## Spreads in order -/

/-- A spread: the name and the place of the spread itself. -/
structure Spread where
  name : Name
  position : Position
deriving Repr, BEq

/-- The spreads that stand in a selection set itself. -/
def directSpreads (ss : List Selection) : List Spread :=
  ss.filterMap fun
    | .spread n _ p => some ⟨n, p⟩
    | _ => none

mutual

/-- The spreads of the selection set of a selection. -/
def spreadsInside : Selection → List Spread
  | .leaf _ => []
  | .branch _ _ ss => directSpreads ss ++ spreadsBelow ss
  | .inline _ _ _ _ ss => directSpreads ss ++ spreadsBelow ss
  | .spread _ _ _ => []

/-- The spreads of the selection sets below selections, the last set first. -/
def spreadsBelow : List Selection → List Spread
  | [] => []
  | s :: r => spreadsBelow r ++ spreadsInside s

end

/-- All spreads of a selection set. -/
def allSpreads (ss : List Selection) : List Spread := directSpreads ss ++ spreadsBelow ss

/-- Adds the fragments that spreads name for the first time; `seen` are the names so far. -/
def newFragments (q : Inquiry) : List Spread → List String → List Fragment × List String
  | [], seen => ([], seen)
  | s :: r, seen =>
      if seen.contains s.name.text then newFragments q r seen
      else
        let rest := newFragments q r (s.name.text :: seen)
        ((q.fragment? s.name.text).toList ++ rest.1, rest.2)

/-- Works off selection sets in turn.  Every fragment adds its set once, behind the others. -/
def neededFrom (q : Inquiry) : Nat → List (List Selection) → List String → List Fragment
  | 0, _, _ => []
  | _ + 1, [], _ => []
  | n + 1, ss :: pending, seen =>
      let found := newFragments q (allSpreads ss) seen
      found.1 ++ neededFrom q n (pending ++ found.1.map Fragment.selections) found.2

/-- The fragments that a selection set needs, directly or through others. -/
def neededFragments (q : Inquiry) (ss : List Selection) : List Fragment :=
  neededFrom q (q.document.fragments.length + 2) [ss] []

/-! ## Conditions -/

/-- A fragment applies to composite types only. -/
def conditionIssues (q : Inquiry) (fragment : Option String) (condition : Name) : List Issue :=
  match q.schema.type? condition.text with
  | none => []
  | some t =>
      if t.isComposite then [] else [⟨.fragmentOnLeaf fragment t.name, some condition.position⟩]

/-- A fragment is spread where its type is possible. -/
def overlapIssues (q : Inquiry) (p : Place) (fragment : Option String) (condition : String)
    (position : Position) : List Issue :=
  match p.parent, q.composite? condition with
  | some parent, some t =>
      if q.schema.overlap t parent then []
      else [⟨.impossibleSpread fragment parent.name t.name, some position⟩]
  | _, _ => []

/-- The issues of a spread, its directives apart: its fragment is unknown, or impossible here. -/
def spreadIssues (q : Inquiry) (p : Place) (name : Name) (position : Position) : List Issue :=
  match q.fragment? name.text with
  | none => [⟨.unknownFragment name.text, some name.position⟩]
  | some f => overlapIssues q p (some name.text) f.condition.text position

/-- The fragment bears the name of one before it. -/
def secondFragmentIssues (before : List Fragment) (f : Fragment) : List Issue :=
  match before.find? fun g => g.name.text == f.name.text with
  | some g => [⟨.secondFragment f.name.text, some g.name.position⟩]
  | none => []

/-! ## Circles -/

/-- The part of a path of spreads that begins behind the fragment of a given name.  The path has its
    last spread first; a fragment's own name stands with the spread that leads to it. -/
def circle (name : String) (path : List Spread) : List Spread :=
  (path.takeWhile fun s => s.name.text != name).reverse

/-- Follows the spreads of a fragment one after another, deeper ones first.  `path` leads to the
    fragment, `opened` are the fragments on the way, `visited` are all fragments that were followed
    so far.  The fuel bounds the length of the way, on which every fragment stands once. -/
def followFragment (q : Inquiry) (fuel : Nat) (f : Fragment) (path : List Spread)
    (opened visited : List String) : List Issue × List String :=
  match fuel with
  | 0 => ([], visited)
  | fuel + 1 =>
      if visited.contains f.name.text then ([], visited)
      else
        let opened := f.name.text :: opened
        (allSpreads f.selections).foldl (fun (found, visited) s =>
          if opened.contains s.name.text then
            let round := circle s.name.text path
            let start := (round.head?.getD s).position
            (found ++ [⟨.fragmentCycle s.name.text (round.map fun t => t.name.text), some start⟩],
              visited)
          else match q.fragment? s.name.text with
            | some g =>
                let more := followFragment q fuel g (s :: path) opened visited
                (found ++ more.1, more.2)
            | none => (found, visited)) ([], f.name.text :: visited)

/-- The circles that are found from each of some fragments in turn. -/
def circlesFrom (q : Inquiry) (fuel : Nat) : List Fragment → List String → List (List Issue)
  | [], _ => []
  | f :: r, visited =>
      let found := followFragment q fuel f [] [] visited
      found.1 :: circlesFrom q fuel r found.2

/-- The circles of fragments, listed with the fragment of the document from which they are found. -/
def fragmentCircles (q : Inquiry) : List (Position × List Issue) :=
  let fragments := q.document.fragments
  (fragments.map Fragment.position).zip (circlesFrom q (fragments.length + 1) fragments [])

end QueryTypings.Check
