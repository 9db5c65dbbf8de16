/-
  Character classes given as data.

  A class of characters that no short rule describes is a list of closed intervals of code points.
  `inRanges` asks for membership.  The tables themselves stand in the modules named for the class.
-/

namespace QueryTypings.Text

/-- The code point lies in one of the closed intervals. -/
def inRanges (table : List (Nat × Nat)) (n : Nat) : Bool :=
  table.any fun r => Nat.ble r.1 n && Nat.ble n r.2

end QueryTypings.Text
