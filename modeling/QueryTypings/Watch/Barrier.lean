/-
  Waiting for the first pass over the query files.

  The wait ends when the pass is reported complete or when its time is over, whichever comes first.
  A wait without any time is over before it begins.  Time is measured in seconds, as a binary64
  number, so a wait may be too long to be measured; then it does not begin.
-/
import QueryTypings.Binary64

namespace QueryTypings.Watch

/-- Why a wait ends without the first pass. -/
inductive WaitFault
  /-- The first pass was not reported complete in time. -/
  | late
  /-- There are too many seconds. -/
  | immeasurable
deriving Repr, BEq, DecidableEq

/-- The wording. -/
def WaitFault.message : WaitFault → String
  | .late => "Timed out waiting for initial GraphQL type generation"
  | .immeasurable => "integer division result too large for a float"

/-- So many milliseconds can be measured in seconds. -/
def isMeasurable (timeoutMs : Int) : Bool := (Binary64.nearest? timeoutMs.natAbs 1000).isSome

/-- Waits for the first pass, which is either complete already or stays incomplete. -/
def awaitFirstPass (complete : Bool) (timeoutMs : Int) : Except WaitFault Unit :=
  if !isMeasurable timeoutMs then .error .immeasurable
  else if complete && 0 < timeoutMs then .ok ()
  else .error .late

end QueryTypings.Watch
