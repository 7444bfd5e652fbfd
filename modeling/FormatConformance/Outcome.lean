import FormatConformance.Text.ByteEscape

/-!
# Outcomes

What one formatter makes of one case: a payload of bytes, or a rejection with a reason. Reasons are
shown but never compared.
-/

namespace FormatConformance

/-- The outcome of one call. -/
inductive Outcome
  | success (payload : Bytes)
  | failure (reason : String)
  deriving DecidableEq, Repr

namespace Outcome

/-- Whether the call rendered something. -/
def isSuccess : Outcome → Bool
  | success _ => true
  | failure _ => false

/-- Whether the call was rejected. -/
def isFailure (o : Outcome) : Bool :=
  !o.isSuccess

/-- The rendered bytes. -/
def payload? : Outcome → Option Bytes
  | success payload => some payload
  | failure _ => none

/-- The reason of a rejection. -/
def reason? : Outcome → Option String
  | success _ => none
  | failure reason => some reason

/-- The outcome on one line. -/
def text : Outcome → String
  | success payload => "Success(\"" ++ String.ofList (Text.ByteEscape.escape payload) ++ "\")"
  | failure reason => "Failure(" ++ reason ++ ")"

/-- An outcome as it stands in logs and reports. The fields are texts, since a record may also
have been read from a file. -/
structure Record where
  status : String
  payload : Option String
  reason : Option String
  deriving DecidableEq, Repr

/-- The record of an outcome, its payload in printable ASCII. -/
def record : Outcome → Record
  | success payload => ⟨"success", some (String.ofList (Text.ByteEscape.escape payload)), none⟩
  | failure reason => ⟨"failure", none, some reason⟩

end Outcome

end FormatConformance
