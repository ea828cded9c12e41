import EdgeFleet.Text.Quoted

/-!
# Status of remote calls

A node answers a call with a message or with a status: a code from a fixed list, and a text.
-/

namespace EdgeFleet

/-- The codes of a status. -/
inductive RpcCode where
  | ok
  | cancelled
  | unknown
  | invalidArgument
  | deadlineExceeded
  | notFound
  | alreadyExists
  | permissionDenied
  | resourceExhausted
  | failedPrecondition
  | aborted
  | outOfRange
  | unimplemented
  | internal
  | unavailable
  | dataLoss
  | unauthenticated
  deriving Repr, DecidableEq, Inhabited

namespace RpcCode

/-- All codes, in the order of their numbers. -/
def all : List RpcCode := [
  .ok, .cancelled, .unknown, .invalidArgument, .deadlineExceeded, .notFound, .alreadyExists,
  .permissionDenied, .resourceExhausted, .failedPrecondition, .aborted, .outOfRange,
  .unimplemented, .internal, .unavailable, .dataLoss, .unauthenticated]

/-- The code with a given number; a number without a meaning is `unknown`. -/
def ofNumber : Int → RpcCode
  | .ofNat number => all[number]?.getD .unknown
  | .negSucc _ => .unknown

/-- The name of a code. -/
def name : RpcCode → String
  | .ok => "Ok"
  | .cancelled => "Cancelled"
  | .unknown => "Unknown"
  | .invalidArgument => "InvalidArgument"
  | .deadlineExceeded => "DeadlineExceeded"
  | .notFound => "NotFound"
  | .alreadyExists => "AlreadyExists"
  | .permissionDenied => "PermissionDenied"
  | .resourceExhausted => "ResourceExhausted"
  | .failedPrecondition => "FailedPrecondition"
  | .aborted => "Aborted"
  | .outOfRange => "OutOfRange"
  | .unimplemented => "Unimplemented"
  | .internal => "Internal"
  | .unavailable => "Unavailable"
  | .dataLoss => "DataLoss"
  | .unauthenticated => "Unauthenticated"

end RpcCode

/-- What a node says of a call that it did not carry out. -/
structure RpcStatus where
  code : RpcCode
  text : String
  deriving Repr, DecidableEq

/-- The words for a status. -/
def RpcStatus.message (status : RpcStatus) : String :=
  "status: " ++ status.code.name ++ ", message: " ++ Text.quoted status.text

end EdgeFleet
