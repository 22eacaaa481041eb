/-
# Status

Every fallible operation of the server returns a `Status`: a code and a text.
Here a call that returns `Status::ok()` together with its out-parameters is
`Except.ok` of those values, and every other status is an `Error`. The code `Ok`
therefore has no counterpart among the error codes: an error whose code is `Ok`
cannot be written down.
-/

import Mathlib.Init

namespace LiteIM

/-- The codes of `ErrorCode` other than `Ok`. -/
inductive ErrorCode where
  | invalidArgument
  | notFound
  | alreadyExists
  | ioError
  | parseError
  | configError
  | internalError
  | resourceExhausted
  deriving DecidableEq, Repr

namespace ErrorCode

/-- The enumerator as a number; `Ok` is 0. -/
def toUInt64 : ErrorCode → UInt64
  | invalidArgument => 1
  | notFound => 2
  | alreadyExists => 3
  | ioError => 4
  | parseError => 5
  | configError => 6
  | internalError => 7
  | resourceExhausted => 8

def toString : ErrorCode → String
  | invalidArgument => "InvalidArgument"
  | notFound => "NotFound"
  | alreadyExists => "AlreadyExists"
  | ioError => "IoError"
  | parseError => "ParseError"
  | configError => "ConfigError"
  | internalError => "InternalError"
  | resourceExhausted => "ResourceExhausted"

end ErrorCode

/-- A status that is not OK. -/
structure Error where
  code : ErrorCode
  message : String
  deriving DecidableEq, Repr

/-- `Status::error` for an operation that would otherwise return a value. -/
def Status.error {α : Type} (code : ErrorCode) (message : String) : Except Error α :=
  .error ⟨code, message⟩

/-- `status.isOk()`. -/
def Status.isOk {α : Type} : Except Error α → Bool
  | .ok _ => true
  | .error _ => false

end LiteIM
