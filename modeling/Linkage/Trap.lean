/-!
Why running code stops before its end. A trap raised by a host function carries the host's own
message; the others are the machine's.
-/

namespace Linkage

inductive Trap where
  | unreachable
  | divideByZero
  | integerOverflow
  | invalidConversion
  | memoryOutOfBounds
  | tableOutOfBounds
  | uninitializedElement
  | signatureMismatch
  | stackExhausted
  | host (message : String)
  /-- Code that is not valid; the code of a valid module never stops here. -/
  | malformed
  deriving DecidableEq, Repr

namespace Trap

def message : Trap → String
  | .unreachable => "unreachable"
  | .divideByZero => "integer divide by zero"
  | .integerOverflow => "integer overflow"
  | .invalidConversion => "invalid conversion to integer"
  | .memoryOutOfBounds => "out of bounds memory access"
  | .tableOutOfBounds => "undefined element: out of bounds table access"
  | .uninitializedElement => "uninitialized element"
  | .signatureMismatch => "indirect call type mismatch"
  | .stackExhausted => "call stack exhausted"
  | .host message => message
  | .malformed => "invalid code"

def errorText (trap : Trap) : String :=
  "RuntimeError: " ++ trap.message

end Trap

end Linkage
