/-
# Why tracing refuses

A step of a transaction is refused when it lies too deep or comes outside a
transaction, and the end of a transaction fails when the store refuses its
record.
-/

import CallTrace.Store.Error

namespace CallTrace

/-- Why a step or the end of a transaction is refused. -/
inductive TraceError where
  | depthExceeded (depth bound : UInt64)
  | sessionClosed
  | storeRejected (key : String) (cause : StoreError)
  deriving DecidableEq, Repr

namespace TraceError

def message : TraceError → String
  | .depthExceeded depth bound =>
    "Call depth " ++ String.ofList (Numeral.decimal depth.toNat) ++
      " exceeds the maximum depth of " ++ String.ofList (Numeral.decimal bound.toNat)
  | .sessionClosed => "Trace session is not active (reset it before accepting calls)"
  | .storeRejected key cause =>
    "Trace store rejected record for transaction " ++ key ++ ": " ++ cause.message

end TraceError

end CallTrace
