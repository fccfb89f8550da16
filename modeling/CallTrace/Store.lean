/-
# Stores

A store takes in one record at a time, and may refuse it. It is told of a record
once; whether and how to try again is up to whoever offers it.
-/

import CallTrace.Record
import CallTrace.Store.Error

namespace CallTrace

/-- A kind of store: what becomes of a record, and of the store. -/
class TraceStore (σ : Type) where
  put : TraceRecord → σ → Except StoreError Unit × σ

end CallTrace
