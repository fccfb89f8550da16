/-
# Keeping records in memory

Records are kept in ascending order of their keys, one for each key: a record
replaces an earlier one with the same key.
-/

import CallTrace.Store

namespace CallTrace

/-- Records in ascending order of their keys. -/
structure MemoryStore where
  records : List TraceRecord

namespace MemoryStore

def empty : MemoryStore := ⟨[]⟩

instance : Inhabited MemoryStore := ⟨empty⟩

/-- Puts a record in its place among records in order. -/
def insert (record : TraceRecord) : List TraceRecord → List TraceRecord
  | [] => [record]
  | first :: rest =>
    if record.key < first.key then record :: first :: rest
    else if record.key = first.key then record :: rest
    else first :: insert record rest

/-- The record under a key. -/
def get? (store : MemoryStore) (key : String) : Option TraceRecord :=
  store.records.find? (·.key == key)

def size (store : MemoryStore) : Nat :=
  store.records.length

/-- A store in memory refuses nothing. -/
instance : TraceStore MemoryStore where
  put record store := (.ok (), ⟨insert record store.records⟩)

end MemoryStore

/-- A store in memory that refuses some of the records offered to it, chosen by
their position among all offers. -/
structure GuardedStore where
  /-- The positions, counted from zero, at which an offer is refused. -/
  refused : List Nat
  /-- How many records have been offered. -/
  offers : Nat
  store : MemoryStore

namespace GuardedStore

def new (refused : List Nat) : GuardedStore :=
  ⟨refused, 0, .empty⟩

instance : TraceStore GuardedStore where
  put record guarded :=
    if guarded.refused.contains guarded.offers then
      (.error (.invalidPath .readOnly), { guarded with offers := guarded.offers + 1 })
    else
      let (result, store) := TraceStore.put record guarded.store
      (result, { guarded with offers := guarded.offers + 1, store := store })

end GuardedStore

end CallTrace
