/-
# Trace records

When a transaction ends, its three traces are joined with what the engine knows
about the transaction as a whole. The resulting record is what a store keeps,
under the hash of the transaction.
-/

import CallTrace.Bytes.Fixed

namespace CallTrace

/-- What the engine reports about a transaction at its end. A transaction that
creates a contract has no receiver. Value and price are decimal texts and are
passed on as they come. -/
structure TxMetadata where
  block : UInt64
  hash : Hash
  sender : Address
  receiver : Option Address
  value : String
  gasPrice : String
  gasUsed : UInt64
  deriving DecidableEq, Inhabited

/-- The three traces of a transaction as texts, and whether nothing was dropped
from them. -/
structure FinalizedTrace where
  functionTrace : String
  eventTrace : String
  transferTrace : String
  complete : Bool
  deriving DecidableEq, Inhabited

/-- A trace as it is stored. -/
structure TraceRecord where
  version : String
  metadata : TxMetadata
  functionTrace : String
  eventTrace : String
  transferTrace : String
  complete : Bool
  recordedAt : String
  deriving DecidableEq, Inhabited

namespace TraceRecord

/-- The version of the record format written by this library. -/
def schemaVersion : String := "1.0.0"

/-- Joins the metadata and the traces of a transaction at a point in time. -/
def build (metadata : TxMetadata) (trace : FinalizedTrace) (now : String) : TraceRecord where
  version := schemaVersion
  metadata := metadata
  functionTrace := trace.functionTrace
  eventTrace := trace.eventTrace
  transferTrace := trace.transferTrace
  complete := trace.complete
  recordedAt := now

/-- The key under which a store keeps the record. -/
def key (record : TraceRecord) : String :=
  String.ofList record.metadata.hash.toHex

end TraceRecord

end CallTrace
