/-
# What the program says about itself
-/

import CallTrace.Record

namespace CallTrace.Information

/-- The version of the program. -/
def programVersion : String := "0.1.0"

/-- The versions of the program and of its records. -/
def version : String :=
  "Tx Trace Studio v" ++ programVersion ++ "\n" ++
    "Record Schema: v" ++ TraceRecord.schemaVersion ++ "\n" ++
    "\n" ++
    "Aggregates EVM execution callbacks into function, event and transfer traces.\n"

/-- The fields of a record, one to a line. -/
def fields : String :=
  "Record Structure (one JSON object per line):\n" ++
    "  version: string        - Schema version (e.g., '1.0.0')\n" ++
    "  block: number          - Block number\n" ++
    "  tx: string             - Transaction hash\n" ++
    "  from: string           - Sender address\n" ++
    "  to: string?            - Recipient (null for contract creation)\n" ++
    "  value: string          - Value in wei (decimal)\n" ++
    "  gasprice: string       - Gas price in wei (decimal)\n" ++
    "  gasused: number        - Gas used\n" ++
    "  functrace: string      - Function trace (empty when disabled)\n" ++
    "  eventtrace: string     - Event trace\n" ++
    "  transferlogs: string   - Transfer trace\n" ++
    "  complete: bool         - False if frames were dropped at the depth bound\n" ++
    "  recorded_at: string    - RFC 3339 timestamp\n" ++
    "\n" ++
    "Trace text is a header row plus comma-separated rows; lists render as [a b c].\n"

/-- The schema of records, with all its fields where `details` are wanted. -/
def schema (details : Bool) : String :=
  "Tx Trace Studio Record Schema\n" ++
    "Current Version: " ++ TraceRecord.schemaVersion ++ "\n" ++
    "\n" ++
    if details then fields else "Use --show for detailed schema information\n"

end CallTrace.Information
