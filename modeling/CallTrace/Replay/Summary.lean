/-
# The summary of a replay, for people

A line for every transaction, counts of what the events meant, and a verdict. In
colour the heading and the verdict stand out, and the mark of a transaction shows
by its colour what became of it.
-/

import CallTrace.Replay

namespace CallTrace.ReplaySummary

/-- How a text stands out. -/
inductive Style where
  | bold
  | red
  | green
  | yellow
  | boldRed
  | boldGreen
  | boldYellow
  deriving DecidableEq, Repr

/-- The terminal's code for a style. -/
def Style.code : Style → String
  | .bold => "1"
  | .red => "31"
  | .green => "32"
  | .yellow => "33"
  | .boldRed => "1;31"
  | .boldGreen => "1;32"
  | .boldYellow => "1;33"

/-- A text in a style, or as it is where colour is not wanted. -/
def styled (color : Bool) (style : Style) (text : String) : String :=
  if color then "\x1b[" ++ style.code ++ "m" ++ text ++ "\x1b[0m" else text

/-- A number in running text. -/
def number (n : Nat) : String :=
  String.ofList (Numeral.decimal n)

/-- A number at the right end of four columns, or of as many as it needs. -/
def column (n : Nat) : String :=
  let digits := Numeral.decimal n
  String.ofList (List.replicate (4 - digits.length) ' ' ++ digits)

/-- A line across the page. -/
def rule : String :=
  "---------------------------------------------------\n"

/-- The heading, with the counts of transactions. -/
def heading (color : Bool) (summary : ReplaySummary) : String :=
  "\n" ++ styled color .bold "Trace Replay Summary" ++ "\n" ++ rule ++
    "Transactions: " ++ number summary.transactions ++ "\n" ++
    "Stored:       " ++ number summary.stored ++ "\n" ++ rule ++ "\n"

/-- The mark of a transaction. -/
def mark (color : Bool) (outcome : TxOutcome) : String :=
  if !outcome.stored then styled color .red "✗"
  else if outcome.complete then styled color .green "✓"
  else styled color .yellow "!"

/-- The line of a transaction. -/
def line (color : Bool) (outcome : TxOutcome) : String :=
  mark color outcome ++ " " ++ outcome.hash ++ "  calls " ++ column outcome.calls ++
    "  events " ++ column outcome.events ++ "  transfers " ++ column outcome.transfers ++
    (if outcome.dropped = 0 then ""
      else styled color .yellow ("  (" ++ number outcome.dropped ++ " dropped)")) ++ "\n"

/-- How often each meaning occurred. -/
def meanings (tally : Tally) : String :=
  "\nClassified events:\n" ++
    "  ERC20 transfers:  " ++ number tally.erc20Transfers ++ "\n" ++
    "  ERC721 transfers: " ++ number tally.erc721Transfers ++ "\n" ++
    "  Approvals:        " ++ number tally.approvals ++ "\n" ++
    "  Native transfers: " ++ number tally.nativeTransfers ++ "\n" ++
    "  Unclassified:     " ++ number tally.unclassified ++ "\n"

/-- The verdict: records lost weigh more than records cut short. -/
def verdict (color : Bool) (summary : ReplaySummary) : String :=
  let lost := summary.transactions - summary.stored
  let text :=
    if lost ≠ 0 then
      styled color .boldRed (number lost ++ " record(s) could not be stored")
    else if summary.incomplete ≠ 0 then
      styled color .boldYellow (number summary.incomplete ++ " trace(s) incomplete (depth bound)")
    else styled color .boldGreen "All traces complete"
  "\nStatus: " ++ text ++ "\n"

/-- The whole summary. -/
def render (color : Bool) (summary : ReplaySummary) : String :=
  heading color summary ++ String.join (summary.outcomes.map (line color)) ++
    meanings summary.tally ++ verdict color summary

end CallTrace.ReplaySummary
