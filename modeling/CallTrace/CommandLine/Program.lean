/-
# The program

A run of the program takes the tree of files as it is and a command line, and
results in what is printed, the tree of files as it is then, and an error if there
was one. What the clock reads and what the disk makes of writes is given by the
caller.
-/

import CallTrace.Command.Information
import CallTrace.Command.Replay
import CallTrace.Command.Validation
import CallTrace.CommandLine.Invocation

namespace CallTrace

/-- Why a command that was understood failed. -/
inductive ProgramError where
  | arguments (fault : ArgumentFault)
  | replay (fault : ReplayError)
  | validation (fault : ValidationError)
  /-- The replay went through, but not all of its records are in the file. -/
  | notStored (lost total : Nat)
  deriving DecidableEq, Repr

namespace ProgramError

def message : ProgramError → String
  | .arguments fault => fault.message
  | .replay fault => fault.message
  | .validation fault => fault.message
  | .notStored lost total =>
    String.ofList (Numeral.decimal lost) ++ " of " ++ String.ofList (Numeral.decimal total) ++
      " records could not be stored"

/-- The text of the cause, where there is one behind the message. -/
def cause? : ProgramError → Option String
  | .replay fault => some fault.causeMessage
  | .validation (.text _ cause) => some cause.message
  | _ => none

end ProgramError

/-- How a run of the program ended. -/
inductive Ending where
  | success
  | failure (error : ProgramError)
  /-- The command line was not understood. -/
  | misuse
  deriving DecidableEq, Repr

namespace Ending

/-- The exit code of the program. -/
def code : Ending → Nat
  | .success => 0
  | .failure _ => 1
  | .misuse => 2

end Ending

/-- A run of the program. -/
structure ProgramRun where
  output : String
  ending : Ending
  tree : FileTree

namespace Program

/-- How the program is used. -/
def usage : String :=
  "Usage: tx-trace [--verbose] <command>\n" ++
    "\n" ++
    "Commands:\n" ++
    "  replay -i <recording> [-o <store>] [-c <config>] [--max-depth <n>]\n" ++
    "         [--no-function-trace] [--no-tags] [--summary]\n" ++
    "  validate -f <store>\n" ++
    "  schema [--show]\n" ++
    "  version\n" ++
    "  help\n"

/-- Runs a replay, and fails if a record was not stored. -/
def replay (color : Bool) (disk : Disk) (clock : Clock) (args : ReplayArgs) (tree : FileTree) :
    ProgramRun :=
  match args.check tree with
  | .error fault => ⟨"", .failure (.arguments fault), tree⟩
  | .ok () =>
    match args.run disk clock tree with
    | (.error fault, tree) => ⟨"", .failure (.replay fault), tree⟩
    | (.ok summary, tree) =>
      let lost := summary.transactions - summary.stored
      ⟨args.report color summary,
        if lost = 0 then .success else .failure (.notStored lost summary.transactions), tree⟩

/-- Does what was asked for. -/
def invoke (color : Bool) (disk : Disk) (clock : Clock) (tree : FileTree) :
    Invocation → ProgramRun
  | .replay args => replay color disk clock args tree
  | .validate path =>
    match StoreReport.transcript tree path with
    | (output, .ok ()) => ⟨output, .success, tree⟩
    | (output, .error fault) => ⟨output, .failure (.validation fault), tree⟩
  | .schema details => ⟨Information.schema details, .success, tree⟩
  | .version => ⟨Information.version, .success, tree⟩

/-- Runs the program. `environment` is the settings file that the environment
names. -/
def run (color : Bool) (disk : Disk) (clock : Clock) (environment : Option String)
    (arguments : List String) (tree : FileTree) : ProgramRun :=
  match Invocation.ofArguments environment arguments with
  | .ok invocation => invoke color disk clock tree invocation
  | .error .help => ⟨usage, .success, tree⟩
  | .error .version => ⟨"tx-trace " ++ Information.programVersion ++ "\n", .success, tree⟩
  | .error .misuse => ⟨"", .misuse, tree⟩

end Program

end CallTrace
