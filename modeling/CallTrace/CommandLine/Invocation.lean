/-
# What a command line asks for

The program has four commands. Their options are read alike, and an option that
is absent leaves its default in place; for the settings of a replay the
environment comes before the default.
-/

import CallTrace.Command.Arguments
import CallTrace.CommandLine.Options

namespace CallTrace

/-- One use of the program. -/
inductive Invocation where
  | replay (args : ReplayArgs)
  | validate (path : String)
  | schema (details : Bool)
  | version
  deriving DecidableEq, Repr

namespace Invocation

/-- A path is any text but the empty one. -/
def isPath (text : String) : Bool :=
  !text.isEmpty

/-- The bound that a text gives. -/
def depth? (text : String) : Option UInt64 :=
  (Numeral.readUInt64 text.toList).toOption

/-- An option whose value is a path. -/
def path (name : String) (letter : Char) : KnownOption :=
  ⟨name, some letter, .value isPath⟩

/-- An option without a value and without a letter. -/
def flag (name : String) : KnownOption :=
  ⟨name, none, .flag⟩

/-- The options that every command knows. -/
def common : List KnownOption :=
  [⟨"verbose", some 'v', .flag⟩, ⟨"help", some 'h', .request .help⟩]

/-- The options that may stand before a command. -/
def leading : List KnownOption :=
  ⟨"version", some 'V', .request .version⟩ :: common

/-- The options of a replay. -/
def replayOptions : List KnownOption :=
  [path "input" 'i', path "output" 'o', path "config" 'c',
    ⟨"max-depth", none, .value fun text => (depth? text).isSome⟩,
    flag "no-function-trace", flag "no-tags", flag "summary"] ++ common

/-- The names of the commands, the one for help included. -/
def commands : List String :=
  ["replay", "validate", "schema", "version", "help"]

/-- A file of records named without a directory is put into one of its own. -/
def storePath (output : String) : String :=
  match Path.parent? output with
  | none | some "" => Path.join "artifacts" output
  | some _ => output

/-- The settings file of a replay: the one asked for, or else the environment's. -/
def configPath (environment option : Option String) : Except Halt (Option String) :=
  match option, environment with
  | some path, _ => .ok (some path)
  | none, some path => if isPath path then .ok (some path) else .error .misuse
  | none, none => .ok none

/-- A replay as the options describe it. -/
def replayOf (environment : Option String) (values : List (String × String)) :
    Except Halt Invocation := do
  let default : ReplayArgs := {}
  let config ← configPath environment (values.lookup "config")
  let some input := values.lookup "input" | throw .misuse
  return .replay
    { input := input
      output := storePath ((values.lookup "output").getD default.output)
      config := config
      maxDepth := (values.lookup "max-depth").bind depth?
      noFunctionTrace := (values.lookup "no-function-trace").isSome
      noTags := (values.lookup "no-tags").isSome
      printSummary := (values.lookup "summary").isSome }

/-- A command with its arguments. -/
def ofCommand (environment : Option String) (arguments : List String) :
    String → Except Halt Invocation
  | "replay" => do replayOf environment (← OptionReader.readAll replayOptions arguments)
  | "validate" => do
    let values ← OptionReader.readAll (path "file" 'f' :: common) arguments
    let some path := values.lookup "file" | throw .misuse
    return .validate path
  | "schema" => do
    let values ← OptionReader.readAll (flag "show" :: common) arguments
    return .schema (values.lookup "show").isSome
  | "version" => do
    let _ ← OptionReader.readAll common arguments
    return .version
  | "help" =>
    match arguments with
    | [] => .error .help
    | [command] => .error (if command ∈ commands then .help else .misuse)
    | _ => .error .misuse
  | _ => .error .misuse

/-- What a command line asks for, given the settings file that the environment
names. -/
def ofArguments (environment : Option String) (arguments : List String) :
    Except Halt Invocation := do
  let (command, rest) ← OptionReader.readCommand leading arguments {}
  ofCommand environment rest command

end Invocation

end CallTrace
