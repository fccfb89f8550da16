/-
# What a replay is asked to do

The arguments of a replay name files that may not be there. Whatever can be found
wrong without reading a file is looked for first and in a fixed order, so that of
several faults always the same one is reported.
-/

import CallTrace.Config
import CallTrace.File.Tree
import CallTrace.Numeral

namespace CallTrace

/-- The arguments of a replay. -/
structure ReplayArgs where
  /-- The recording to play back. -/
  input : String := ""
  /-- The file of records to write at the end of. -/
  output : String := "artifacts/traces.jsonl"
  /-- A file of settings to begin with. -/
  config : Option String := none
  /-- A bound on depth that overrides the one in the settings. -/
  maxDepth : Option UInt64 := none
  noFunctionTrace : Bool := false
  noTags : Bool := false
  printSummary : Bool := false
  deriving DecidableEq, Repr, Inhabited

/-- What is wrong with the arguments of a replay. -/
inductive ArgumentFault where
  | emptyInput
  | inputNotFound (path : String)
  | emptyOutput
  | outputIsDirectory (path : String)
  | zeroDepth
  | depthTooLarge
  | configNotFound (path : String)
  deriving DecidableEq, Repr

namespace ArgumentFault

def message : ArgumentFault → String
  | .emptyInput => "Input recording path cannot be empty"
  | .inputNotFound path => "Input recording not found: " ++ path
  | .emptyOutput => "Output store path cannot be empty"
  | .outputIsDirectory path => "Output store path is a directory: " ++ path
  | .zeroDepth => "max_depth must be greater than 0"
  | .depthTooLarge =>
    "max_depth must be at most " ++
      String.ofList (Numeral.decimal TraceConfig.maxDepthLimit.toNat)
  | .configNotFound path => "Config file not found: " ++ path

end ArgumentFault

namespace ReplayArgs

/-- Looks for a fault in the arguments without reading any file. -/
def check (tree : FileTree) (args : ReplayArgs) : Except ArgumentFault Unit :=
  if args.input.isEmpty then .error .emptyInput
  else if !tree.isFile args.input then .error (.inputNotFound args.input)
  else if args.output.isEmpty then .error .emptyOutput
  else if tree.isDirectory args.output then .error (.outputIsDirectory args.output)
  else if args.maxDepth = some 0 then .error .zeroDepth
  else if args.maxDepth.any (TraceConfig.maxDepthLimit < ·) then .error .depthTooLarge
  else
    match args.config with
    | none => .ok ()
    | some path => if tree.isFile path then .ok () else .error (.configNotFound path)

/-- Settings with what the arguments override in them. -/
def override (args : ReplayArgs) (config : TraceConfig) : TraceConfig where
  maxDepth := args.maxDepth.getD config.maxDepth
  output :=
    { functionTrace := config.output.functionTrace && !args.noFunctionTrace
      classificationTags := config.output.classificationTags && !args.noTags }

end ReplayArgs

end CallTrace
