/-
# Replaying a recording into a file of records

The settings are taken first, then the recording, and only then is the file of
records opened. A replay that fails has therefore written nothing; at most it has
made the directory for the file it could not open. Once the file is open, the replay
goes on to the end whether or not the disk takes the records.
-/

import CallTrace.Command.Arguments
import CallTrace.Config.Settings
import CallTrace.Replay.Summary
import CallTrace.Store.Lines
import CallTrace.Wire.Recording

namespace CallTrace

/-- Why there was no replay. -/
inductive ReplayError where
  /-- The file of settings is of no use. -/
  | config (path : String) (cause : ConfigError)
  /-- The settings, with what the arguments override in them, cannot be worked with. -/
  | invalidConfig (cause : ConfigError)
  | recording (path : String) (cause : RecordingError)
  | store (path : String) (cause : StoreError)
  deriving DecidableEq, Repr

namespace ReplayError

/-- What was being done when the replay failed. -/
def message : ReplayError → String
  | .config path _ => "Failed to load config " ++ path
  | .invalidConfig _ => "Invalid trace configuration"
  | .recording path _ => "Failed to load recording " ++ path
  | .store path _ => "Failed to open trace store " ++ path

/-- The text of the cause. -/
def causeMessage : ReplayError → String
  | .config _ cause | .invalidConfig cause => cause.message
  | .recording _ cause => cause.message
  | .store _ cause => cause.message

end ReplayError

namespace TraceConfig

/-- Loads the settings in the file at a path. -/
def loadAt (tree : FileTree) (path : String) : Except ConfigError TraceConfig :=
  load (tree.read path).toOption

end TraceConfig

namespace Recording

/-- Loads the recording in the file at a path. A directory can be opened like a
file, but what it holds is no recording. -/
def loadAt (tree : FileTree) (path : String) : Except RecordingError Recording :=
  match tree.read path with
  | .ok bytes => ofBytes bytes
  | .error .isDirectory => .error .notRecording
  | .error _ => .error .unreadable

end Recording

namespace ReplayArgs

/-- The settings that a replay works with. -/
def resolveConfig (tree : FileTree) (args : ReplayArgs) : Except ReplayError TraceConfig := do
  let config ← match args.config with
    | none => pure {}
    | some path => (TraceConfig.loadAt tree path).mapError (.config path)
  let config := args.override config
  config.validate.mapError .invalidConfig
  return config

/-- The settings and the recording of a replay. -/
def load (tree : FileTree) (args : ReplayArgs) :
    Except ReplayError (TraceConfig × Recording) := do
  let config ← args.resolveConfig tree
  let recording ← (Recording.loadAt tree args.input).mapError (.recording args.input)
  return (config, recording)

/-- Runs a replay on a disk and by a clock. The tree is the one after it, whatever came
of it. -/
def run (disk : Disk) (clock : Clock) (args : ReplayArgs) (tree : FileTree) :
    Except ReplayError ReplaySummary × FileTree :=
  match args.load tree with
  | .error fault => (.error fault, tree)
  | .ok (config, recording) =>
    match LineStore.openAt tree args.output with
    | (.error cause, tree) => (.error (.store args.output cause), tree)
    | (.ok store, _) =>
      let (summary, tracer) := Replay.recording clock recording (.new config (store.on disk))
      (.ok summary, tracer.store.close)

/-- What a replay prints when it is done. -/
def report (color : Bool) (args : ReplayArgs) (summary : ReplaySummary) : String :=
  if args.printSummary then summary.render color ++ "\n" else ""

end ReplayArgs

end CallTrace
