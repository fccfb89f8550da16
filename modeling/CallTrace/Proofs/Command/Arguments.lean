/-
# What is looked for before a replay

The arguments of a replay are looked at twice: beforehand without reading any file, and in the
replay itself, where files are read and opened. The two do not ask the same. Beforehand a path
must lead to a file; in the replay the file must be readable as a recording or as settings, and
a bound on depth is judged only with the settings that it is put into. But nothing is refused
beforehand that would do: a replay that comes to a summary has found every file where it was
looked for, and one whose arguments are refused comes to nothing and leaves all files as they
were.
-/

import CallTrace.Proofs.Command.Replay

namespace CallTrace

namespace FileTree

variable {tree : FileTree} {path : String} {bytes : List UInt8}

/-- What can be read is a file, or the zeros of the device without room. -/
theorem isFile_of_read (read : tree.read path = .ok bytes) (something : bytes ≠ [0]) :
    tree.isFile path = true := by
  rw [FileTree.read] at read
  rw [isFile, find?]
  cases found : tree.resolve path with
  | error fault => simp [found] at read
  | ok target =>
      cases target with
      | vacant location => simp [found] at read
      | existing location node =>
          cases node with
          | directory => simp [found] at read
          | file contents => rfl
          | fullDevice => simp [found, something.symm] at read

theorem isFile_empty : tree.isFile "" = false := rfl

end FileTree

/-- Settings are loaded from files. -/
theorem TraceConfig.isFile_of_loadAt {tree : FileTree} {path : String} {config : TraceConfig}
    (loaded : loadAt tree path = .ok config) : tree.isFile path = true := by
  rw [loadAt] at loaded
  cases read : tree.read path with
  | error fault =>
      rw [read] at loaded
      cases loaded
  | ok bytes =>
      apply FileTree.isFile_of_read read
      rintro rfl
      rw [read] at loaded
      have zero : load (some [0]) = .error .notToml := rfl
      exact absurd (zero.symm.trans loaded) (by simp)

/-- Recordings are loaded from files. -/
theorem Recording.isFile_of_loadAt {tree : FileTree} {path : String} {recording : Recording}
    (loaded : loadAt tree path = .ok recording) : tree.isFile path = true := by
  rw [loadAt] at loaded
  cases read : tree.read path with
  | error fault =>
      rw [read] at loaded
      cases fault <;> cases loaded
  | ok bytes =>
      apply FileTree.isFile_of_read read
      rintro rfl
      rw [read] at loaded
      have zero : ofBytes [0] = .error .notRecording := rfl
      exact absurd (zero.symm.trans loaded) (by simp)

/-- A bound on depth that can be worked with. -/
theorem TraceConfig.validate_eq_ok_iff {config : TraceConfig} :
    config.validate = .ok () ↔ config.maxDepth ≠ 0 ∧ config.maxDepth ≤ maxDepthLimit := by
  rw [validate]
  split_ifs with zero large
  · simp [zero]
  · simp [UInt64.not_le.mpr large]
  · simp [zero, UInt64.not_lt.mp large]

namespace ReplayArgs

/-- Arguments in which there is nothing wrong, as far as one can tell without reading a file. -/
structure Sound (args : ReplayArgs) (tree : FileTree) : Prop where
  input : tree.isFile args.input = true
  output : args.output ≠ ""
  notDirectory : tree.isDirectory args.output = false
  depth {bound : UInt64} (given : args.maxDepth = some bound) :
    bound ≠ 0 ∧ bound ≤ TraceConfig.maxDepthLimit
  config {path : String} (given : args.config = some path) : tree.isFile path = true

variable {args : ReplayArgs} {tree : FileTree}

/-- The check passes if nothing is wrong. -/
theorem check_eq_ok_iff : args.check tree = .ok () ↔ args.Sound tree := by
  constructor
  · intro passed
    rw [check] at passed
    split_ifs at passed with named found output directory zero large
    constructor
    case input => simpa using found
    case output => simpa using output
    case notDirectory => simpa using directory
    case depth =>
      intro bound given
      rw [given, Option.any_some, decide_eq_true_eq] at large
      exact ⟨fun isZero => zero (given.trans (congrArg some isZero)), UInt64.not_lt.mp large⟩
    case config =>
      intro path given
      rw [given] at passed
      by_cases file : tree.isFile path
      · exact file
      · simp [file] at passed
  · rintro ⟨input, output, notDirectory, depth, config⟩
    have named : args.input.isEmpty = false := by
      rw [← Bool.not_eq_true, String.isEmpty_iff]
      intro empty
      rw [empty, FileTree.isFile_empty] at input
      cases input
    have given : args.output.isEmpty = false := by
      rw [← Bool.not_eq_true, String.isEmpty_iff]
      exact output
    have zero : args.maxDepth ≠ some 0 := fun given => (depth given).1 rfl
    have large : args.maxDepth.any (TraceConfig.maxDepthLimit < ·) = false := by
      rw [Option.any_eq_false]
      intro bound given
      simpa using (depth given).2
    rw [check]
    simp only [named, input, given, notDirectory, zero, large, if_false, Bool.false_eq_true,
      Bool.not_true]
    cases settings : args.config with
    | none => rfl
    | some path => exact if_pos (config settings)

/-- Settings that are resolved come from a file or are the default ones, and with what the
arguments override in them they can be worked with. -/
theorem of_resolveConfig {config : TraceConfig} (resolved : args.resolveConfig tree = .ok config) :
    (∀ path, args.config = some path → tree.isFile path = true) ∧
      ∃ base, args.override base = config ∧ config.validate = .ok () := by
  have valid {base : TraceConfig}
      (rest : (do
        let config := args.override base
        config.validate.mapError ReplayError.invalidConfig
        return config) = .ok config) :
      ∃ base, args.override base = config ∧ config.validate = .ok () := by
    cases judged : (args.override base).validate with
    | error cause =>
        simp only [judged] at rest
        cases rest
    | ok _ =>
        simp only [judged] at rest
        obtain rfl := Except.ok.inj rest
        exact ⟨base, rfl, judged⟩
  rw [resolveConfig] at resolved
  cases given : args.config with
  | none =>
      rw [given] at resolved
      exact ⟨by simp, valid resolved⟩
  | some path =>
      cases loaded : TraceConfig.loadAt tree path with
      | error cause =>
          simp only [given, loaded] at resolved
          cases resolved
      | ok base =>
          simp only [given, loaded] at resolved
          refine ⟨?_, valid resolved⟩
          rintro path ⟨⟩
          exact TraceConfig.isFile_of_loadAt loaded

/-- A replay that has its settings and its recording has found their files, and its bound on
depth is one that can be worked with. -/
theorem of_load {config : TraceConfig} {recording : Recording}
    (loaded : args.load tree = .ok (config, recording)) :
    tree.isFile args.input = true ∧
      (∀ bound, args.maxDepth = some bound → bound ≠ 0 ∧ bound ≤ TraceConfig.maxDepthLimit) ∧
      ∀ path, args.config = some path → tree.isFile path = true := by
  rw [load] at loaded
  cases settings : args.resolveConfig tree with
  | error cause =>
      rw [settings] at loaded
      cases loaded
  | ok found =>
      cases decoded : Recording.loadAt tree args.input with
      | error cause =>
          rw [settings, decoded] at loaded
          cases loaded
      | ok _ =>
          obtain ⟨file, base, rfl, valid⟩ := of_resolveConfig settings
          refine ⟨Recording.isFile_of_loadAt decoded, ?_, file⟩
          intro bound given
          rw [TraceConfig.validate_eq_ok_iff] at valid
          -- A bound among the arguments takes the place of the one in the settings.
          have replaced : (args.override base).maxDepth = bound := by
            rw [override, given]
            rfl
          rwa [replaced] at valid

/-- Where something is wrong with the arguments, the replay fails before it writes anything. -/
theorem run_of_not_sound (disk : Disk) (clock : Clock) (unsound : ¬ args.Sound tree) :
    ∃ cause, args.run disk clock tree = (.error cause, tree) := by
  rw [run]
  cases loaded : args.load tree with
  | error cause => exact ⟨cause, rfl⟩
  | ok found =>
      obtain ⟨config, recording⟩ := found
      obtain ⟨input, depth, settings⟩ := of_load loaded
      -- All that can still be wrong is the path of the store.
      have refused : ∃ cause, LineStore.checkPath tree args.output = .error cause := by
        rw [LineStore.checkPath]
        split_ifs with empty directory
        · exact ⟨_, rfl⟩
        · exact ⟨_, rfl⟩
        · refine absurd ⟨input, ?_, ?_, depth _, settings _⟩ unsound
          · simpa using empty
          · simpa using directory
      obtain ⟨cause, refused⟩ := refused
      have opens : LineStore.openAt tree args.output = (.error cause, tree) := by
        rw [LineStore.openAt, refused]
      exact ⟨.store args.output cause, by simp only [opens]⟩

/-- The check refuses no arguments that would do. If a replay comes to a summary, then the check
of its arguments on the same files passes. If the check refuses the arguments, then the replay
fails, and leaves the files as they were. -/
theorem check_refuses_only_failing_runs (disk : Disk) (clock : Clock) (args : ReplayArgs)
    (tree : FileTree) :
    (∀ summary after, args.run disk clock tree = (.ok summary, after) →
      args.check tree = .ok ()) ∧
      ∀ fault, args.check tree = .error fault →
        ∃ cause, args.run disk clock tree = (.error cause, tree) := by
  constructor
  · intro summary after done
    rw [check_eq_ok_iff]
    by_contra unsound
    obtain ⟨cause, failed⟩ := run_of_not_sound disk clock unsound
    rw [failed] at done
    cases done
  · intro fault refused
    apply run_of_not_sound
    rw [← check_eq_ok_iff, refused]
    simp

/-- A replay of an empty list, which is a recording of no transactions, with a file of settings
that has nothing but a comment, with a bound on depth as large as can be, and with a store in a
directory that is yet to be made. Its arguments pass the check. With a directory in the place of
the store they do not, and the replay fails. -/
theorem passes_beside_missing_directory :
    let tree : FileTree :=
      ⟨[(["run.json"], .file [0x5b, 0x5d]), (["trace.toml"], .file [0x23]),
        (["old"], .directory)], []⟩
    let args : ReplayArgs :=
      { input := "run.json", output := "out/traces.jsonl", config := some "trace.toml",
        maxDepth := some 65536 }
    let clock : Clock := fun _ => "now"
    (∃ summary after, args.run .ample clock tree = (.ok summary, after) ∧
        args.check tree = .ok ()) ∧
      { args with output := "old" }.check tree = .error (.outputIsDirectory "old") ∧
      ∃ cause, { args with output := "old" }.run .ample clock tree = (.error cause, tree) := by
  intro tree args clock
  have settings : args.resolveConfig tree = .ok { maxDepth := 65536 } := rfl
  have decoded : Recording.loadAt tree args.input = .ok ⟨[]⟩ := by
    have file : tree.read args.input = .ok [0x5b, 0x5d] := by
      dsimp only [tree, args]
      rfl
    rw [Recording.loadAt, file]
    rfl
  have refused : { args with output := "old" }.check tree =
      .error (.outputIsDirectory "old") := by
    dsimp only [tree, args]
    rfl
  have opens :
      let opened : FileTree :=
        ⟨[(["run.json"], .file [0x5b, 0x5d]), (["trace.toml"], .file [0x23]),
          (["old"], .directory), (["out"], .directory), (["out", "traces.jsonl"], .file [])], []⟩
      LineStore.openAt tree args.output =
        (.ok ⟨"out/traces.jsonl", .new ⟨opened, ["out", "traces.jsonl"], .ample⟩, 0⟩, opened) := by
    dsimp only [tree, args]
    rfl
  obtain ⟨passes, -⟩ := check_refuses_only_failing_runs .ample clock args tree
  obtain ⟨-, fails⟩ :=
    check_refuses_only_failing_runs .ample clock { args with output := "old" } tree
  have done := run_eq .ample clock settings decoded opens
  exact ⟨⟨_, _, done, passes _ _ done⟩, refused, fails _ refused⟩

end ReplayArgs

end CallTrace
