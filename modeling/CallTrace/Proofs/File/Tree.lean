/-
# What a change of a tree leaves as it was

Everything that reads a tree looks at it place by place, so two trees differ no more than
their places do. Making directories adds directories at free places; opening a file and
writing to it touches that file alone. A path that led to a file, or to the place of one,
leads there still, since there are only directories on the way to it, and what existed still
exists.
-/

import CallTrace.File.Tree
import Mathlib.Tactic.SplitIfs

namespace CallTrace.FileTree

section Place

variable {tree : FileTree} {location : Location} {node : FileNode}

theorem find?_map_of_any {entries : List (Location × FileNode)}
    (there : entries.any (·.1 == location)) :
    (entries.map fun entry => if entry.1 == location then (location, node) else entry).find?
      (·.1 == location) = some (location, node) := by
  induction entries with
  | nil => exact absurd there (by simp)
  | cons entry entries ih =>
      rw [List.map_cons]
      by_cases here : entry.1 == location
      · rw [if_pos here]
        simp only [List.find?_cons, beq_self_eq_true]
      · rw [List.any_cons, Bool.or_eq_true] at there
        rw [if_neg here, List.find?_cons_of_neg (by simpa using here)]
        exact ih (there.resolve_left here)

theorem find?_map_of_ne {other : Location} (different : other ≠ location)
    (entries : List (Location × FileNode)) :
    (entries.map fun entry => if entry.1 == location then (location, node) else entry).find?
      (·.1 == other) = entries.find? (·.1 == other) := by
  induction entries with
  | nil => rfl
  | cons entry entries ih =>
      rw [List.map_cons]
      by_cases here : entry.1 == location
      · have outside : (location == other) = false := by simpa using Ne.symm different
        have entryOutside : (entry.1 == other) = false := by rwa [beq_iff_eq.mp here]
        rw [if_pos here]
        simp only [List.find?_cons, outside, entryOutside, ih]
      · rw [if_neg here, List.find?_cons, List.find?_cons, ih]

/-- What was put at a place is there, unless it is the root. -/
theorem node?_set (proper : location ≠ []) :
    (tree.set location node).node? location = some node := by
  rw [node?, if_neg (by simpa using proper), set]
  split_ifs with there
  · rw [find?_map_of_any there]
    rfl
  · have absent : tree.entries.find? (·.1 == location) = none := by
      rw [List.find?_eq_none]
      intro entry member same
      exact there (List.any_eq_true.mpr ⟨entry, member, same⟩)
    rw [List.find?_append, absent, Option.none_or]
    simp only [List.find?_cons, beq_self_eq_true, Option.map_some]

/-- At every other place there is what was there before. -/
theorem node?_set_of_ne {other : Location} (different : other ≠ location) :
    (tree.set location node).node? other = tree.node? other := by
  rw [node?, node?, set]
  split_ifs with root there
  · rfl
  · rw [find?_map_of_ne different]
  · have outside : (location == other) = false := by simpa using Ne.symm different
    simp only [List.find?_append, List.find?_cons, outside, List.find?_nil, Option.or_none]

theorem workingDirectory_set :
    (tree.set location node).workingDirectory = tree.workingDirectory := by
  rw [set]
  split_ifs <;> rfl

/-- The root is a directory, so what is no directory is not the root. -/
theorem ne_root_of_node? (there : tree.node? location ≠ some .directory) : location ≠ [] := by
  rintro rfl
  exact there rfl

end Place

/-- A tree has grown by directories at free places and is otherwise as before. -/
structure Grown (tree grown : FileTree) : Prop where
  workingDirectory : grown.workingDirectory = tree.workingDirectory
  node? : ∀ location, grown.node? location = tree.node? location ∨
    tree.node? location = none ∧ grown.node? location = some .directory

namespace Grown

theorem refl (tree : FileTree) : Grown tree tree :=
  ⟨rfl, fun _ => .inl rfl⟩

theorem trans {first second third : FileTree} (before : Grown first second)
    (after : Grown second third) : Grown first third := by
  refine ⟨after.workingDirectory.trans before.workingDirectory, fun location => ?_⟩
  rcases after.node? location with same | ⟨free, made⟩
  · rw [same]
    exact before.node? location
  · rcases before.node? location with same | ⟨-, made⟩
    · exact .inr ⟨same ▸ free, made⟩
    · rw [free] at made
      exact absurd made (by simp)

end Grown

/-- A tree that differs from another by the file at one place. -/
structure Holds (base : FileTree) (location : Location) (contents : List UInt8)
    (tree : FileTree) : Prop where
  workingDirectory : tree.workingDirectory = base.workingDirectory
  there : tree.node? location = some (.file contents)
  elsewhere : ∀ other, other ≠ location → tree.node? other = base.node? other

namespace Holds

variable {base tree : FileTree} {location : Location} {contents : List UInt8}

theorem set (proper : location ≠ []) (contents : List UInt8) :
    Holds base location contents (base.set location (.file contents)) :=
  ⟨workingDirectory_set, node?_set proper, fun _ different => node?_set_of_ne different⟩

theorem refl (there : base.node? location = some (.file contents)) :
    Holds base location contents base :=
  ⟨rfl, there, fun _ _ => rfl⟩

/-- Bytes are taken and stand at the end of the file, and nothing else changes. -/
theorem append (holds : Holds base location contents tree) (bytes : List UInt8) :
    (tree.append location bytes).1 = true ∧
      Holds base location (contents ++ bytes) (tree.append location bytes).2 := by
  have proper : location ≠ [] := ne_root_of_node? (by rw [holds.there]; simp)
  rw [FileTree.append, holds.there]
  refine ⟨rfl, workingDirectory_set.trans holds.workingDirectory, node?_set proper, ?_⟩
  intro other different
  rw [node?_set_of_ne different]
  exact holds.elsewhere other different

end Holds

/-- What the file at a place holds, if there is a file. -/
def file? (tree : FileTree) (location : Location) : Option (List UInt8) :=
  match tree.node? location with
  | some (.file contents) => some contents
  | _ => none

/-- A tree holds nothing that is not one of its entries, apart from the root. -/
theorem node?_of_entries {tree : FileTree} (holds : FileNode → Prop) (root : holds .directory)
    (each : ∀ entry ∈ tree.entries, holds entry.2) {location : Location} {node : FileNode}
    (there : tree.node? location = some node) : holds node := by
  rw [node?] at there
  split_ifs at there
  · rwa [← Option.some_inj.mp there]
  · obtain ⟨entry, found, rfl⟩ := Option.map_eq_some_iff.mp there
    exact each entry (List.mem_of_find?_eq_some found)

/-- Directories that were added leave all files as they are, and add none. -/
theorem Grown.file?_eq {tree grown : FileTree} (growth : Grown tree grown)
    (location : Location) : grown.file? location = tree.file? location := by
  rw [FileTree.file?, FileTree.file?]
  rcases growth.node? location with same | ⟨free, made⟩
  · rw [same]
  · rw [free, made]

section Holds

variable {base tree : FileTree} {location : Location} {contents : List UInt8}
  (holds : Holds base location contents tree)
include holds

theorem Holds.file?_eq : tree.file? location = some contents := by
  rw [FileTree.file?, holds.there]

theorem Holds.file?_of_ne {other : Location} (different : other ≠ location) :
    tree.file? other = base.file? other := by
  rw [FileTree.file?, FileTree.file?, holds.elsewhere other different]

end Holds

/-- The place of a file that is there, or that could be. -/
def Target.file? : Target → Option Location
  | .existing _ .directory => none
  | .existing location _ => some location
  | .vacant location => some location

theorem Target.file?_existing {location : Location} {node : FileNode}
    (noDirectory : node ≠ .directory) : (existing location node).file? = some location := by
  cases node with
  | directory => exact absurd rfl noDirectory
  | file contents => rfl
  | fullDevice => rfl

section Follow

/-- What becomes of a path when it has come to a place, with names to follow from there. -/
def enter (tree : FileTree) (closed : Bool) (next : Location) (rest : List String) :
    Except FileFault Target :=
  match tree.node? next with
  | some .directory => follow tree closed next rest
  | some node =>
    if rest.isEmpty && !closed then .ok (.existing next node) else .error .notDirectory
  | none => if rest.isEmpty then .ok (.vacant next) else .error .notFound

/-- A name leads to a place that does not depend on what there is, or is refused, or leads
on to the place of that name. -/
theorem follow_cases (name : String) :
    (∃ move : Location → Location, ∀ tree closed place rest,
        follow tree closed place (name :: rest) = follow tree closed (move place) rest) ∨
      (∀ tree closed place rest, follow tree closed place (name :: rest) = .error .tooLong) ∨
      ∀ tree closed place rest,
        follow tree closed place (name :: rest) = enter tree closed (place ++ [name]) rest := by
  by_cases dot : name == "."
  · refine .inl ⟨id, fun tree closed place rest => ?_⟩
    rw [follow, if_pos dot]
    rfl
  by_cases dots : name == ".."
  · refine .inl ⟨List.dropLast, fun tree closed place rest => ?_⟩
    rw [follow, if_neg dot, if_pos dots]
  by_cases tooLong : !Path.isName name
  · refine .inr (.inl fun tree closed place rest => ?_)
    rw [follow, if_neg dot, if_neg dots, if_pos tooLong]
  · refine .inr (.inr fun tree closed place rest => ?_)
    rw [follow, if_neg dot, if_neg dots, if_neg tooLong]
    rfl

/-- A path ends at what is no directory, and not if it asks for a directory. -/
theorem enter_existing {tree : FileTree} {next : Location} {node : FileNode}
    (there : tree.node? next = some node) (noDirectory : node ≠ .directory) (closed : Bool)
    (rest : List String) :
    enter tree closed next rest =
      if rest.isEmpty && !closed then .ok (.existing next node) else .error .notDirectory := by
  rw [enter, there]
  cases node with
  | directory => exact absurd rfl noDirectory
  | file contents => rfl
  | fullDevice => rfl

/-- Where a path goes on to, or ends, from the place it has come to. -/
theorem enter_ok {tree : FileTree} {closed : Bool} {next : Location} {rest : List String}
    {target : Target} (leads : enter tree closed next rest = .ok target) :
    (tree.node? next = some .directory ∧ follow tree closed next rest = .ok target) ∨
      (rest = [] ∧ target.file? = some next ∧ tree.node? next ≠ some .directory ∧
        (target = .vacant next ∧ tree.node? next = none ∨
          ∃ node, target = .existing next node ∧ tree.node? next = some node ∧
            closed = false)) := by
  cases there : tree.node? next with
  | none =>
      rw [enter] at leads
      simp only [there] at leads
      split_ifs at leads with ends
      rw [← Except.ok.inj leads]
      exact .inr ⟨List.isEmpty_iff.mp ends, rfl, by simp, .inl ⟨rfl, rfl⟩⟩
  | some node =>
      by_cases directory : node = .directory
      · simp only [directory] at there
        exact .inl ⟨congrArg some directory, by rwa [enter, there] at leads⟩
      · rw [enter_existing there directory] at leads
        split_ifs at leads with ends
        rw [Bool.and_eq_true, Bool.not_eq_true'] at ends
        rw [← Except.ok.inj leads]
        exact .inr ⟨List.isEmpty_iff.mp ends.1, Target.file?_existing directory,
          by simpa using directory, .inr ⟨node, rfl, rfl, ends.2⟩⟩

variable {base tree : FileTree} {location : Location} {contents : List UInt8}

/-- What a path leads to is there, unless the path only names directories. -/
theorem of_follow {closed : Bool} {names : List String} {place : Location} {target : Target}
    (leads : follow tree closed place names = .ok target) (file : target.file? = some location) :
    tree.node? location ≠ some .directory ∧
      (target = .vacant location ∧ tree.node? location = none ∨
        ∃ node, target = .existing location node ∧ tree.node? location = some node ∧
          closed = false) := by
  induction names generalizing place with
  | nil =>
      rw [follow] at leads
      rw [← Except.ok.inj leads] at file
      exact absurd file (by simp [Target.file?])
  | cons name rest ih =>
      rcases follow_cases name with ⟨move, moved⟩ | refused | entered
      · rw [moved] at leads
        exact ih leads
      · rw [refused] at leads
        exact absurd leads (by simp)
      · rw [entered] at leads
        rcases enter_ok leads with ⟨-, onward⟩ | ⟨-, here, result⟩
        · exact ih onward
        · rw [here, Option.some_inj] at file
          rwa [file] at result

/-- A path leads through directories, and a change at a place where there is none is seen only
by a path that leads to this place. -/
theorem follow_of_elsewhere
    (elsewhere : ∀ other, other ≠ location → tree.node? other = base.node? other)
    (noDirectory : base.node? location ≠ some .directory) {closed : Bool} {names : List String}
    {place : Location} {target : Target} (leads : follow base closed place names = .ok target) :
    follow tree closed place names =
      if target.file? = some location then enter tree closed location [] else .ok target := by
  induction names generalizing place with
  | nil =>
      rw [follow] at leads ⊢
      rw [← Except.ok.inj leads]
      rfl
  | cons name rest ih =>
      rcases follow_cases name with ⟨move, moved⟩ | refused | entered
      · rw [moved] at leads ⊢
        exact ih leads
      · rw [refused] at leads
        exact absurd leads (by simp)
      · rw [entered] at leads ⊢
        rcases enter_ok leads with ⟨directory, onward⟩ | ⟨ends, here, -⟩
        · have away : place ++ [name] ≠ location := fun same => noDirectory (same ▸ directory)
          rw [enter, elsewhere _ away, directory]
          exact ih onward
        · rw [here, ends]
          split_ifs with same
          · rw [Option.some_inj.mp same]
          · have away : place ++ [name] ≠ location := fun same' => same (congrArg some same')
            rw [ends] at leads
            rw [← leads, enter, enter, elsewhere _ away]
            rfl

/-- A path that leads to a file, or to the place of one, leads to that place whatever the file
holds. -/
theorem follow_of_holds (holds : Holds base location contents tree)
    (noDirectory : base.node? location ≠ some .directory) {names : List String}
    {place : Location} {target : Target} (leads : follow base false place names = .ok target)
    (file : target.file? = some location) :
    follow tree false place names = .ok (.existing location (.file contents)) := by
  rw [follow_of_elsewhere holds.elsewhere noDirectory leads, if_pos file, enter, holds.there]
  rfl

end Follow

section Path

variable {base tree : FileTree} {path : String} {location : Location} {contents : List UInt8}

/-- A path that can be one is followed from where it starts, whatever else the tree holds. -/
theorem resolve_ok {target : Target} (found : base.resolve path = .ok target) :
    ∃ start, ∀ tree : FileTree, tree.workingDirectory = base.workingDirectory →
      tree.resolve path = follow tree (endsOpen path) start (steps path) := by
  rw [resolve] at found
  split_ifs at found with empty null tooLong
  · refine ⟨[], fun tree _ => ?_⟩
    rw [resolve, if_neg empty, if_neg null, if_neg tooLong, if_pos ‹_›]
  · refine ⟨base.workingDirectory, fun tree same => ?_⟩
    rw [resolve, if_neg empty, if_neg null, if_neg tooLong, if_neg ‹_›, same]

/-- There is nothing at a free place. -/
theorem node?_of_resolve_vacant
    (found : base.resolve path = .ok (.vacant location)) : base.node? location = none := by
  obtain ⟨start, followed⟩ := resolve_ok found
  obtain ⟨-, ⟨-, free⟩ | ⟨_, other, -⟩⟩ := of_follow ((followed base rfl).symm.trans found) rfl
  · exact free
  · exact absurd other (by simp)

/-- What has been opened under a path for writing at its end: the file that the path leads
to, or a new file in its place. -/
structure Opened (base : FileTree) (path : String) (location : Location) (tree : FileTree) :
    Prop where
  endsOpen : endsOpen path = false
  noDirectory : base.node? location ≠ some .directory
  leads : ∃ target, base.resolve path = .ok target ∧ target.file? = some location
  made : base.node? location = none ∧ tree = base.set location (.file []) ∨
    base.node? location ≠ none ∧ tree = base

theorem openAppend_ok (opened : base.openAppend path = .ok (location, tree)) :
    Opened base path location tree := by
  rw [openAppend] at opened
  cases found : base.resolve path with
  | error fault =>
      rw [found] at opened
      exact absurd opened (by simp)
  | ok target =>
      obtain ⟨start, followed⟩ := resolve_ok found
      have leads : follow base (FileTree.endsOpen path) start (steps path) = .ok target :=
        (followed base rfl).symm.trans found
      rw [found] at opened
      cases target with
      | vacant place =>
          simp only at opened
          split_ifs at opened with slash
          obtain ⟨rfl, rfl⟩ := Prod.mk.inj (Except.ok.inj opened)
          obtain ⟨noDirectory, -⟩ := of_follow leads rfl
          have free : base.node? place = none := node?_of_resolve_vacant found
          exact ⟨by simpa using slash, noDirectory, ⟨_, found, rfl⟩, .inl ⟨free, rfl⟩⟩
      | existing place node =>
          have file : (Target.existing place node).file? = some place ∧
              (place, base) = (location, tree) := by
            cases node with
            | directory => exact absurd opened (by simp)
            | file contents => exact ⟨rfl, Except.ok.inj opened⟩
            | fullDevice => exact ⟨rfl, Except.ok.inj opened⟩
          obtain ⟨rfl, rfl⟩ := Prod.mk.inj file.2
          obtain ⟨noDirectory, result⟩ := of_follow leads file.1
          rcases result with ⟨other, -⟩ | ⟨_, -, there, slash⟩
          · exact absurd other (by simp)
          · exact ⟨slash, noDirectory, ⟨_, found, file.1⟩, .inr ⟨by simp [there], rfl⟩⟩

/-- The path under which a file was opened leads to the file, whatever it holds by now. -/
theorem Opened.resolve_of_holds (opened : Opened base path location tree) {later : FileTree}
    (holds : Holds base location contents later) :
    later.resolve path = .ok (.existing location (.file contents)) := by
  obtain ⟨target, found, file⟩ := opened.leads
  obtain ⟨start, followed⟩ := resolve_ok found
  have leads : follow base false start (steps path) = .ok target := by
    rw [← opened.endsOpen, ← followed base rfl, found]
  rw [followed later holds.workingDirectory, opened.endsOpen]
  exact follow_of_holds holds opened.noDirectory leads file

theorem Opened.read_of_holds (opened : Opened base path location tree) {later : FileTree}
    (holds : Holds base location contents later) : later.read path = .ok contents := by
  rw [read, opened.resolve_of_holds holds]

theorem exists?_iff :
    tree.exists? path = true ↔ ∃ place node, tree.resolve path = .ok (.existing place node) := by
  rw [exists?, find?]
  cases tree.resolve path with
  | error fault => simp
  | ok target => cases target <;> simp

/-- What exists does so whatever a file holds. -/
theorem Holds.exists? (holds : Holds base location contents tree)
    (noDirectory : base.node? location ≠ some .directory) (there : base.exists? path = true) :
    tree.exists? path = true := by
  rw [exists?_iff] at there ⊢
  obtain ⟨place, node, found⟩ := there
  obtain ⟨start, followed⟩ := resolve_ok found
  have leads := (followed base rfl).symm.trans found
  rw [followed tree holds.workingDirectory,
    follow_of_elsewhere holds.elsewhere noDirectory leads]
  split_ifs with file
  · -- The path leads to the file itself, and so asks for no directory.
    obtain ⟨-, ⟨other, -⟩ | ⟨_, -, -, closed⟩⟩ := of_follow leads file
    · exact absurd other (by simp)
    · rw [enter, holds.there, closed]
      exact ⟨location, .file contents, rfl⟩
  · exact ⟨place, node, rfl⟩

end Path

section Directories

variable {tree : FileTree} {path : String}

theorem createDirectory_ok {after : FileTree} (made : tree.createDirectory path = .ok after) :
    ∃ place, tree.resolve path = .ok (.vacant place) ∧ after = tree.set place .directory := by
  rw [createDirectory] at made
  cases found : tree.resolve path with
  | error fault => simp [found] at made
  | ok target =>
      cases target with
      | existing place node => simp [found] at made
      | vacant place =>
          simp only [found] at made
          exact ⟨place, rfl, (Except.ok.inj made).symm⟩

/-- Making a directory adds one, and nothing else. -/
theorem Grown.createDirectory {after : FileTree} (made : tree.createDirectory path = .ok after) :
    Grown tree after := by
  obtain ⟨place, found, rfl⟩ := createDirectory_ok made
  have free := node?_of_resolve_vacant found
  have proper : place ≠ [] := ne_root_of_node? (by rw [free]; simp : tree.node? place ≠ _)
  refine ⟨workingDirectory_set, fun location => ?_⟩
  by_cases here : location = place
  · rw [here]
    exact .inr ⟨free, node?_set proper⟩
  · exact .inl (node?_set_of_ne here)

/-- A directory that was made is there. -/
theorem exists?_of_createDirectory {after : FileTree}
    (made : tree.createDirectory path = .ok after) : after.exists? path = true := by
  obtain ⟨place, found, rfl⟩ := createDirectory_ok made
  have noDirectory : tree.node? place ≠ some .directory := by
    rw [node?_of_resolve_vacant found]
    simp
  obtain ⟨start, followed⟩ := resolve_ok found
  have leads := (followed tree rfl).symm.trans found
  have here : (Target.vacant place).file? = some place := rfl
  rw [exists?_iff, followed _ workingDirectory_set,
    follow_of_elsewhere (fun _ => node?_set_of_ne) noDirectory leads, if_pos here, enter,
    node?_set (ne_root_of_node? noDirectory)]
  exact ⟨place, .directory, rfl⟩

/-- Makes one directory, unless it is there. -/
def createMissing (path : String) (tree : FileTree) : Except FileFault Unit × FileTree :=
  match tree.createDirectory path with
  | .ok tree => (.ok (), tree)
  | .error fault => if tree.isDirectory path then (.ok (), tree) else (.error fault, tree)

theorem Grown.createMissing (path : String) (tree : FileTree) :
    Grown tree (createMissing path tree).2 := by
  rw [FileTree.createMissing]
  cases made : tree.createDirectory path with
  | ok after => exact .createDirectory made
  | error fault =>
      simp only
      split_ifs <;> exact .refl tree

theorem exists?_createMissing (done : (createMissing path tree).1 = .ok ()) :
    (createMissing path tree).2.exists? path = true := by
  rw [createMissing] at done ⊢
  cases made : tree.createDirectory path with
  | ok after => exact exists?_of_createDirectory made
  | error fault =>
      simp only [made] at done ⊢
      split_ifs at done ⊢ with directory
      rw [isDirectory, beq_iff_eq] at directory
      rw [exists?, directory]
      rfl

/-- The first directory is made at once, or behind those around it if these can be made. -/
theorem createFirst_cases (named : path.isEmpty = false) (around : List String)
    (tree : FileTree) :
    createFirst (path :: around) tree = createMissing path tree ∨
      (∃ fault, createFirst (path :: around) tree =
        (.error fault, (createFirst around tree).2)) ∨
      createFirst (path :: around) tree = createMissing path (createFirst around tree).2 := by
  rw [createFirst, named, if_neg Bool.false_ne_true]
  cases made : tree.createDirectory path with
  | ok after =>
      refine .inl ?_
      rw [createMissing, made]
  | error fault =>
      by_cases missing : fault = .notFound
      · subst missing
        refine .inr ?_
        generalize createFirst around tree = result
        obtain ⟨done, later⟩ := result
        cases done with
        | error fault => exact .inl ⟨fault, rfl⟩
        | ok done => exact .inr rfl
      · refine .inl ?_
        rw [createMissing, made]
        cases fault <;> first | rfl | exact absurd rfl missing

/-- Making directories adds directories, also where it fails in the end. -/
theorem Grown.createFirst (paths : List String) (tree : FileTree) :
    Grown tree (createFirst paths tree).2 := by
  induction paths generalizing tree with
  | nil => exact .refl tree
  | cons path around ih =>
      by_cases empty : path.isEmpty = true
      · rw [FileTree.createFirst, if_pos empty]
        exact .refl tree
      rw [Bool.not_eq_true] at empty
      rcases createFirst_cases empty around tree with alone | ⟨fault, failed⟩ | behind
      · rw [alone]
        exact .createMissing path tree
      · rw [failed]
        exact ih tree
      · rw [behind]
        exact (ih tree).trans (.createMissing path _)

theorem Grown.createDirectories (path : String) (tree : FileTree) :
    Grown tree (createDirectories path tree).2 :=
  .createFirst _ tree

/-- A directory that was made together with those around it is there. -/
theorem exists?_createDirectories (named : path.isEmpty = false)
    (done : (createDirectories path tree).1 = .ok ()) :
    (createDirectories path tree).2.exists? path = true := by
  obtain ⟨around, those⟩ : ∃ around, Path.ancestors path = path :: around := by
    rw [Path.ancestors]
    cases path.length with
    | zero => exact ⟨[], rfl⟩
    | succ bound =>
        rw [Path.ancestorsUpTo]
        cases Path.parent? path with
        | none => exact ⟨[], rfl⟩
        | some parent => exact ⟨_, rfl⟩
  rw [createDirectories, those] at done ⊢
  rcases createFirst_cases named around tree with alone | ⟨fault, failed⟩ | behind
  · rw [alone] at done ⊢
    exact exists?_createMissing done
  · rw [failed] at done
    exact absurd done (by simp)
  · rw [behind] at done ⊢
    exact exists?_createMissing done

end Directories

end CallTrace.FileTree
