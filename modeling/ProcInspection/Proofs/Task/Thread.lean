import ProcInspection.Proofs.Failure
import ProcInspection.Proofs.FileSystem.Entry
import ProcInspection.Proofs.FileSystem.Footprint
import ProcInspection.Proofs.FileTree.Change
import ProcInspection.Proofs.Path.Components
import ProcInspection.Proofs.Task.StateScan
import ProcInspection.Task.Thread

namespace ProcInspection
namespace Thread

/-!
What a listing of threads keeps.

A listing fails only as a whole, where the task directory cannot be listed.
Once it is listed, every name that is a number is a thread, whatever stands
there.  Its name and its state are read from two files, each for itself, and
what cannot be read leaves a mark in that one field of that one thread.  Both
files are looked up under the number and not under the name that was listed.

A thread sees nothing but what the walks to its two files turn to.  Without
links that is the directory of its own number; a link among the threads can make
one of them see another.
-/

/-- What is known of the thread that a name of the task directory stands for. -/
structure Reads (files : FileSystem) (root : ProcRoot) (pid : ProcessId) (name : Bytes)
    (thread : Thread) : Prop where
  numbered : Decimal.Denotes (name.map UInt8.toNat) thread.tid.number.toNat
  named : forall content, files.read (root.threadNameFile pid thread.tid) = .ok content ->
    thread.name = TaskName.ofFile content
  unnamed : forall cause, files.read (root.threadNameFile pid thread.tid) = .error cause ->
    thread.name = "???"
  stated : forall content, files.read (root.threadStatusFile pid thread.tid) = .ok content ->
    StateScan.Gives (Status.lines content) thread.state
  unstated : forall cause, files.read (root.threadStatusFile pid thread.tid) = .error cause ->
    thread.state = .unknown

variable {files : FileSystem} {root : ProcRoot} {pid : ProcessId} {names : List Bytes}

theorem reads_read {name : Bytes} {number : UInt32} (numbered : Decimal.ofName? name = some number) :
    Reads files root pid name (read files root pid ⟨number⟩) where
  numbered := (Decimal.ofName?_eq_some_iff name number).mp numbered
  named := by
    intro content found
    unfold read readName
    rw [show files.read (root.threadNameFile pid ⟨number⟩) = .ok content from found]
  unnamed := by
    intro cause refused
    unfold read readName
    rw [show files.read (root.threadNameFile pid ⟨number⟩) = .error cause from refused]
    rfl
  stated := by
    intro content found
    apply (StateScan.scan_iff content).mp
    unfold read readState
    rw [show files.read (root.threadStatusFile pid ⟨number⟩) = .ok content from found]
  unstated := by
    intro cause refused
    unfold read readState
    rw [show files.read (root.threadStatusFile pid ⟨number⟩) = .error cause from refused]

theorem enumerate_of_list (listed : files.list (root.taskDir pid) = .ok names) :
    enumerate files root pid = .ok ((numbers names).map (read files root pid)) := by
  unfold enumerate
  rw [listed]

theorem enumerate_of_refused {cause : IoFailure}
    (refused : files.list (root.taskDir pid) = .error cause) :
    enumerate files root pid = .error (.ofProcessRead pid cause) := by
  unfold enumerate
  rw [refused]

theorem enumerate_eq_error_iff {failure : Failure} :
    enumerate files root pid = .error failure <->
      Exists fun cause : IoFailure =>
        files.list (root.taskDir pid) = .error cause ∧ Failure.Reports pid cause failure := by
  cases listed : files.list (root.taskDir pid) with
  | ok names => simp [enumerate_of_list listed]
  | error cause => simp [enumerate_of_refused listed, Failure.reports_iff, eq_comm]

theorem forall₂_reads (names : List Bytes) :
    List.Forall₂ (Reads files root pid) (names.filter fun name => Decimal.IsNumberName name)
      ((numbers names).map (read files root pid)) := by
  unfold numbers
  rw [List.map_filterMap]
  apply FileSystem.forall₂_filterMap
  · intro name
    rw [← Decimal.isSome_ofName?_iff, Option.isSome_map, Option.isSome_map]
  · intro name thread shown
    simp only [Option.map_map, Option.map_eq_some_iff, Function.comp_apply] at shown
    rcases shown with ⟨number, numbered, rfl⟩
    exact reads_read numbered

/-! ## Other threads -/

/-- The walks to the two files of a thread, from the directory of the threads,
never turn to a way. -/
def Apart (here : FileTree.Arrival) (way : List Bytes) (tid : ThreadId) : Prop :=
  here.Avoids true [Utf8.encode tid.text, Utf8.encode "comm"] way ∧
    here.Avoids true [Utf8.encode tid.text, Utf8.encode "status"] way

instance (here : FileTree.Arrival) (way : List Bytes) : DecidablePred (Apart here way) :=
  fun _ => inferInstanceAs (Decidable (_ ∧ _))

/-- No link stands where the walks to the two files of a thread would follow it. -/
def StraightFiles (tree : FileTree) (tid : ThreadId) : Prop :=
  tree.Straight true [Utf8.encode tid.text, Utf8.encode "comm"] ∧
    tree.Straight true [Utf8.encode tid.text, Utf8.encode "status"]

section Changed

variable {one other : FileSystem} {here there : FileTree.Arrival}

/-- Threads that are read alike are listed alike. -/
theorem enumerate_filter_congr {kept : ThreadId -> Prop} [DecidablePred kept]
    (listed : one.list (root.taskDir pid) = other.list (root.taskDir pid))
    (same : forall tid, kept tid -> read one root pid tid = read other root pid tid) :
    (enumerate one root pid).map (List.filter fun thread => kept thread.tid) =
      (enumerate other root pid).map (List.filter fun thread => kept thread.tid) := by
  cases first : one.list (root.taskDir pid) with
  | error cause =>
      rw [enumerate_of_refused first, enumerate_of_refused (listed.symm.trans first)]
  | ok names =>
      rw [enumerate_of_list first, enumerate_of_list (listed.symm.trans first)]
      change Except.ok _ = Except.ok _
      rw [List.filter_map, List.filter_map]
      apply congrArg Except.ok
      apply List.map_congr_left
      intro tid member
      exact same tid (of_decide_eq_true (List.mem_filter.mp member).2)

variable (meets : FileSystem.Meets (root.taskDir pid) one other here there)

include meets

/-- A thread has one name and one state in two trees, if its files are walked to
past all that they differ in. -/
theorem read_congr {way : List Bytes} (alike : FileTree.AlikeBut way one.tree other.tree)
    (outside : ¬ way <+: here.place.names) {tid : ThreadId} (apart : Apart here way tid) :
    read one root pid tid = read other root pid tid := by
  have below {file : Bytes} (plain : Path.IsName file) :
      (root.taskDir pid).Under (root.taskFile pid tid ⟨file⟩) [Utf8.encode tid.text, file] :=
    (Path.under_join tid.isName_text (root.taskDir pid)).join plain
  have name : one.read (root.threadNameFile pid tid) = other.read (root.threadNameFile pid tid) :=
    FileSystem.read_alike meets alike outside (below (by decide)) (List.cons_ne_nil _ _) apart.1
  have status : one.read (root.threadStatusFile pid tid) =
      other.read (root.threadStatusFile pid tid) :=
    FileSystem.read_alike meets alike outside (below (by decide)) (List.cons_ne_nil _ _) apart.2
  unfold read readName readState
  rw [name, status]

/-- Without links the walks to the files of a thread turn to no other number. -/
theorem apart_of_straight {name : Bytes} {tid other : ThreadId}
    (denotes : Decimal.Denotes (name.map UInt8.toNat) tid.number.toNat) (different : other ≠ tid)
    (straight : StraightFiles here.place.tree other) :
    Apart here (here.place.names ++ [name]) other := by
  have first : Utf8.encode other.text ≠ name := by
    intro same
    have text := Decimal.denotes_text other.number.toNat
    change Decimal.Denotes ((Utf8.encode other.text).map UInt8.toNat) _ at text
    rw [same] at text
    exact different (congrArg ThreadId.mk (UInt32.toNat.inj (text.total.symm.trans denotes.total)))
  have within := FileSystem.resolve_within meets.first
  have plain {file : Bytes} (last : Path.IsName file) :
      forall part, part ∈ [Utf8.encode other.text, file] -> Path.IsName part :=
    List.forall_mem_cons.mpr ⟨other.isName_text, List.forall_mem_singleton.mpr last⟩
  exact ⟨FileTree.Arrival.avoids_of_straight within (plain (by decide)) first straight.1,
    FileTree.Arrival.avoids_of_straight within (plain (by decide)) first straight.2⟩

end Changed

/-- A listing of threads fails where the task directory cannot be listed, and
nowhere else.  Otherwise it has, in the order of the listing, one thread for
each name that is a number, whatever else can be read of it.  If two trees with
one such listing differ at one way alone, they have the same threads of every
number whose files are walked to past that way.  Without links among the threads
these are, of a difference under the name of one number, those of every other
number. -/
theorem enumerate_threadwise (files : FileSystem) (root : ProcRoot) (pid : ProcessId) :
    (forall failure, enumerate files root pid = .error failure <->
      Exists fun cause : IoFailure =>
        files.list (root.taskDir pid) = .error cause ∧ Failure.Reports pid cause failure) ∧
    (forall names, files.list (root.taskDir pid) = .ok names ->
      Exists fun threads : List Thread =>
        enumerate files root pid = .ok threads ∧
          List.Forall₂ (Reads files root pid)
            (names.filter fun name => Decimal.IsNumberName name) threads) ∧
    forall other here there, FileSystem.Meets (root.taskDir pid) files other here there ->
      files.list (root.taskDir pid) = other.list (root.taskDir pid) ->
        (forall way, FileTree.AlikeBut way files.tree other.tree ->
          ¬ way <+: here.place.names ->
            (enumerate files root pid).map (List.filter fun thread => Apart here way thread.tid) =
              (enumerate other root pid).map
                (List.filter fun thread => Apart here way thread.tid)) ∧
        forall name (tid : ThreadId), Decimal.Denotes (name.map UInt8.toNat) tid.number.toNat ->
          FileTree.AlikeBut (here.place.names ++ [name]) files.tree other.tree ->
            (forall other, other ≠ tid -> StraightFiles here.place.tree other) ->
              (enumerate files root pid).map (List.filter fun thread => thread.tid ≠ tid) =
                (enumerate other root pid).map (List.filter fun thread => thread.tid ≠ tid) := by
  refine ⟨fun failure => enumerate_eq_error_iff, ?_, ?_⟩
  · intro names listed
    exact ⟨_, enumerate_of_list listed, forall₂_reads names⟩
  · intro other here there meets listed
    refine ⟨?_, ?_⟩
    · intro way alike outside
      exact enumerate_filter_congr listed fun tid apart => read_congr meets alike outside apart
    · intro name tid denotes alike straight
      have same : forall thread, thread ≠ tid ->
          read files root pid thread = read other root pid thread := fun thread different =>
        read_congr meets alike (here.not_below_entry name)
          (apart_of_straight meets denotes different (straight thread different))
      have law := enumerate_filter_congr listed same
      exact law

namespace Sample

def named (name : String) : Bytes × FileTree :=
  (Utf8.encode "comm", .file (Utf8.encode name) false)

/-- A thread that can be read beside one that is listed twice, once by a plain
file, and has at most a name.  There may be more in front of them. -/
def tasks (front second : List (Bytes × FileTree)) : FileTree :=
  .directory (front ++
    [(Utf8.encode "7", .directory [named "main\n",
        (Utf8.encode "status", .file (Utf8.encode "Name:\tx\nState:\tS (sleeping)") false)] .free),
      (Utf8.encode "09", .file [] false),
      (Utf8.encode "9", .directory second .free),
      (Utf8.encode "x", .directory [] .free)]) .free

/-- A name that leads to the thread with at most a name. -/
def shortcut : Bytes × FileTree :=
  (Utf8.encode "5", .link (Utf8.encode "9") false)

def process (front second : List (Bytes × FileTree)) : FileTree :=
  .directory [(Utf8.encode "task", tasks front second)] .free

def system (front second : List (Bytes × FileTree)) : FileSystem where
  tree := .directory [(Utf8.encode "7", process front second)] .free
  working := none

def mount : ProcRoot :=
  ⟨Path.ofText "/"⟩

def arrival (front second : List (Bytes × FileTree)) : FileTree.Arrival :=
  ⟨⟨tasks front second, [(Utf8.encode "task", process front second),
    (Utf8.encode "7", (system front second).tree)]⟩, FileSystem.linkLimit⟩

theorem meets (front second third : List (Bytes × FileTree)) :
    FileSystem.Meets (mount.taskDir ⟨7⟩) (system front second) (system front third)
      (arrival front second) (arrival front third) :=
  ⟨rfl, rfl, rfl, rfl⟩

/-- The way of the thread with at most a name. -/
def way : List Bytes :=
  [Utf8.encode "7", Utf8.encode "task"] ++ [Utf8.encode "9"]

/-- That thread gets another name, or a name at all. -/
theorem alike_of_name {front : List (Bytes × FileTree)} {second third : List (Bytes × FileTree)}
    (written : (FileTree.Change.write (Utf8.encode "other\n")).apply (way ++ [Utf8.encode "comm"])
      (system front second).tree = some (system front third).tree) :
    FileTree.AlikeBut way (system front second).tree (system front third).tree :=
  (FileTree.Change.alikeBut written).widen (List.cons_ne_nil _ _)

theorem linkless_tasks : FileTree.Linkless (tasks [] []) := by
  refine .directory ?_
  simp only [List.nil_append, List.forall_mem_cons, List.not_mem_nil, false_implies, implies_true,
    and_true]
  refine ⟨.directory ?_, .file _ _, .directory (List.forall_mem_nil _),
    .directory (List.forall_mem_nil _)⟩
  exact List.forall_mem_cons.mpr ⟨.file _ _, List.forall_mem_singleton.mpr (.file _ _)⟩

end Sample

theorem enumerate_threadwise_sample :
    enumerate (Sample.system [] []) Sample.mount ⟨7⟩ =
        .ok [⟨⟨7⟩, "main", .sleeping⟩, ⟨⟨9⟩, "???", .unknown⟩, ⟨⟨9⟩, "???", .unknown⟩] ∧
      (enumerate (Sample.system [] []) Sample.mount ⟨7⟩).map
          (List.filter fun thread => thread.tid ≠ ⟨9⟩) =
        (enumerate (Sample.system [] [Sample.named "other\n"]) Sample.mount ⟨7⟩).map
          (List.filter fun thread => thread.tid ≠ ⟨9⟩) ∧
      (enumerate (Sample.system [Sample.shortcut] []) Sample.mount ⟨7⟩).map
          (List.filter fun thread =>
            Apart (Sample.arrival [Sample.shortcut] []) Sample.way thread.tid) =
        (enumerate (Sample.system [Sample.shortcut] [Sample.named "other\n"]) Sample.mount ⟨7⟩).map
          (List.filter fun thread =>
            Apart (Sample.arrival [Sample.shortcut] []) Sample.way thread.tid) ∧
      Apart (Sample.arrival [Sample.shortcut] []) Sample.way ⟨7⟩ ∧
      ¬ Apart (Sample.arrival [Sample.shortcut] []) Sample.way ⟨5⟩ := by
  have straight : forall other : ThreadId, other ≠ ⟨9⟩ -> StraightFiles (Sample.tasks [] []) other :=
    fun _ _ => ⟨Sample.linkless_tasks.straight true _, Sample.linkless_tasks.straight true _⟩
  have alike : FileTree.AlikeBut Sample.way (Sample.system [] []).tree
      (Sample.system [] [Sample.named "other\n"]).tree := Sample.alike_of_name rfl
  have alikeToo : FileTree.AlikeBut Sample.way (Sample.system [Sample.shortcut] []).tree
      (Sample.system [Sample.shortcut] [Sample.named "other\n"]).tree := Sample.alike_of_name rfl
  have lone := (enumerate_threadwise (Sample.system [] []) Sample.mount ⟨7⟩).2.2
    _ _ _ (Sample.meets [] [] [Sample.named "other\n"]) rfl
  have linked := (enumerate_threadwise (Sample.system [Sample.shortcut] []) Sample.mount ⟨7⟩).2.2
    _ _ _ (Sample.meets [Sample.shortcut] [] [Sample.named "other\n"]) rfl
  refine ⟨?_, ?_, ?_, by decide, by decide⟩
  · rw [enumerate_of_list rfl]
    exact congrArg Except.ok (by decide +kernel)
  · exact lone.2 (Utf8.encode "9") ⟨9⟩ (Decimal.denotes_text 9) alike straight
  · exact linked.1 Sample.way alikeToo (by decide)

/-- A difference below the directory of one thread can be seen in another one,
where a link leads from the one to the other. -/
theorem others_not_always_same :
    ¬ forall (one other : FileSystem) (root : ProcRoot) (pid : ProcessId)
      (here there : FileTree.Arrival) (name : Bytes) (tid : ThreadId),
      FileSystem.Meets (root.taskDir pid) one other here there ->
        one.list (root.taskDir pid) = other.list (root.taskDir pid) ->
          Decimal.Denotes (name.map UInt8.toNat) tid.number.toNat ->
            FileTree.AlikeBut (here.place.names ++ [name]) one.tree other.tree ->
              (enumerate one root pid).map (List.filter fun thread => thread.tid ≠ tid) =
                (enumerate other root pid).map (List.filter fun thread => thread.tid ≠ tid) := by
  intro always
  have same := always _ _ Sample.mount ⟨7⟩ _ _ (Utf8.encode "9") ⟨9⟩
    (Sample.meets [Sample.shortcut] [] [Sample.named "other\n"]) rfl (Decimal.denotes_text 9)
    (Sample.alike_of_name rfl)
  rw [enumerate_of_list rfl, enumerate_of_list rfl] at same
  exact absurd (Except.ok.inj same) (by decide +kernel)

end Thread
end ProcInspection
