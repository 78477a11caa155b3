import Mathlib.Data.List.Dedup
import ProcInspection.Inspection
import ProcInspection.Proofs.FileTree.Steps
import ProcInspection.Proofs.Task.Descriptor.Snapshot
import ProcInspection.Proofs.Task.Thread

namespace ProcInspection
namespace FileTree

/-!
What is read of a tree that steps have laid out.

The steps are the history of each process: the status that was written last,
the descriptors that were added, the threads with the name and the status that
each of them was given last.  Reading the tree gives this history back.
-/

namespace Step

/-! ## What a step gives to a process -/

def status? (pid : ProcessId) : Step -> Option Bytes
  | .writeStatus process content => if pid = process then some content else none
  | _ => none

def descriptor? (pid : ProcessId) : Step -> Option Descriptor
  | .addDescriptor process number target =>
      if pid = process then some (.ofTarget number (Utf8.decodeLossy target)) else none
  | _ => none

def thread? (pid : ProcessId) : Step -> Option ThreadId
  | .addThread process tid _ _ => if pid = process then some tid else none
  | _ => none

def threadName? (pid : ProcessId) (tid : ThreadId) : Step -> Option Bytes
  | .addThread process thread name _ => if pid = process ∧ tid = thread then name else none
  | _ => none

def threadStatus? (pid : ProcessId) (tid : ThreadId) : Step -> Option Bytes
  | .addThread process thread _ status => if pid = process ∧ tid = thread then status else none
  | _ => none

/-! ## Where it leaves it -/

attribute [local simp] ProcessId.encode_text_inj ThreadId.encode_text_inj
  ProcessId.encode_text_ne_net

theorem mem_descriptors_iff (pid : ProcessId) (steps : List Step) (descriptor : Descriptor) :
    descriptor ∈ steps.filterMap (descriptor? pid) <->
      Exists fun number : UInt32 => Exists fun target : Bytes =>
        .addDescriptor pid number target ∈ steps ∧
          descriptor = .ofTarget number (Utf8.decodeLossy target) := by
  rw [List.mem_filterMap]
  constructor
  · rintro ⟨step, member, given⟩
    cases step with
    | addDescriptor process number target =>
        rw [descriptor?, Option.ite_none_right_eq_some] at given
        rcases given with ⟨rfl, same⟩
        exact ⟨number, target, member, (Option.some.inj same).symm⟩
    | _ => cases given
  · rintro ⟨number, target, member, rfl⟩
    exact ⟨_, member, if_pos rfl⟩

theorem bind_file (given : Option Bytes) (here : Prop) [Decidable here] :
    (given.bind fun content => if here then some (Node.file content) else none) =
      (if here then given else none).map .file := by
  by_cases shown : here
  · cases given <;> simp [shown]
  · cases given <;> simp [shown]

variable (pid : ProcessId) (step : Step)

theorem leaves_process {what : Node} (left : step.leaves [Utf8.encode pid.text] = some what) :
    what = .directory := by
  cases step <;> simp +decide [leaves, directories, only] at left <;> exact left.2.symm

theorem leaves_status :
    step.leaves [Utf8.encode pid.text, Utf8.encode "status"] = (step.status? pid).map .file := by
  cases step <;> simp +decide [leaves, directories, only, status?]

theorem leaves_descriptors (what : Node) :
    step.leaves [Utf8.encode pid.text, Utf8.encode "fd"] = some what <->
      step = .addProcess pid ∧ what = .directory := by
  cases step <;> simp +decide [leaves, directories, only]
  grind

/-- A plain file is no link, whatever its name is. -/
theorem leaves_descriptor (name target : Bytes) :
    step.leaves [Utf8.encode pid.text, Utf8.encode "fd", name] = some (.link target) <->
      Exists fun number : UInt32 => step = .addDescriptor pid number target ∧
        name = Utf8.encode (Decimal.text number.toNat) := by
  cases step <;> simp +decide [leaves, directories, only]
  grind

theorem leaves_threads (what : Node) :
    step.leaves [Utf8.encode pid.text, Utf8.encode "task"] = some what <->
      (step = .addProcess pid ∨ Exists fun tid : ThreadId => step.thread? pid = some tid) ∧
        what = .directory := by
  cases step <;> simp +decide [leaves, directories, only, thread?] <;> grind

theorem leaves_thread (name : Bytes) (what : Node) :
    step.leaves [Utf8.encode pid.text, Utf8.encode "task", name] = some what <->
      (Exists fun tid : ThreadId => step.thread? pid = some tid ∧ name = Utf8.encode tid.text) ∧
        what = .directory := by
  cases step <;> simp +decide [leaves, directories, only, thread?]
  grind

theorem leaves_threadName (tid : ThreadId) :
    step.leaves [Utf8.encode pid.text, Utf8.encode "task", Utf8.encode tid.text,
      Utf8.encode "comm"] = (step.threadName? pid tid).map .file := by
  cases step <;> simp +decide [leaves, directories, only, threadName?, bind_file]

theorem leaves_threadStatus (tid : ThreadId) :
    step.leaves [Utf8.encode pid.text, Utf8.encode "task", Utf8.encode tid.text,
      Utf8.encode "status"] = (step.threadStatus? pid tid).map .file := by
  cases step <;> simp +decide [leaves, directories, only, threadStatus?, bind_file]

end Step

/-! ## Reading it back -/

/-- Names that are those of threads are read as these threads. -/
theorem map_numbers {names : List Bytes}
    (named : forall name, name ∈ names -> Exists fun tid : ThreadId => name = Utf8.encode tid.text) :
    (Thread.numbers names).map (fun tid => Utf8.encode tid.text) = names := by
  induction names with
  | nil => rfl
  | cons name names ih =>
      rcases named name List.mem_cons_self with ⟨tid, rfl⟩
      have numbered : Decimal.ofName? (Utf8.encode tid.text) = some tid.number :=
        Decimal.ofName?_encode_text tid.number
      have rest := ih fun other member => named other (List.mem_cons_of_mem _ member)
      simp only [Thread.numbers] at rest ⊢
      rw [List.filterMap_cons, numbered]
      simp [rest]

/-- A thread with the name and the state that it was given last. -/
def laidThread (pid : ProcessId) (steps : List Step) (tid : ThreadId) : Thread where
  tid := tid
  name := match (steps.filterMap (Step.threadName? pid tid)).getLast? with
    | some content => TaskName.ofFile content
    | none => TaskName.unreadable
  state := match (steps.filterMap (Step.threadStatus? pid tid)).getLast? with
    | some content => StateScan.scan [.ok content]
    | none => .unknown

namespace Laid

variable {root : ProcRoot} {steps : List Step} {files : FileSystem}
  (laid : Laid root steps files.tree)
  (fresh : FreshRoot root) (pid : ProcessId)

include laid fresh

theorem leads {path : Path} {names : List Bytes} {bound : Nat}
    (descends : Descends root.path path names) (fits : path.Fits bound)
    (room : bound ≤ root.path.bytes.length + 34)
    (small : forall name, name ∈ names -> name.length ≤ 10) : Leads root.path path names := by
  have taken : FileSystem.pathFault? path = none :=
    pathFault?_of_fits fits (Nat.lt_of_le_of_lt room fresh.room)
      (descends.under.start.trans laid.rooted.absolute)
  exact ⟨descends, fun name member => Nat.le_trans (small name member) (by decide), taken⟩

theorem leads_processFile {file : Bytes} (plain : Path.IsName file) (fits : (Path.mk file).Fits 6) :
    Leads root.path (root.processFile pid ⟨file⟩) [Utf8.encode pid.text, file] := by
  have whole := root.fits_processFile (fits_of_pathFault? laid.rooted.taken) pid fits
  apply laid.leads fresh (descends_processFile root pid plain) whole (by omega)
  have process := (Decimal.fits_text pid.number).short
  have last : file.length ≤ 6 := fits.short
  simp only [List.mem_cons, List.not_mem_nil, or_false, forall_eq_or_imp, forall_eq]
  exact ⟨process, by omega⟩

theorem leads_descriptorDir :
    Leads root.path (root.descriptorDir pid) [Utf8.encode pid.text, Utf8.encode "fd"] :=
  laid.leads_processFile fresh pid (by decide) ⟨by decide, by decide⟩

theorem leads_taskDir :
    Leads root.path (root.taskDir pid) [Utf8.encode pid.text, Utf8.encode "task"] :=
  laid.leads_processFile fresh pid (by decide) ⟨by decide, by decide⟩

theorem leads_descriptor (number : UInt32) :
    Leads root.path ((root.descriptorDir pid).join (Path.ofText (Decimal.text number.toNat)))
      [Utf8.encode pid.text, Utf8.encode "fd", Utf8.encode (Decimal.text number.toNat)] := by
  have directory : (Path.ofText "fd").Fits 2 := ⟨by decide, by decide⟩
  have whole := (root.fits_processFile (fits_of_pathFault? laid.rooted.taken) pid directory).join
    (Decimal.fits_text number)
  apply laid.leads fresh
    (descends_descriptor root pid (Decimal.denotes_text number.toNat).isName) whole
  · omega
  · simp only [List.mem_cons, List.not_mem_nil, or_false, forall_eq_or_imp, forall_eq]
    exact ⟨(Decimal.fits_text pid.number).short, by decide, (Decimal.fits_text number).short⟩

theorem leads_taskFile (tid : ThreadId) {file : Bytes} (plain : Path.IsName file)
    (fits : (Path.mk file).Fits 6) :
    Leads root.path (root.taskFile pid tid ⟨file⟩)
      [Utf8.encode pid.text, Utf8.encode "task", Utf8.encode tid.text, file] := by
  have whole := root.fits_taskFile (fits_of_pathFault? laid.rooted.taken) pid tid fits
  apply laid.leads fresh (descends_taskFile root pid tid plain) whole (by omega)
  have last : file.length ≤ 6 := fits.short
  simp only [List.mem_cons, List.not_mem_nil, or_false, forall_eq_or_imp, forall_eq]
  exact ⟨(Decimal.fits_text pid.number).short, by decide, (Decimal.fits_text tid.number).short,
    by omega⟩

theorem clear_process : Clear (Path.locate root.path.parts) [Utf8.encode pid.text] files.tree := by
  apply (Clear.nil laid.rooted.stands).concat
  intro what stands
  rcases laid.exists_step fresh (List.cons_ne_nil _ _) stands with ⟨step, _, left⟩
  exact step.leaves_process pid left

/-- What nothing was left for a process is reported as missing: a process has a
directory or nothing. -/
theorem find_missing_processFile {file : Bytes}
    (leads : Leads root.path (root.processFile pid ⟨file⟩) [Utf8.encode pid.text, file])
    (missing : node? (Path.locate root.path.parts ++ [Utf8.encode pid.text, file]) files.tree =
      none) :
    files.find true (root.processFile pid ⟨file⟩) = .error (.ofSystem .noSuchEntry) := by
  apply find_missing laid.tidy laid.rooted leads _ missing
  apply (laid.clear_process fresh pid).concat
  intro what stands
  cases missing.symm.trans stands

theorem list_missing_processFile {file : Bytes}
    (leads : Leads root.path (root.processFile pid ⟨file⟩) [Utf8.encode pid.text, file])
    (never : forall what : Node,
      node? (Path.locate root.path.parts ++ [Utf8.encode pid.text, file]) files.tree ≠ some what) :
    files.list (root.processFile pid ⟨file⟩) = .error (.ofSystem .noSuchEntry) := by
  unfold FileSystem.list
  rw [laid.find_missing_processFile fresh pid leads (Option.eq_none_iff_forall_ne_some.mpr never)]

/-- The status is the one that was written last. -/
theorem read_status :
    Status.read files root pid =
      match (steps.filterMap (Step.status? pid)).getLast? with
      | some content => .ok (Status.parse pid content)
      | none => .error (.processNotFound pid) := by
  have leads : Leads root.path (root.statusFile pid) [Utf8.encode pid.text, Utf8.encode "status"] :=
    laid.leads_processFile fresh pid (by decide) ⟨by decide, by decide⟩
  have stands : node? (Path.locate root.path.parts ++ [Utf8.encode pid.text, Utf8.encode "status"])
      files.tree = (steps.filterMap (Step.leaves _)).getLast? :=
    laid.stands fresh (List.cons_ne_nil _ _)
  have each : Step.leaves [Utf8.encode pid.text, Utf8.encode "status"] =
      fun step => (step.status? pid).map .file :=
    funext (Step.leaves_status pid)
  rw [each, ← List.map_filterMap, List.getLast?_map] at stands
  unfold Status.read
  cases last : (steps.filterMap (Step.status? pid)).getLast? with
  | some content =>
      rw [last] at stands
      rw [read_of_file laid.tidy laid.rooted leads stands]
  | none =>
      rw [last] at stands
      have missing : files.find true (root.statusFile pid) = .error (.ofSystem .noSuchEntry) :=
        laid.find_missing_processFile fresh pid leads stands
      rw [FileSystem.read, missing]
      rfl

omit fresh in
/-- No number is added twice, so no descriptor is. -/
theorem nodup_descriptors : (steps.filterMap (Step.descriptor? pid)).Nodup := by
  generalize files.tree = tree at laid
  induction laid with
  | fresh made => exact List.nodup_nil
  | @step steps tree next step before lays done ih =>
      rw [List.filterMap_append, List.nodup_append]
      refine ⟨ih, ?_, ?_⟩
      · cases given : step.descriptor? pid <;> simp [given]
      · rintro descriptor earlier other last rfl
        rcases (Step.mem_descriptors_iff pid steps descriptor).mp earlier with
          ⟨number, target, member, built⟩
        rcases (Step.mem_descriptors_iff pid [step] descriptor).mp last with
          ⟨again, goal, same, rebuilt⟩
        have numbers : number = again := congrArg Descriptor.number (built.symm.trans rebuilt)
        rw [← List.mem_singleton.mp same, ← numbers] at done
        exact before.number_free done target member

/-- The links of a process are the descriptors that were added to it. -/
theorem link_iff (name target : Bytes) :
    node? (Path.locate root.path.parts ++ [Utf8.encode pid.text, Utf8.encode "fd", name]) files.tree =
        some (.link target) <->
      Exists fun number : UInt32 => .addDescriptor pid number target ∈ steps ∧
        name = Utf8.encode (Decimal.text number.toNat) := by
  constructor
  · intro stands
    rcases laid.exists_step fresh (List.cons_ne_nil _ _) stands with ⟨step, member, left⟩
    rcases (step.leaves_descriptor pid name target).mp left with ⟨number, rfl, named⟩
    exact ⟨number, member, named⟩
  · rintro ⟨number, member, rfl⟩
    exact laid.link_stands member

theorem descriptorDir_iff (what : Node) :
    node? (Path.locate root.path.parts ++ [Utf8.encode pid.text, Utf8.encode "fd"]) files.tree =
        some what <->
      .addProcess pid ∈ steps ∧ what = .directory := by
  rw [laid.directory_iff fresh (List.cons_ne_nil _ _) fun step => step.leaves_descriptors pid,
    exists_eq_right]

/-- A numbered name leads to a link if that link was added under the number.
A plain file whose name is a number leads to none. -/
theorem readLink_iff {name : Bytes} {number : UInt32} (numbered : Decimal.ofName? name = some number)
    (target : Bytes) :
    files.readLink ((root.descriptorDir pid).join ⟨name⟩) = .ok target <->
      .addDescriptor pid number target ∈ steps ∧
        name = Utf8.encode (Decimal.text number.toNat) := by
  constructor
  · intro read
    have descends := descends_descriptor root pid
      ((Decimal.ofName?_eq_some_iff name number).mp numbered).isName
    have clear := (laid.clear_process fresh pid).concat fun what stands =>
      ((laid.descriptorDir_iff fresh pid what).mp stands).2
    have stands := link_of_readLink laid.tidy laid.rooted descends clear read
    rcases (laid.link_iff fresh pid name target).mp stands with ⟨other, member, rfl⟩
    rw [Decimal.ofName?_encode_text, Option.some.injEq] at numbered
    exact numbered ▸ ⟨member, rfl⟩
  · rintro ⟨member, rfl⟩
    exact readLink_of_link laid.tidy laid.rooted (laid.leads_descriptor fresh pid number)
      (laid.link_stands member)

/-- A descriptor is listed from the entry that its number names. -/
theorem name_of_listed {name : Bytes} {descriptor : Descriptor}
    (listed : Descriptor.ofName? files (root.descriptorDir pid) name = some descriptor) :
    name = Utf8.encode (Decimal.text descriptor.number.toNat) := by
  rcases Descriptor.ofName?_eq_some_iff.mp listed with ⟨number, numbered, target, read, rfl⟩
  exact ((laid.readLink_iff fresh pid numbered target).mp read).2

theorem enumerate_descriptors (added : .addProcess pid ∈ steps) :
    Exists fun listed : List Descriptor => Descriptor.enumerate files root pid = .ok listed ∧
      listed.Perm (steps.filterMap (Step.descriptor? pid)) := by
  have stands := (laid.descriptorDir_iff fresh pid .directory).mpr ⟨added, rfl⟩
  rcases list_of_directory laid.tidy laid.rooted (laid.leads_descriptorDir fresh pid) stands
    with ⟨names, listed, distinct, held⟩
  refine ⟨_, Descriptor.enumerate_of_list listed, ?_⟩
  have single : (names.filterMap (Descriptor.ofName? files (root.descriptorDir pid))).Nodup := by
    apply distinct.filterMap
    intro name other descriptor here there
    rw [laid.name_of_listed fresh pid here, laid.name_of_listed fresh pid there]
  apply (List.perm_ext_iff_of_nodup single (laid.nodup_descriptors pid)).mpr
  intro descriptor
  rw [Step.mem_descriptors_iff, List.mem_filterMap]
  simp only [Descriptor.ofName?_eq_some_iff]
  constructor
  · rintro ⟨name, _, number, numbered, target, read, built⟩
    exact ⟨number, target, ((laid.readLink_iff fresh pid numbered target).mp read).1, built⟩
  · rintro ⟨number, target, member, built⟩
    have numbered := Decimal.ofName?_encode_text number
    exact ⟨_, (held _).mpr ⟨_, laid.link_stands member⟩, number, numbered, target,
      (laid.readLink_iff fresh pid numbered target).mpr ⟨member, rfl⟩, built⟩

theorem enumerate_descriptors_missing (never : .addProcess pid ∉ steps) :
    Descriptor.enumerate files root pid = .error (.processNotFound pid) := by
  have missing : files.list (root.descriptorDir pid) = .error (.ofSystem .noSuchEntry) :=
    laid.list_missing_processFile fresh pid (laid.leads_descriptorDir fresh pid)
      fun what stands => never ((laid.descriptorDir_iff fresh pid what).mp stands).1
  exact Descriptor.enumerate_of_refused missing

/-! ### Threads -/

theorem taskDir_iff (what : Node) :
    node? (Path.locate root.path.parts ++ [Utf8.encode pid.text, Utf8.encode "task"]) files.tree =
        some what <->
      (.addProcess pid ∈ steps ∨ steps.filterMap (Step.thread? pid) ≠ []) ∧ what = .directory := by
  rw [laid.directory_iff fresh (List.cons_ne_nil _ _) fun step => step.leaves_threads pid]
  apply and_congr_left'
  constructor
  · rintro ⟨step, member, rfl | ⟨tid, given⟩⟩
    · exact Or.inl member
    · exact Or.inr (List.ne_nil_of_mem (List.mem_filterMap.mpr ⟨step, member, given⟩))
  · rintro (process | threads)
    · exact ⟨_, process, Or.inl rfl⟩
    · rcases List.exists_mem_of_ne_nil _ threads with ⟨tid, inside⟩
      rcases List.mem_filterMap.mp inside with ⟨step, member, given⟩
      exact ⟨step, member, Or.inr ⟨tid, given⟩⟩

theorem thread_iff (name : Bytes) :
    (Exists fun what : Node =>
      node? (Path.locate root.path.parts ++ [Utf8.encode pid.text, Utf8.encode "task", name]) files.tree =
        some what) <->
      Exists fun tid : ThreadId => tid ∈ steps.filterMap (Step.thread? pid) ∧
        name = Utf8.encode tid.text := by
  simp only [laid.directory_iff fresh (List.cons_ne_nil _ _) fun step => step.leaves_thread pid name,
    exists_and_left, exists_eq, and_true]
  constructor
  · rintro ⟨step, member, tid, given, named⟩
    exact ⟨tid, List.mem_filterMap.mpr ⟨step, member, given⟩, named⟩
  · rintro ⟨tid, inside, named⟩
    rcases List.mem_filterMap.mp inside with ⟨step, member, given⟩
    exact ⟨step, member, tid, given, named⟩

/-- A file of a thread holds what was given for it last. -/
theorem read_taskFile (tid : ThreadId) {file : Bytes} (given : Step -> Option Bytes)
    (leads : Leads root.path (root.taskFile pid tid ⟨file⟩)
      [Utf8.encode pid.text, Utf8.encode "task", Utf8.encode tid.text, file])
    (each : forall step : Step,
      step.leaves [Utf8.encode pid.text, Utf8.encode "task", Utf8.encode tid.text, file] =
        (given step).map .file) :
    (files.read (root.taskFile pid tid ⟨file⟩)).toOption = (steps.filterMap given).getLast? := by
  have stands := laid.stands fresh (List.cons_ne_nil (Utf8.encode pid.text)
    [Utf8.encode "task", Utf8.encode tid.text, file])
  rw [show Step.leaves _ = _ from funext each, ← List.map_filterMap, List.getLast?_map] at stands
  cases last : (steps.filterMap given).getLast? with
  | some content =>
      rw [last] at stands
      rw [read_of_file laid.tidy laid.rooted leads stands]
      rfl
  | none =>
      rw [last] at stands
      have clear : Clear (Path.locate root.path.parts)
          [Utf8.encode pid.text, Utf8.encode "task", Utf8.encode tid.text, file] files.tree := by
        refine (((laid.clear_process fresh pid).concat ?_).concat ?_).concat ?_
        · exact fun what stands => ((laid.taskDir_iff fresh pid what).mp stands).2
        · exact fun what stands => ((laid.directory_iff fresh (List.cons_ne_nil _ _)
            (fun step => step.leaves_thread pid (Utf8.encode tid.text)) what).mp stands).2
        · intro what found
          cases stands.symm.trans found
      rw [FileSystem.read, find_missing laid.tidy laid.rooted leads clear stands]
      rfl

theorem read_thread (tid : ThreadId) : Thread.read files root pid tid = laidThread pid steps tid := by
  have name := laid.read_taskFile fresh pid tid (Step.threadName? pid tid)
    (laid.leads_taskFile fresh pid tid (by decide) ⟨by decide, by decide⟩)
    fun step => step.leaves_threadName pid tid
  have status := laid.read_taskFile fresh pid tid (Step.threadStatus? pid tid)
    (laid.leads_taskFile fresh pid tid (by decide) ⟨by decide, by decide⟩)
    fun step => step.leaves_threadStatus pid tid
  change (files.read (root.threadNameFile pid tid)).toOption = _ at name
  change (files.read (root.threadStatusFile pid tid)).toOption = _ at status
  unfold Thread.read Thread.readName Thread.readState laidThread
  rw [← name, ← status]
  cases files.read (root.threadNameFile pid tid) <;>
    cases files.read (root.threadStatusFile pid tid) <;> rfl

theorem enumerate_threads
    (made : .addProcess pid ∈ steps ∨ steps.filterMap (Step.thread? pid) ≠ []) :
    Exists fun listed : List Thread => Thread.enumerate files root pid = .ok listed ∧
      listed.Perm ((steps.filterMap (Step.thread? pid)).dedup.map (laidThread pid steps)) := by
  have stands := (laid.taskDir_iff fresh pid .directory).mpr ⟨made, rfl⟩
  rcases list_of_directory laid.tidy laid.rooted (laid.leads_taskDir fresh pid) stands
    with ⟨names, listed, distinct, held⟩
  have member (name : Bytes) := (held name).trans (laid.thread_iff fresh pid name)
  have canonical := map_numbers fun name inside =>
    ((member name).mp inside).imp fun tid given => given.2
  have single : (Thread.numbers names).Nodup := by
    apply List.Nodup.of_map
    rw [canonical]
    exact distinct
  refine ⟨_, Thread.enumerate_of_list listed, ?_⟩
  rw [List.map_congr_left fun tid _ => laid.read_thread fresh pid tid]
  apply List.Perm.map
  apply (List.perm_ext_iff_of_nodup single (List.nodup_dedup _)).mpr
  intro tid
  rw [List.mem_dedup]
  constructor
  · intro inside
    have named := canonical ▸ List.mem_map_of_mem inside
    rcases (member _).mp named with ⟨other, given, same⟩
    exact ThreadId.encode_text_inj.mp same ▸ given
  · intro given
    have named := (member _).mpr ⟨tid, given, rfl⟩
    rw [← canonical] at named
    rcases List.mem_map.mp named with ⟨other, inside, same⟩
    exact ThreadId.encode_text_inj.mp same ▸ inside

theorem enumerate_threads_missing (never : .addProcess pid ∉ steps)
    (alone : steps.filterMap (Step.thread? pid) = []) :
    Thread.enumerate files root pid = .error (.processNotFound pid) := by
  have missing : files.list (root.taskDir pid) = .error (.ofSystem .noSuchEntry) := by
    apply laid.list_missing_processFile fresh pid (laid.leads_taskDir fresh pid)
    intro what stands
    rcases ((laid.taskDir_iff fresh pid what).mp stands).1 with process | threads
    · exact never process
    · exact threads alone
  exact Thread.enumerate_of_refused missing

end Laid

/-! ## The history of a process -/

/-- Steps on a fresh root that all succeed are read back for every process.
The status is the one that was written last.  The descriptors are those that
were added, and a plain file among them is none.  The threads are those that
were given, each once, with the name and the state that they were given last.
A process that has not got what is asked for is reported as not found. -/
theorem build_read_back {root : ProcRoot} (fresh : FreshRoot root) {steps : List Step}
    (lay : forall step, step ∈ steps -> step.LaysOut) {files : FileSystem}
    (built : build root steps = some files.tree) (pid : ProcessId) :
    (Status.read files root pid =
      match (steps.filterMap (Step.status? pid)).getLast? with
      | some content => .ok (Status.parse pid content)
      | none => .error (.processNotFound pid)) ∧
    (.addProcess pid ∈ steps ->
      Exists fun listed : List Descriptor => Descriptor.enumerate files root pid = .ok listed ∧
        listed.Perm (steps.filterMap (Step.descriptor? pid))) ∧
    (.addProcess pid ∉ steps ->
      Descriptor.enumerate files root pid = .error (.processNotFound pid)) ∧
    (.addProcess pid ∈ steps ∨ steps.filterMap (Step.thread? pid) ≠ [] ->
      Exists fun listed : List Thread => Thread.enumerate files root pid = .ok listed ∧
        listed.Perm ((steps.filterMap (Step.thread? pid)).dedup.map (laidThread pid steps))) ∧
    (.addProcess pid ∉ steps -> steps.filterMap (Step.thread? pid) = [] ->
      Thread.enumerate files root pid = .error (.processNotFound pid)) := by
  have laid := laid_of_build lay built
  exact ⟨laid.read_status fresh pid, laid.enumerate_descriptors fresh pid,
    laid.enumerate_descriptors_missing fresh pid, laid.enumerate_threads fresh pid,
    laid.enumerate_threads_missing fresh pid⟩

namespace Sample

/-- Two processes.  The first has a socket, a plain file under a number, a
status that is written twice and a thread that is given twice; of the second
there is a thread alone. -/
def history : List Step :=
  [.addProcess ⟨7⟩,
    .addDescriptor ⟨7⟩ 3 (Utf8.encode "socket:[42]"),
    .addPlainFile ⟨7⟩ (Utf8.encode "04"),
    .writeStatus ⟨7⟩ (Utf8.encode "Name:\ta\n"),
    .addThread ⟨7⟩ ⟨7⟩ (some (Utf8.encode "main\n")) (some (Utf8.encode "State:\tR\n")),
    .addThread ⟨9⟩ ⟨10⟩ none none,
    .writeTcpTable [],
    .addThread ⟨7⟩ ⟨7⟩ none (some (Utf8.encode "State:\tS\n")),
    .writeStatus ⟨7⟩ (Utf8.encode "Name:\tb\n")]

end Sample

theorem build_read_back_sample :
    Exists fun tree : FileTree => build .standard Sample.history = some tree ∧
      Status.read tree .standard ⟨7⟩ = .ok { Status.empty ⟨7⟩ with name := "b" } ∧
      Descriptor.enumerate tree .standard ⟨7⟩ = .ok [.ofTarget 3 "socket:[42]"] ∧
      Thread.enumerate tree .standard ⟨7⟩ = .ok [⟨⟨7⟩, "main", .sleeping⟩] ∧
      Status.read tree .standard ⟨9⟩ = .error (.processNotFound ⟨9⟩) ∧
      Descriptor.enumerate tree .standard ⟨9⟩ = .error (.processNotFound ⟨9⟩) ∧
      Thread.enumerate tree .standard ⟨9⟩ = .ok [⟨⟨10⟩, "???", .unknown⟩] := by
  have fresh : FreshRoot .standard := ⟨rfl, by decide⟩
  have lay : forall step, step ∈ Sample.history -> step.LaysOut := by
    simp +decide [Sample.history, Step.LaysOut]
  rcases Option.isSome_iff_exists.mp (show (build .standard Sample.history).isSome = true by decide)
    with ⟨tree, built⟩
  have made : build .standard Sample.history = some (FileSystem.mk tree none).tree := built
  have first := build_read_back fresh lay made ⟨7⟩
  have second := build_read_back fresh lay made ⟨9⟩
  have status : Status.parse ⟨7⟩ (Utf8.encode "Name:\tb\n") =
      { Status.empty ⟨7⟩ with name := "b" } := by decide +kernel
  have descriptors : Sample.history.filterMap (Step.descriptor? ⟨7⟩) =
      [.ofTarget 3 (Utf8.decodeLossy (Utf8.encode "socket:[42]"))] := rfl
  have threads : (Sample.history.filterMap (Step.thread? ⟨7⟩)).dedup.map
      (laidThread ⟨7⟩ Sample.history) = [⟨⟨7⟩, "main", .sleeping⟩] := by decide +kernel
  have others : (Sample.history.filterMap (Step.thread? ⟨9⟩)).dedup.map
      (laidThread ⟨9⟩ Sample.history) = [⟨⟨10⟩, "???", .unknown⟩] := rfl
  have absent : .addProcess ⟨9⟩ ∉ Sample.history := by
    simp [Sample.history]
  rcases first.2.1 List.mem_cons_self with ⟨listed, enumerated, same⟩
  rw [descriptors, List.perm_singleton, Utf8.decodeLossy_encode] at same
  rcases first.2.2.2.1 (Or.inl List.mem_cons_self) with ⟨running, started, alike⟩
  rw [threads, List.perm_singleton] at alike
  rcases second.2.2.2.1 (Or.inr (List.cons_ne_nil _ _)) with ⟨lone, found, only⟩
  rw [others, List.perm_singleton] at only
  exact ⟨tree, built, first.1.trans (congrArg Except.ok status), same ▸ enumerated,
    alike ▸ started, second.1, second.2.2.1 absent, only ▸ found⟩

end FileTree
end ProcInspection
