import ProcInspection.Proofs.FileSystem.Entry
import ProcInspection.Proofs.FileTree.Way

namespace ProcInspection
namespace FileTree

/-!
What a run of steps leaves where.

The steps that lay out processes never take anything away.  After a run of them
there stands at each place below the root what the last of them left there that
left anything.
-/

/-! ## The places of a process -/

section Places

variable (root : ProcRoot) (pid : ProcessId)

theorem descends_processFile {file : Bytes} (plain : Path.IsName file) :
    Descends root.path (root.processFile pid ⟨file⟩) [Utf8.encode pid.text, file] := by
  refine ⟨root.under_processFile pid plain, ?_⟩
  simp [pid.isName_text, plain]

theorem descends_descriptor {name : Bytes} (plain : Path.IsName name) :
    Descends root.path ((root.descriptorDir pid).join ⟨name⟩)
      [Utf8.encode pid.text, Utf8.encode "fd", name] :=
  (descends_processFile root pid (by decide)).join plain

theorem descends_thread (tid : ThreadId) :
    Descends root.path ((root.taskDir pid).join (Path.ofText tid.text))
      [Utf8.encode pid.text, Utf8.encode "task", Utf8.encode tid.text] :=
  (descends_processFile root pid (by decide)).join tid.isName_text

theorem descends_taskFile (tid : ThreadId) {file : Bytes} (plain : Path.IsName file) :
    Descends root.path (root.taskFile pid tid ⟨file⟩)
      [Utf8.encode pid.text, Utf8.encode "task", Utf8.encode tid.text, file] :=
  (descends_thread root pid tid).join plain

theorem descends_netFile {file : Bytes} (plain : Path.IsName file) :
    Descends root.path ((root.path.join (Path.ofText "net")).join ⟨file⟩)
      [Utf8.encode "net", file] := by
  refine ⟨root.under_netFile plain, ?_⟩
  have net : Path.IsName (Utf8.encode "net") := by decide
  simp [net, plain]

end Places

namespace Step

/-- The steps that lay out processes and tables.  The name of a plain file is
its own choice, so it has to be one name. -/
def LaysOut : Step -> Prop
  | .addProcess _ => True
  | .addDescriptor _ _ _ => True
  | .addPlainFile _ name => Path.IsName name
  | .addThread _ _ _ _ => True
  | .writeStatus _ _ => True
  | .writeTcpTable _ => True
  | .writeUdpTable _ => True
  | _ => False

/-- What a step leaves at a place below the root. -/
def leaves (place : List Bytes) : Step -> Option Node
  | .addProcess pid =>
      (directories [Utf8.encode pid.text, Utf8.encode "task"] place).or
        (directories [Utf8.encode pid.text, Utf8.encode "fd"] place)
  | .addDescriptor pid number target =>
      only [Utf8.encode pid.text, Utf8.encode "fd", Utf8.encode (Decimal.text number.toNat)]
        (.link target) place
  | .addPlainFile pid name => only [Utf8.encode pid.text, Utf8.encode "fd", name] (.file []) place
  | .addThread pid tid name status =>
      let thread := [Utf8.encode pid.text, Utf8.encode "task", Utf8.encode tid.text]
      (status.bind fun content => only (thread ++ [Utf8.encode "status"]) (.file content) place).or
        ((name.bind fun content => only (thread ++ [Utf8.encode "comm"]) (.file content) place).or
          (directories thread place))
  | .writeStatus pid content =>
      (only [Utf8.encode pid.text, Utf8.encode "status"] (.file content) place).or
        (directories [Utf8.encode pid.text] place)
  | .writeTcpTable content =>
      (only [Utf8.encode "net", Utf8.encode "tcp"] (.file content) place).or
        (directories [Utf8.encode "net"] place)
  | .writeUdpTable content =>
      (only [Utf8.encode "net", Utf8.encode "udp"] (.file content) place).or
        (directories [Utf8.encode "net"] place)
  | _ => none

variable {root : ProcRoot} {tree next : FileTree}

/-- One step leaves what it says and nothing else. -/
theorem apply_lays (rooted : Rooted root.path tree) {step : Step} (lays : step.LaysOut)
    (done : step.apply root tree = some next) :
    Lays (Path.locate root.path.parts) (fun place => step.leaves place) tree next := by
  cases step with
  | addProcess pid =>
      rcases Option.bind_eq_some_iff.mp done with ⟨middle, first, second⟩
      have descriptors := makePath_lays rooted (descends_processFile root pid (by decide)) first
      exact descriptors.trans (makePath_lays (rooted.of_keeps descriptors.keeps)
        (descends_processFile root pid (by decide)) second)
  | addDescriptor pid number target =>
      exact linkAt_lays (descends_descriptor root pid (Decimal.denotes_text number.toNat).isName)
        (List.cons_ne_nil _ _) done
  | addPlainFile pid name =>
      exact writeAt_lays (descends_descriptor root pid lays) (List.cons_ne_nil _ _) done
  | addThread pid tid name status =>
      rcases Option.bind_eq_some_iff.mp done with ⟨named, first, last⟩
      rcases Option.bind_eq_some_iff.mp first with ⟨made, first, second⟩
      exact ((makePath_lays rooted (descends_thread root pid tid) first).trans
        (writeIfGiven_lays (descends_taskFile root pid tid (by decide)) (List.cons_ne_nil _ _)
          second)).trans
        (writeIfGiven_lays (descends_taskFile root pid tid (by decide)) (List.cons_ne_nil _ _) last)
  | writeStatus pid content =>
      exact writeBelow_lays (descends_processFile root pid (by decide)) (List.cons_ne_nil _ _)
        rooted done
  | writeTcpTable content =>
      exact writeBelow_lays (descends_netFile root (by decide)) (List.cons_ne_nil _ _) rooted done
  | writeUdpTable content =>
      exact writeBelow_lays (descends_netFile root (by decide)) (List.cons_ne_nil _ _) rooted done
  | makeDirectory path => exact lays.elim
  | write path content => exact lays.elim
  | symlink path target => exact lays.elim
  | delete path => exact lays.elim
  | deny path => exact lays.elim
  | allow path => exact lays.elim

end Step

/-! ## Runs -/

/-- A root that is an empty directory to begin with, and whose path leaves room
for the longest path below it that is read. -/
structure FreshRoot (root : ProcRoot) : Prop where
  empty : (ofRoot root).map (fun tree => FileSystem.list ⟨tree, none⟩ root.path) = some (.ok [])
  room : root.path.bytes.length + 34 < FileSystem.pathLimit

/-- A run of steps on a fresh root that has come to a tree. -/
inductive Laid (root : ProcRoot) : List Step -> FileTree -> Prop where
  | fresh {tree : FileTree} (made : ofRoot root = some tree) : Laid root [] tree
  | step {steps : List Step} {tree next : FileTree} {step : Step} (before : Laid root steps tree)
      (lays : step.LaysOut) (done : step.apply root tree = some next) :
      Laid root (steps ++ [step]) next

theorem laid_of_build {root : ProcRoot} {steps : List Step} {tree : FileTree}
    (lay : forall step, step ∈ steps -> step.LaysOut) (built : build root steps = some tree) :
    Laid root steps tree := by
  induction steps using List.reverseRecOn generalizing tree with
  | nil =>
      rcases Option.bind_eq_some_iff.mp built with ⟨start, made, same⟩
      exact Option.some.inj same ▸ .fresh made
  | append_singleton steps step ih =>
      rcases Option.bind_eq_some_iff.mp built with ⟨start, made, run⟩
      rw [List.foldlM_append] at run
      rcases Option.bind_eq_some_iff.mp run with ⟨middle, before, last⟩
      rw [List.foldlM_cons] at last
      rcases Option.bind_eq_some_iff.mp last with ⟨after, done, same⟩
      rw [Option.some.inj same] at done
      refine .step (ih (fun other member => lay other (List.mem_append_left _ member)) ?_)
        (lay step (List.mem_append_right _ List.mem_cons_self)) done
      rw [build, made]
      exact before

namespace Laid

variable {root : ProcRoot} {steps : List Step} {tree : FileTree}

theorem invariant (laid : Laid root steps tree) : Rooted root.path tree ∧ Tidy tree := by
  induction laid with
  | fresh made =>
      have rooted := rooted_of_makePath rfl made
      exact ⟨rooted.1, rooted.2 (.directory List.nodup_nil fun _ _ found => by cases found)⟩
  | step before lays done ih =>
      have left := Step.apply_lays ih.1 lays done
      exact ⟨ih.1.of_keeps left.keeps, left.tidy ih.2⟩

theorem rooted (laid : Laid root steps tree) : Rooted root.path tree :=
  laid.invariant.1

theorem tidy (laid : Laid root steps tree) : Tidy tree :=
  laid.invariant.2

/-- Below a fresh root there is nothing. -/
theorem empty_of_fresh (fresh : FreshRoot root) (made : ofRoot root = some tree)
    {place : List Bytes} (below : place ≠ []) :
    node? (Path.locate root.path.parts ++ place) tree = none := by
  have empty := fresh.empty
  rw [made, Option.map_some, Option.some.injEq] at empty
  rcases FileSystem.list_eq_ok_iff.mp empty with ⟨entries, condition, found, _, bare⟩
  have invariant := (Laid.fresh made).invariant
  have here : subtree? (Path.locate root.path.parts) tree = some (.directory entries condition) :=
    subtree_of_find invariant.2 invariant.1 found
  rw [List.map_eq_nil_iff.mp bare.symm] at here
  rw [node?_append, here, Option.bind_some]
  cases place with
  | nil => exact (below rfl).elim
  | cons name place => rfl

/-- The last step that leaves something at a place decides what stands there. -/
theorem stands (laid : Laid root steps tree) (fresh : FreshRoot root) {place : List Bytes}
    (below : place ≠ []) :
    node? (Path.locate root.path.parts ++ place) tree =
      (steps.filterMap (Step.leaves place)).getLast? := by
  induction laid with
  | fresh made => exact empty_of_fresh fresh made below
  | @step steps tree next step before lays done ih =>
      rw [(Step.apply_lays before.rooted lays done).stands, ih, List.filterMap_append,
        List.getLast?_append]
      congr 1
      cases left : step.leaves place <;> simp [left]

/-- What stands somewhere was left there by a step. -/
theorem exists_step (laid : Laid root steps tree) (fresh : FreshRoot root) {place : List Bytes}
    (below : place ≠ []) {what : Node}
    (here : node? (Path.locate root.path.parts ++ place) tree = some what) :
    Exists fun step : Step => step ∈ steps ∧ step.leaves place = some what := by
  rw [laid.stands fresh below] at here
  exact List.mem_filterMap.mp (List.mem_of_getLast? here)

/-- Where a step left something, something stands. -/
theorem exists_node (laid : Laid root steps tree) (fresh : FreshRoot root) {place : List Bytes}
    (below : place ≠ []) {step : Step} (member : step ∈ steps) {what : Node}
    (left : step.leaves place = some what) :
    Exists fun other : Node => node? (Path.locate root.path.parts ++ place) tree = some other := by
  rw [laid.stands fresh below]
  cases last : (steps.filterMap (Step.leaves place)).getLast? with
  | some other => exact ⟨other, rfl⟩
  | none =>
      have kept := List.mem_filterMap.mpr ⟨step, member, left⟩
      rw [List.getLast?_eq_none_iff.mp last] at kept
      cases kept

/-- Where every step leaves a directory or nothing, a directory stands if a step
leaves one. -/
theorem directory_iff (laid : Laid root steps tree) (fresh : FreshRoot root) {place : List Bytes}
    (below : place ≠ []) {makes : Step -> Prop}
    (leaves : forall (step : Step) (what : Node),
      step.leaves place = some what <-> makes step ∧ what = .directory) (what : Node) :
    node? (Path.locate root.path.parts ++ place) tree = some what <->
      (Exists fun step : Step => step ∈ steps ∧ makes step) ∧ what = .directory := by
  constructor
  · intro stands
    rcases laid.exists_step fresh below stands with ⟨step, member, left⟩
    rcases (leaves step what).mp left with ⟨made, directory⟩
    exact ⟨⟨step, member, made⟩, directory⟩
  · rintro ⟨⟨step, member, made⟩, rfl⟩
    have left := (leaves step .directory).mpr ⟨made, rfl⟩
    rcases laid.exists_node fresh below member left with ⟨what, stands⟩
    rcases laid.exists_step fresh below stands with ⟨other, _, again⟩
    rw [stands, ((leaves other what).mp again).2]

/-- A link stays as it was made. -/
theorem link_stands (laid : Laid root steps tree) {pid : ProcessId} {number : UInt32}
    {target : Bytes} (member : Step.addDescriptor pid number target ∈ steps) :
    node? (Path.locate root.path.parts ++ [Utf8.encode pid.text, Utf8.encode "fd",
      Utf8.encode (Decimal.text number.toNat)]) tree = some (.link target) := by
  induction laid with
  | fresh made => cases member
  | @step steps tree next step before lays done ih =>
      have left := Step.apply_lays before.rooted lays done
      rcases List.mem_append.mp member with earlier | last
      · exact left.keeps _ _ (ih earlier) fun content same => by cases same
      · rw [left.stands, ← List.mem_singleton.mp last, Step.leaves, only, if_pos rfl]
        rfl

/-- A descriptor is added under a number that it was not added under before. -/
theorem number_free (laid : Laid root steps tree) {pid : ProcessId} {number : UInt32}
    {target : Bytes} {next : FileTree}
    (done : (Step.addDescriptor pid number target).apply root tree = some next) (other : Bytes) :
    Step.addDescriptor pid number other ∉ steps := by
  intro member
  have free := linkAt_free
    (descends_descriptor root pid (Decimal.denotes_text number.toNat).isName)
    (List.cons_ne_nil _ _) done
  rw [laid.link_stands member] at free
  cases free

end Laid
end FileTree
end ProcInspection
