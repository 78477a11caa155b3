import ProcInspection.Connection.State
import ProcInspection.Proofs.Path

namespace ProcInspection

/-!
The places below a root, component by component.

Two texts may be one path: doubled separators, a separator at the end and dots on
the way make no difference.  What is left are the components, and by these paths
are compared.  Names that are joined to a path are its last components, so the
places of an inspection can be told apart by their names alone, below any root.
The number of a process is one component, and no other number begins with it,
whatever the texts of the two look like.
-/

namespace Path

/-- A component: the top of all files, the place where a relative path begins if that
is said, the directory above, or a name. -/
inductive Component where
  | top
  | here
  | above
  | name (bytes : Bytes)
  deriving DecidableEq

def Component.ofPart (part : Bytes) : Component :=
  if part = dotDot then .above else .name part

/-- What a path begins with, before its first name. -/
def opening (path : Path) : List Component :=
  if path.isAbsolute then [.top]
  else if path.parts.head? = some dot then [.here]
  else []

def components (path : Path) : List Component :=
  path.opening ++ (path.parts.filter fun part => part ≠ dot).map Component.ofPart

theorem opening_of_under {base path : Path} {names : List Bytes} (under : Under base path names)
    (plain : forall name, name ∈ names -> IsName name) : path.opening = base.opening := by
  have first : path.parts.head? = some dot <-> base.parts.head? = some dot := by
    rw [under.parts]
    cases base.parts with
    | cons part parts => rfl
    | nil =>
        constructor
        · intro same
          exact ((plain dot (List.mem_of_head? same)).notDot rfl).elim
        · intro same
          cases same
  unfold opening
  rw [under.start]
  simp only [first]

/-- Names below a path are its last components. -/
theorem components_of_under {base path : Path} {names : List Bytes} (under : Under base path names)
    (plain : forall name, name ∈ names -> IsName name) :
    path.components = base.components ++ names.map Component.name := by
  have kept : names.filter (fun part => part ≠ dot) = names := by
    apply List.filter_eq_self.mpr
    intro name member
    exact decide_eq_true (plain name member).notDot
  have shown : names.map Component.ofPart = names.map Component.name := by
    apply List.map_congr_left
    intro name member
    exact if_neg (plain name member).notDotDot
  unfold components
  rw [opening_of_under under plain, under.parts, List.filter_append, List.map_append, kept, shown,
    List.append_assoc]

/-! ## Joining -/

/-- The rule of joining.  An absolute part stands alone, and so does any part behind
an empty path.  Behind all else there is one separator. -/
inductive Joins : Path -> Path -> Path -> Prop where
  | replaced {path part : Path} (absolute : part.isAbsolute = true) : Joins path part part
  | alone {part : Path} (relative : part.isAbsolute = false) : Joins ⟨[]⟩ part part
  | closed {before : Bytes} {part : Path} (relative : part.isAbsolute = false) :
      Joins ⟨before ++ [separator]⟩ part ⟨before ++ [separator] ++ part.bytes⟩
  | behind {before : Bytes} {last : UInt8} {part : Path} (relative : part.isAbsolute = false)
      (unclosed : last ≠ separator) :
      Joins ⟨before ++ [last]⟩ part ⟨before ++ [last] ++ separator :: part.bytes⟩

theorem needsSeparator_concat (before : Bytes) (last : UInt8) :
    (Path.mk (before ++ [last])).needsSeparator = decide (last ≠ separator) := by
  rw [needsSeparator, List.getLast?_concat]

theorem Joins.eq_join {path part joined : Path} (joins : Joins path part joined) :
    path.join part = joined := by
  unfold join
  cases joins with
  | replaced absolute => rw [absolute, if_pos rfl]
  | alone relative =>
      rw [relative]
      rfl
  | closed relative =>
      rw [relative, needsSeparator_concat]
      rfl
  | behind relative unclosed =>
      rw [relative, needsSeparator_concat, decide_eq_true unclosed]
      rfl

theorem exists_joins (path part : Path) : Exists fun joined : Path => Joins path part joined := by
  cases start : part.isAbsolute with
  | true => exact ⟨part, .replaced start⟩
  | false =>
      rcases List.eq_nil_or_concat' path.bytes with empty | ⟨before, last, whole⟩
      · have path_eq : path = ⟨[]⟩ := Path.ext empty
        rw [path_eq]
        exact ⟨part, .alone start⟩
      · have path_eq : path = ⟨before ++ [last]⟩ := Path.ext whole
        rw [path_eq]
        by_cases closed : last = separator
        · rw [closed]
          exact ⟨_, .closed start⟩
        · exact ⟨_, .behind start closed⟩

theorem join_eq_iff (path part joined : Path) :
    path.join part = joined <-> Joins path part joined := by
  constructor
  · rintro rfl
    rcases exists_joins path part with ⟨joined, joins⟩
    exact joins.eq_join.symm ▸ joins
  · exact Joins.eq_join

end Path

/-! ## The places of an inspection -/

/-- The files of a process that each of its threads has as well. -/
inductive TaskFile where
  | comm
  | status
  deriving DecidableEq

def TaskFile.name : TaskFile -> String
  | .comm => "comm"
  | .status => "status"

theorem TaskFile.encode_name_inj {file other : TaskFile} :
    Utf8.encode file.name = Utf8.encode other.name <-> file = other := by
  cases file <;> cases other <;> decide

theorem TaskFile.isName_name (file : TaskFile) : Path.IsName (Utf8.encode file.name) := by
  cases file <;> decide

/-- No such file is called like one of the two directories beside it. -/
theorem TaskFile.encode_name_ne (file : TaskFile) :
    Utf8.encode file.name ≠ Utf8.encode "fd" ∧ Utf8.encode file.name ≠ Utf8.encode "task" := by
  cases file <;> decide

/-- The directory of a process, or a place below it. -/
inductive ProcessPlace where
  | directory
  | ofProcess (file : TaskFile)
  | descriptors
  | threads
  | ofThread (tid : ThreadId) (file : TaskFile)
  deriving DecidableEq

namespace ProcessPlace

def path (root : ProcRoot) (pid : ProcessId) : ProcessPlace -> Path
  | .directory => root.processDir pid
  | .ofProcess file => root.processFile pid (Path.ofText file.name)
  | .descriptors => root.descriptorDir pid
  | .threads => root.taskDir pid
  | .ofThread tid file => root.taskFile pid tid (Path.ofText file.name)

/-- The names that lead there from the directory of the process. -/
def names : ProcessPlace -> List Bytes
  | .directory => []
  | .ofProcess file => [Utf8.encode file.name]
  | .descriptors => [Utf8.encode "fd"]
  | .threads => [Utf8.encode "task"]
  | .ofThread tid file => [Utf8.encode "task", Utf8.encode tid.text, Utf8.encode file.name]

theorem isName_names (place : ProcessPlace) :
    forall name, name ∈ place.names -> Path.IsName name := by
  cases place with
  | directory => exact List.forall_mem_nil _
  | ofProcess file => exact List.forall_mem_singleton.mpr file.isName_name
  | descriptors => exact List.forall_mem_singleton.mpr (by decide)
  | threads => exact List.forall_mem_singleton.mpr (by decide)
  | ofThread tid file =>
      simp only [names, List.forall_mem_cons]
      exact ⟨by decide, tid.isName_text, file.isName_name, List.forall_mem_nil _⟩

/-- The names lead from the directory of the process to the place. -/
theorem under_path (root : ProcRoot) (pid : ProcessId) (place : ProcessPlace) :
    root.path.Under (place.path root pid) (Utf8.encode pid.text :: place.names) := by
  have plain := place.isName_names
  cases place with
  | directory => exact Path.under_join pid.isName_text root.path
  | ofProcess file => exact root.under_processFile pid file.isName_name
  | descriptors => exact root.under_processFile pid (plain _ List.mem_cons_self)
  | threads => exact root.under_processFile pid (plain _ List.mem_cons_self)
  | ofThread tid file => exact root.under_taskFile pid tid file.isName_name

theorem names_injective : Function.Injective names := by
  have directories : Utf8.encode "fd" ≠ Utf8.encode "task" := by decide
  have descriptors : forall file : TaskFile, Utf8.encode file.name ≠ Utf8.encode "fd" :=
    fun file => file.encode_name_ne.1
  have threads : forall file : TaskFile, Utf8.encode file.name ≠ Utf8.encode "task" :=
    fun file => file.encode_name_ne.2
  intro place other same
  -- Places of one kind are told apart by what they are for, all others by a name.
  cases place <;> cases other <;>
    simp_all [names, TaskFile.encode_name_inj, ThreadId.encode_text_inj, directories.symm,
      (descriptors _).symm, (threads _).symm]

end ProcessPlace

/-- A place that an inspection may read, below any root. -/
inductive RootPlace where
  | ofProcess (pid : ProcessId) (place : ProcessPlace)
  | table (protocol : Protocol)
  deriving DecidableEq

namespace RootPlace

variable {root : ProcRoot}

def path (root : ProcRoot) : RootPlace -> Path
  | .ofProcess pid place => place.path root pid
  | .table .tcp => root.tcpTable
  | .table .udp => root.udpTable

/-- The names that lead there from the root. -/
def names : RootPlace -> List Bytes
  | .ofProcess pid place => Utf8.encode pid.text :: place.names
  | .table protocol => [Utf8.encode "net", Utf8.encode protocol.name]

theorem isName_name (protocol : Protocol) : Path.IsName (Utf8.encode protocol.name) := by
  cases protocol <;> decide

theorem under_path (root : ProcRoot) (place : RootPlace) :
    root.path.Under (place.path root) place.names := by
  cases place with
  | ofProcess pid place => exact place.under_path root pid
  | table protocol =>
      have plain := isName_name protocol
      cases protocol with
      | tcp => exact root.under_netFile plain
      | udp => exact root.under_netFile plain

theorem isName_names (place : RootPlace) : forall name, name ∈ place.names -> Path.IsName name := by
  cases place with
  | ofProcess pid place => exact List.forall_mem_cons.mpr ⟨pid.isName_text, place.isName_names⟩
  | table protocol =>
      refine List.forall_mem_cons.mpr ⟨by decide, ?_⟩
      exact List.forall_mem_singleton.mpr (isName_name protocol)

theorem components_path (root : ProcRoot) (place : RootPlace) :
    (place.path root).components =
      root.path.components ++ place.names.map Path.Component.name :=
  Path.components_of_under (place.under_path root) place.isName_names

/-- The first name tells the processes from each other and from the tables. -/
theorem names_injective : Function.Injective names := by
  intro place other same
  cases place with
  | ofProcess pid place =>
      cases other with
      | ofProcess process other =>
          rcases List.cons.inj same with ⟨owners, names⟩
          rw [ProcessId.encode_text_injective owners, ProcessPlace.names_injective names]
      | table protocol => exact (pid.encode_text_ne_net (List.cons.inj same).1).elim
  | table protocol =>
      cases other with
      | ofProcess process other =>
          exact (process.encode_text_ne_net (List.cons.inj same).1.symm).elim
      | table other =>
          rcases List.cons.inj same with ⟨_, protocols⟩
          cases protocol <;> cases other <;> first | rfl | exact absurd protocols (by decide)

theorem components_inj {place other : RootPlace} :
    (place.path root).components = (other.path root).components <-> place = other := by
  rw [components_path, components_path, List.append_cancel_left_eq]
  have single : Function.Injective Path.Component.name := fun _ _ => Path.Component.name.inj
  rw [single.list_map.eq_iff, names_injective.eq_iff]

theorem path_inj {place other : RootPlace} : place.path root = other.path root <-> place = other := by
  constructor
  · intro same
    exact components_inj.mp (congrArg Path.components same)
  · rintro rfl
    rfl

/-- The component behind the root is the number of the process. -/
theorem not_prefix_of_ne {pid process : ProcessId} (different : pid ≠ process)
    (place other : ProcessPlace) :
    ¬ ((ofProcess pid place).path root).components <+:
      ((ofProcess process other).path root).components := by
  rw [components_path, components_path, List.prefix_append_right_inj]
  intro passes
  have first := (List.cons_prefix_cons.mp passes).1
  exact different (ProcessId.encode_text_injective (Path.Component.name.inj first))

/-- The places of an inspection are different paths, below any root and however the
root is written.  Two of them are one path, component by component or as texts, only
if they are one place; and no path of a process begins with a path of another one.
All are made by joining, by its rule. -/
theorem places_apart (root : ProcRoot) :
    (forall place other : RootPlace,
      (place.path root).components = (other.path root).components <-> place = other) ∧
    (forall place other : RootPlace, place.path root = other.path root <-> place = other) ∧
    (forall (pid process : ProcessId) (place other : ProcessPlace), pid ≠ process ->
      ¬ (place.path root pid).components <+: (other.path root process).components) ∧
    forall path part joined : Path, path.join part = joined <-> Path.Joins path part joined := by
  refine ⟨?_, ?_, ?_, ?_⟩
  · intro place other
    exact components_inj
  · intro place other
    exact path_inj
  · intro pid process place other different
    exact not_prefix_of_ne different place other
  · intro path part joined
    exact Path.join_eq_iff path part joined

/-- The text of one number begins with that of the other, but their paths do not. -/
theorem places_apart_digits :
    (ProcessId.mk 1) ≠ ProcessId.mk 12 ∧
      (ProcessPlace.path ⟨Path.ofText "/proc//"⟩ ⟨1⟩ .directory).bytes <+:
        (ProcessPlace.path ⟨Path.ofText "/proc//"⟩ ⟨12⟩ .threads).bytes ∧
      ¬ (ProcessPlace.path ⟨Path.ofText "/proc//"⟩ ⟨1⟩ .directory).components <+:
        (ProcessPlace.path ⟨Path.ofText "/proc//"⟩ ⟨12⟩ .threads).components := by
  have different : (ProcessId.mk 1) ≠ ProcessId.mk 12 := by decide
  refine ⟨different, by decide +kernel, ?_⟩
  exact (places_apart ⟨Path.ofText "/proc//"⟩).2.2.1 ⟨1⟩ ⟨12⟩ .directory .threads different

end RootPlace
end ProcInspection
