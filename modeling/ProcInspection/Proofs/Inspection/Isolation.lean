import ProcInspection.Proofs.FileSystem.Footprint
import ProcInspection.Proofs.FileTree.Change
import ProcInspection.Proofs.Inspection
import ProcInspection.Proofs.Path.Components

namespace ProcInspection

/-!
What a report depends on.

Two runs are compared here.  Each section of a report depends on the reads of
its own and on no others, so whatever else goes wrong, or is different, in one
of two trees cannot be seen in the section.  The sockets depend on the tables
only if some link leads to a socket.

What the reads depend on is what their walks from the root turn to.  Where no
link stands on their way, none of them enters the directory of another process,
and nothing that happens there changes a report.  A link can lead there, and the
connection tables are a place where there usually is one; then what the other
process has may well be seen.
-/

/-- The links of a process read the same in two trees.  Only names that are
numbers are asked for. -/
structure SameLinks (one other : FileSystem) (root : ProcRoot) (pid : ProcessId) : Prop where
  listed : one.list (root.descriptorDir pid) = other.list (root.descriptorDir pid)
  linked : forall names, one.list (root.descriptorDir pid) = .ok names -> forall name,
    name ∈ names -> Decimal.IsNumberName name ->
      one.readLink ((root.descriptorDir pid).join ⟨name⟩) =
        other.readLink ((root.descriptorDir pid).join ⟨name⟩)

/-- The files of the listed threads, looked up under the number of each, read
the same in two trees. -/
structure SameThreadFiles (one other : FileSystem) (root : ProcRoot) (pid : ProcessId) : Prop where
  listed : one.list (root.taskDir pid) = other.list (root.taskDir pid)
  named : forall names, one.list (root.taskDir pid) = .ok names -> forall tid,
    tid ∈ Thread.numbers names ->
      one.read (root.threadNameFile pid tid) = other.read (root.threadNameFile pid tid)
  stated : forall names, one.list (root.taskDir pid) = .ok names -> forall tid,
    tid ∈ Thread.numbers names ->
      one.read (root.threadStatusFile pid tid) = other.read (root.threadStatusFile pid tid)

/-- Both connection tables read the same in two trees. -/
structure SameTables (one other : FileSystem) (root : ProcRoot) : Prop where
  tcp : one.read root.tcpTable = other.read root.tcpTable
  udp : one.read root.udpTable = other.read root.udpTable

namespace Inspection

variable {one other : FileSystem} {root : ProcRoot} {pid process : ProcessId}

/-! ## The reads of each section -/

theorem status_congr (same : one.read (root.statusFile pid) = other.read (root.statusFile pid)) :
    Status.read one root pid = Status.read other root pid := by
  unfold Status.read
  rw [same]

theorem descriptors_congr (same : SameLinks one other root pid) :
    Descriptor.enumerate one root pid = Descriptor.enumerate other root pid := by
  unfold Descriptor.enumerate
  rw [← same.listed]
  cases listed : one.list (root.descriptorDir pid) with
  | error cause => rfl
  | ok names =>
      have entries : Descriptor.readEntries one (root.descriptorDir pid) names =
          Descriptor.readEntries other (root.descriptorDir pid) names := by
        unfold Descriptor.readEntries
        apply List.filterMap_congr
        intro name member
        cases number : Decimal.ofName? name with
        | none => rfl
        | some value =>
            have plain := (Decimal.isNumberName_iff name).mpr ⟨value, number⟩
            rw [Option.map_some, Option.map_some, Descriptor.readEntry, Descriptor.readEntry,
              same.linked names listed name member plain]
      simp only [entries]

theorem threads_congr (same : SameThreadFiles one other root pid) :
    Thread.enumerate one root pid = Thread.enumerate other root pid := by
  unfold Thread.enumerate
  rw [← same.listed]
  cases listed : one.list (root.taskDir pid) with
  | error cause => rfl
  | ok names =>
      have read : (Thread.numbers names).map (Thread.read one root pid) =
          (Thread.numbers names).map (Thread.read other root pid) := by
        apply List.map_congr_left
        intro tid member
        unfold Thread.read Thread.readName Thread.readState
        rw [same.named names listed tid member, same.stated names listed tid member]
      simp only [read]

theorem correlate_congr (same : SameTables one other root) (descriptors : List Descriptor) :
    Ownership.correlate one root descriptors = Ownership.correlate other root descriptors := by
  unfold Ownership.correlate Ownership.rowsFor ConnectionTable.read FileSystem.readText
  rw [same.tcp, same.udp]

theorem sockets_congr (links : SameLinks one other root pid) (tables : SameTables one other root) :
    Ownership.socketsOf one root pid = Ownership.socketsOf other root pid := by
  unfold Ownership.socketsOf
  rw [descriptors_congr links]
  cases Descriptor.enumerate other root pid with
  | error failure => rfl
  | ok descriptors => exact correlate_congr tables descriptors

/-- Without a link to a socket the tables do not matter. -/
theorem sockets_congr_of_idle (links : SameLinks one other root pid)
    (idle : forall inode, ¬ Ownership.OwnsSocket one root pid inode) :
    Ownership.socketsOf one root pid = Ownership.socketsOf other root pid := by
  have idleToo : forall inode, ¬ Ownership.OwnsSocket other root pid inode := by
    rintro inode ⟨nonzero, names, listed, name, member, plain, target, read, socket⟩
    rw [← links.listed] at listed
    rw [← links.linked names listed name member plain] at read
    exact idle inode ⟨nonzero, names, listed, name, member, plain, target, read, socket⟩
  cases listed : one.list (root.descriptorDir pid) with
  | error cause =>
      rw [Ownership.socketsOf_unlisted listed,
        Ownership.socketsOf_unlisted (links.listed ▸ listed)]
  | ok names =>
      rw [Ownership.socketsOf_idle listed idle,
        Ownership.socketsOf_idle (links.listed ▸ listed) idleToo]

/-! ## Reads that spare a way -/

/-- What a report asks of the descriptors of a process never turns to a way. -/
structure SparesLinks (files : FileSystem) (here : FileTree.Arrival) (root : ProcRoot)
    (pid : ProcessId) (way : List Bytes) : Prop where
  listed : here.Overlooks [Utf8.encode pid.text, Utf8.encode "fd"] way
  linked : forall names, files.list (root.descriptorDir pid) = .ok names -> forall name,
    name ∈ names -> Decimal.IsNumberName name ->
      here.Avoids false [Utf8.encode pid.text, Utf8.encode "fd", name] way

/-- Nor does what it asks of the threads. -/
structure SparesThreadFiles (files : FileSystem) (here : FileTree.Arrival) (root : ProcRoot)
    (pid : ProcessId) (way : List Bytes) : Prop where
  listed : here.Overlooks [Utf8.encode pid.text, Utf8.encode "task"] way
  files : forall names, files.list (root.taskDir pid) = .ok names -> forall tid,
    tid ∈ Thread.numbers names -> forall file : TaskFile,
      here.Avoids true [Utf8.encode pid.text, Utf8.encode "task", Utf8.encode tid.text,
        Utf8.encode file.name] way

/-- Nor what it asks of the tables. -/
def SparesTables (here : FileTree.Arrival) (way : List Bytes) : Prop :=
  forall protocol : Protocol,
    here.Avoids true [Utf8.encode "net", Utf8.encode protocol.name] way

/-- What a report asks behind the status never turns to a way.  Threads are
asked for only if they are wanted, and tables only if there is a socket. -/
structure Spares (files : FileSystem) (here : FileTree.Arrival) (root : ProcRoot) (pid : ProcessId)
    (options : InspectOptions) (way : List Bytes) : Prop where
  links : SparesLinks files here root pid way
  threads : options.wantsThreads = true -> SparesThreadFiles files here root pid way
  tables : SparesTables here way ∨ forall inode, ¬ Ownership.OwnsSocket files root pid inode

section Spared

variable {here there : FileTree.Arrival} {way : List Bytes}
  (meets : FileSystem.Meets root.path one other here there)
  (alike : FileTree.AlikeBut way one.tree other.tree) (outside : ¬ way <+: here.place.names)

include meets alike outside

theorem sameLinks_of_spares (spares : SparesLinks one here root pid way) :
    SameLinks one other root pid where
  listed := FileSystem.list_alike meets alike outside (root.under_processFile pid (by decide))
    (List.cons_ne_nil _ _) spares.listed
  linked := by
    intro names listed name member number
    have directory : root.path.Under (root.descriptorDir pid) _ :=
      root.under_processFile pid (by decide)
    have plain : Path.IsName name := by
      rcases number with ⟨value, denotes, _⟩
      exact denotes.isName
    exact FileSystem.readLink_alike meets alike outside (directory.join plain)
      (List.cons_ne_nil _ _) (spares.linked names listed name member number)

theorem sameThreadFiles_of_spares (spares : SparesThreadFiles one here root pid way) :
    SameThreadFiles one other root pid := by
  have file (tid : ThreadId) (file : TaskFile) (avoids : here.Avoids true _ way) :
      one.read (root.taskFile pid tid (Path.ofText file.name)) =
        other.read (root.taskFile pid tid (Path.ofText file.name)) :=
    FileSystem.read_alike meets alike outside (root.under_taskFile pid tid file.isName_name)
      (List.cons_ne_nil _ _) avoids
  refine ⟨?_, ?_, ?_⟩
  · exact FileSystem.list_alike meets alike outside (root.under_processFile pid (by decide))
      (List.cons_ne_nil _ _) spares.listed
  · exact fun names listed tid member => file tid .comm (spares.files names listed tid member .comm)
  · exact fun names listed tid member =>
      file tid .status (spares.files names listed tid member .status)

theorem sameTables_of_spares (spares : SparesTables here way) : SameTables one other root where
  tcp := FileSystem.read_alike meets alike outside (root.under_netFile (by decide))
    (List.cons_ne_nil _ _) (spares .tcp)
  udp := FileSystem.read_alike meets alike outside (root.under_netFile (by decide))
    (List.cons_ne_nil _ _) (spares .udp)

end Spared

/-! ## Reads without links -/

/-- No link stands where a read of the report of a process would follow it. -/
structure StraightReads (tree : FileTree) (pid : ProcessId) : Prop where
  status : tree.Straight true [Utf8.encode pid.text, Utf8.encode "status"]
  descriptors : tree.Straight true [Utf8.encode pid.text, Utf8.encode "fd"]
  threads : tree.Straight true [Utf8.encode pid.text, Utf8.encode "task"]
  threadFile : forall (tid : ThreadId) (file : TaskFile),
    tree.Straight true [Utf8.encode pid.text, Utf8.encode "task", Utf8.encode tid.text,
      Utf8.encode file.name]
  table : forall protocol : Protocol,
    tree.Straight true [Utf8.encode "net", Utf8.encode protocol.name]

section Straight

variable {here : FileTree.Arrival} (within : FileTree.Place.Within one.tree here.place)
  (straight : StraightReads here.place.tree pid) (different : process ≠ pid)

include within straight different

theorem avoids_status :
    here.Avoids true [Utf8.encode pid.text, Utf8.encode "status"]
      (here.place.names ++ [Utf8.encode process.text]) := by
  apply FileTree.Arrival.avoids_of_straight within _ _ straight.status
  · exact List.forall_mem_cons.mpr ⟨pid.isName_text, List.forall_mem_singleton.mpr (by decide)⟩
  · exact fun same => different (ProcessId.encode_text_injective same).symm

theorem spares_of_straight (options : InspectOptions) :
    Spares one here root pid options (here.place.names ++ [Utf8.encode process.text]) := by
  have apart : Utf8.encode pid.text ≠ Utf8.encode process.text := fun same =>
    different (ProcessId.encode_text_injective same).symm
  refine ⟨⟨?_, ?_⟩, fun _ => ⟨?_, ?_⟩, Or.inl ?_⟩
  · apply FileTree.Arrival.overlooks_of_straight within _ apart straight.descriptors
    exact List.forall_mem_cons.mpr ⟨pid.isName_text, List.forall_mem_singleton.mpr (by decide)⟩
  · rintro names _ name _ ⟨value, denotes, _⟩
    apply FileTree.Arrival.avoids_of_straight within _ apart (straight.descriptors.concat name)
    exact List.forall_mem_cons.mpr ⟨pid.isName_text,
      List.forall_mem_cons.mpr ⟨by decide, List.forall_mem_singleton.mpr denotes.isName⟩⟩
  · apply FileTree.Arrival.overlooks_of_straight within _ apart straight.threads
    exact List.forall_mem_cons.mpr ⟨pid.isName_text, List.forall_mem_singleton.mpr (by decide)⟩
  · intro names _ tid _ file
    apply FileTree.Arrival.avoids_of_straight within _ apart (straight.threadFile tid file)
    exact List.forall_mem_cons.mpr ⟨pid.isName_text, List.forall_mem_cons.mpr ⟨by decide,
      List.forall_mem_cons.mpr ⟨tid.isName_text, List.forall_mem_singleton.mpr file.isName_name⟩⟩⟩
  · intro protocol
    apply FileTree.Arrival.avoids_of_straight within _ process.encode_text_ne_net.symm
      (straight.table protocol)
    exact List.forall_mem_cons.mpr ⟨by decide,
      List.forall_mem_singleton.mpr (RootPlace.isName_name protocol)⟩

end Straight

/-! ## Two runs -/

theorem run_congr (options : InspectOptions)
    (status : Status.read one root pid = Status.read other root pid)
    (descriptors : Descriptor.enumerate one root pid = Descriptor.enumerate other root pid)
    (threads : options.wantsThreads = true ->
      Thread.enumerate one root pid = Thread.enumerate other root pid)
    (sockets : Ownership.socketsOf one root pid = Ownership.socketsOf other root pid) :
    run one root pid options = run other root pid options := by
  have wanted : asked options.wantsThreads (Thread.enumerate one root pid) =
      asked options.wantsThreads (Thread.enumerate other root pid) := by
    by_cases wants : options.wantsThreads = true
    · rw [threads wants]
    · rw [asked, asked, if_neg wants, if_neg wants]
  unfold run
  simp only [socketsFor_enumerate]
  rw [status, descriptors, sockets, wanted]

/-- Past all that two trees differ in the reads have one outcome. -/
theorem run_spared (options : InspectOptions) {here there : FileTree.Arrival} {way : List Bytes}
    (meets : FileSystem.Meets root.path one other here there)
    (alike : FileTree.AlikeBut way one.tree other.tree) (outside : ¬ way <+: here.place.names)
    (status : one.read (root.statusFile pid) = other.read (root.statusFile pid))
    (spares : Spares one here root pid options way) :
    run one root pid options = run other root pid options := by
  have links := sameLinks_of_spares meets alike outside spares.links
  apply run_congr options (status_congr status) (descriptors_congr links)
  · intro wanted
    exact threads_congr (sameThreadFiles_of_spares meets alike outside (spares.threads wanted))
  · rcases spares.tables with tables | idle
    · exact sockets_congr links (sameTables_of_spares meets alike outside tables)
    · exact sockets_congr_of_idle links idle

theorem run_straight (options : InspectOptions) {here there : FileTree.Arrival}
    (meets : FileSystem.Meets root.path one other here there) (different : process ≠ pid)
    (alike : FileTree.AlikeBut (here.place.names ++ [Utf8.encode process.text]) one.tree other.tree)
    (straight : StraightReads here.place.tree pid) :
    run one root pid options = run other root pid options := by
  have within := FileSystem.resolve_within meets.first
  have outside := here.not_below_entry (Utf8.encode process.text)
  have status : one.read (root.statusFile pid) = other.read (root.statusFile pid) :=
    FileSystem.read_alike meets alike outside (root.under_processFile pid (by decide))
      (List.cons_ne_nil _ _) (avoids_status within straight different)
  exact run_spared options meets alike outside status
    (spares_of_straight within straight different options)

/-- Sections are isolated.  If the status file has one outcome in two trees,
both runs fail alike or both give a report, and then a section is the same in
both reports as soon as its own reads are.

If the root is one place of both trees and they differ at one way alone, both
runs have one result as long as no read from the root on turns to that way.  So
it is with whatever differs below the directory of another process, if no link
stands on the way of a read; then the status file need not even be known to have
one outcome. -/
theorem run_isolated (one other : FileSystem) (root : ProcRoot) (pid : ProcessId)
    (options : InspectOptions) :
    (one.read (root.statusFile pid) = other.read (root.statusFile pid) ->
      (forall failure, run one root pid options = .error failure <->
        run other root pid options = .error failure) ∧
      forall first second, run one root pid options = .ok first ->
        run other root pid options = .ok second ->
          (SameLinks one other root pid -> first.descriptors = second.descriptors ∧
            first.failures.descriptors = second.failures.descriptors) ∧
          (SameThreadFiles one other root pid -> first.threads = second.threads ∧
            first.failures.threads = second.failures.threads) ∧
          (SameLinks one other root pid ->
            (SameTables one other root ∨
              forall inode, ¬ Ownership.OwnsSocket one root pid inode) ->
                first.sockets = second.sockets ∧
                  first.failures.sockets = second.failures.sockets)) ∧
    forall here there, FileSystem.Meets root.path one other here there ->
      (forall way, FileTree.AlikeBut way one.tree other.tree -> ¬ way <+: here.place.names ->
        one.read (root.statusFile pid) = other.read (root.statusFile pid) ->
          Spares one here root pid options way ->
            run one root pid options = run other root pid options) ∧
      forall process, process ≠ pid ->
        FileTree.AlikeBut (here.place.names ++ [Utf8.encode process.text]) one.tree other.tree ->
          StraightReads here.place.tree pid ->
            run one root pid options = run other root pid options := by
  refine ⟨fun status => ⟨?_, ?_⟩, ?_⟩
  · intro failure
    rw [run_eq_error_iff, run_eq_error_iff, status_congr status]
  · intro first second ran ranToo
    have gathered := (run_eq_ok_iff options first).mp ran
    have also := (run_eq_ok_iff options second).mp ranToo
    refine ⟨?_, ?_, ?_⟩
    · intro links
      have recorded := gathered.descriptors
      rw [descriptors_congr links] at recorded
      exact recorded_unique recorded also.descriptors
    · intro files
      have recorded := gathered.threads
      rw [threads_congr files] at recorded
      exact recorded_unique recorded also.threads
    · intro links tables
      have sockets : Ownership.socketsOf one root pid = Ownership.socketsOf other root pid := by
        rcases tables with tables | idle
        · exact sockets_congr links tables
        · exact sockets_congr_of_idle links idle
      have recorded := gathered.sockets
      rw [sockets] at recorded
      exact recorded_unique recorded also.sockets
  · intro here there meets
    refine ⟨?_, ?_⟩
    · exact fun way alike outside status spares =>
        run_spared options meets alike outside status spares
    · exact fun process different alike straight =>
        run_straight options meets different alike straight

namespace Sample

/-- A process with one socket and one thread. -/
def observed : FileTree :=
  .directory
    [(Utf8.encode "status", .file (Utf8.encode "Name:\tx\n") false),
      (Utf8.encode "fd", .directory
        [(Utf8.encode "3", .link (Utf8.encode "socket:[42]") false)] .free),
      (Utf8.encode "task", .directory
        [(Utf8.encode "7", .directory
          [(Utf8.encode "comm", .file (Utf8.encode "x\n") false)] .free)] .free)]
    .free

/-- The tables, with a row for the socket or without one. -/
def tables (row : String) : FileTree :=
  .directory
    [(Utf8.encode "tcp", .file (Utf8.encode ("heading\n" ++ row)) false),
      (Utf8.encode "udp", .file (Utf8.encode "heading\n") false)]
    .free

def row : String :=
  "0: 0100007F:0050 00000000:0000 0A - - - 0 - 42\n"

/-- Another process, which has tables of its own. -/
def neighbour (opened : List (Bytes × FileTree)) (row : String) : Bytes × FileTree :=
  (Utf8.encode "9", .directory
    [(Utf8.encode "fd", .directory opened .free), (Utf8.encode "net", tables row)] .free)

/-- The common tables are those of the other process. -/
def shared : FileTree :=
  .link (Utf8.encode "9/net") false

/-- The observed process and the tables, with more behind them. -/
def places (net : FileTree) (more : List (Bytes × FileTree)) : FileTree :=
  .directory ((Utf8.encode "7", observed) :: (Utf8.encode "net", net) :: more) .free

def system (net : FileTree) (more : List (Bytes × FileTree)) : FileSystem where
  tree := .directory [(Utf8.encode "proc", places net more)] .free
  working := none

def arrival (net : FileTree) (more : List (Bytes × FileTree)) : FileTree.Arrival :=
  ⟨⟨places net more, [(Utf8.encode "proc", (system net more).tree)]⟩, FileSystem.linkLimit⟩

theorem meets (net : FileTree) (first second : List (Bytes × FileTree)) :
    FileSystem.Meets ProcRoot.standard.path (system net first) (system net second)
      (arrival net first) (arrival net second) :=
  ⟨rfl, rfl, rfl, rfl⟩

/-- The way of the other process, and what it has below. -/
def way (names : List String) : List Bytes :=
  [Utf8.encode "proc"] ++ [Utf8.encode "9"] ++ names.map Utf8.encode

theorem linkless_tables (row : String) : FileTree.Linkless (tables row) :=
  .directory (List.forall_mem_cons.mpr ⟨.file _ _, List.forall_mem_singleton.mpr (.file _ _)⟩)

theorem straightReads (more : List (Bytes × FileTree)) :
    StraightReads (places (tables row) more) ⟨7⟩ := by
  have process {names : List Bytes} (straight : observed.Straight true names) :
      (places (tables row) more).Straight true (Utf8.encode "7" :: names) :=
    .of_directory fun child held => Option.some.inj held ▸ straight
  have threads : FileTree.Linkless (.directory [(Utf8.encode "7", .directory
      [(Utf8.encode "comm", .file (Utf8.encode "x\n") false)] .free)] .free) := by
    refine .directory (List.forall_mem_singleton.mpr (.directory ?_))
    exact List.forall_mem_singleton.mpr (.file _ _)
  refine ⟨process ?_, process ?_, process ?_, fun tid file => process ?_, fun protocol => ?_⟩
  · exact .of_directory fun child held =>
      Option.some.inj held ▸ (FileTree.Linkless.file _ _).straight true []
  · exact .of_directory fun child held => Option.some.inj held ▸ .at_directory _ _
  · exact .of_directory fun child held => Option.some.inj held ▸ threads.straight true []
  · exact .of_directory fun child held => Option.some.inj held ▸ threads.straight true _
  · exact .of_directory fun child held =>
      Option.some.inj held ▸ (linkless_tables row).straight true _

/-- What the other process has open is on no way of a read. -/
theorem spares :
    Spares (system shared [neighbour [] row]) (arrival shared [neighbour [] row]) .standard ⟨7⟩ .full
      (way ["fd"]) := by
  refine ⟨⟨by decide, ?_⟩, fun _ => ⟨by decide, ?_⟩, Or.inl ?_⟩
  · intro names listed name member _
    rw [← Except.ok.inj (show .ok [Utf8.encode "3"] = Except.ok names from listed)] at member
    cases List.mem_singleton.mp member
    decide
  · intro names listed tid member file
    rw [← Except.ok.inj (show .ok [Utf8.encode "7"] = Except.ok names from listed)] at member
    cases List.mem_singleton.mp (show tid ∈ [ThreadId.mk 7] from member)
    cases file <;> decide
  · intro protocol
    cases protocol <;> decide

/-- The other process is closed to the reader, and then it ends. -/
def removal : List (List Bytes × FileTree.Change) :=
  [(way ["net"], .close true), (way [], .remove)]

end Sample

theorem run_isolated_neighbour :
    run (Sample.system (Sample.tables Sample.row) [Sample.neighbour [] Sample.row]) .standard ⟨7⟩
          .full =
        run (Sample.system (Sample.tables Sample.row) []) .standard ⟨7⟩ .full ∧
      run (Sample.system Sample.shared [Sample.neighbour [] Sample.row]) .standard ⟨7⟩ .full =
        run (Sample.system Sample.shared [Sample.neighbour
          [(Utf8.encode "4", .link (Utf8.encode "/tmp/a") false)] Sample.row]) .standard ⟨7⟩ .full := by
  have removed : Sample.removal.foldlM (fun tree change => change.2.apply change.1 tree)
      (Sample.system (Sample.tables Sample.row) [Sample.neighbour [] Sample.row]).tree =
        some (Sample.system (Sample.tables Sample.row) []).tree := rfl
  have opened : (FileTree.Change.link (Utf8.encode "/tmp/a")).apply (Sample.way ["fd"] ++ [Utf8.encode "4"])
      (Sample.system Sample.shared [Sample.neighbour [] Sample.row]).tree =
        some (Sample.system Sample.shared [Sample.neighbour
          [(Utf8.encode "4", .link (Utf8.encode "/tmp/a") false)] Sample.row]).tree := rfl
  have inside : forall change, change ∈ Sample.removal -> Sample.way [] <+: change.1 := by
    decide
  have alike := FileTree.Change.alikeBut_foldlM (List.cons_ne_nil _ _) inside removed
  have alikeToo := (FileTree.Change.alikeBut opened).widen (List.cons_ne_nil _ _)
  refine ⟨?_, ?_⟩
  · exact ((run_isolated _ _ .standard ⟨7⟩ .full).2 _ _ (Sample.meets _ _ _)).2 ⟨9⟩ (by decide) alike
      (Sample.straightReads _)
  · exact ((run_isolated _ _ .standard ⟨7⟩ .full).2 _ _ (Sample.meets _ _ _)).1 (Sample.way ["fd"]) alikeToo
      (by decide) rfl Sample.spares

/-- What is written below the directory of another process can be seen in a
report, where a link leads there. -/
theorem not_always_isolated :
    ¬ forall (files : FileSystem) (root : ProcRoot) (pid process : ProcessId)
      (options : InspectOptions) (here : FileTree.Arrival)
      (changes : List (List Bytes × FileTree.Change)) (next : FileTree),
      process ≠ pid -> files.resolve true root.path = .ok here ->
        (forall change, change ∈ changes ->
          here.place.names ++ [Utf8.encode process.text] <+: change.1) ->
          changes.foldlM (fun tree change => change.2.apply change.1 tree) files.tree = some next ->
            files.read (root.statusFile pid) =
                FileSystem.read ⟨next, files.working⟩ (root.statusFile pid) ->
              run files root pid options = run ⟨next, files.working⟩ root pid options := by
  intro always
  have written : [(Sample.way ["net", "tcp"], FileTree.Change.write (Utf8.encode "heading\n"))].foldlM
      (fun tree change => change.2.apply change.1 tree)
        (Sample.system Sample.shared [Sample.neighbour [] Sample.row]).tree =
      some (Sample.system Sample.shared [Sample.neighbour [] ""]).tree := rfl
  have inside : forall change,
      change ∈ [(Sample.way ["net", "tcp"], FileTree.Change.write (Utf8.encode "heading\n"))] ->
        Sample.way [] <+: change.1 := by
    intro change member
    cases List.mem_singleton.mp member
    decide
  have status : (Sample.system Sample.shared [Sample.neighbour [] Sample.row]).read
      (ProcRoot.standard.statusFile ⟨7⟩) =
        (Sample.system Sample.shared [Sample.neighbour [] ""]).read
          (ProcRoot.standard.statusFile ⟨7⟩) := rfl
  have resolved :=
    (Sample.meets Sample.shared [Sample.neighbour [] Sample.row] [Sample.neighbour [] ""]).first
  have same := always _ .standard ⟨7⟩ ⟨9⟩ .full _ _ _ (by decide) resolved inside written status
  have sockets := congrArg (fun result => result.map Report.sockets) same
  exact absurd sockets (by decide +kernel)

end Inspection
end ProcInspection
