import ProcInspection.Ownership
import ProcInspection.Proofs.Connection.Lines
import ProcInspection.Proofs.Failure
import ProcInspection.Proofs.FileSystem
import ProcInspection.Proofs.Task.Descriptor

namespace ProcInspection
namespace Ownership

/-!
The sockets of a process, from the files alone.

Owning a socket is said here in terms of the tree: a numbered link of the
process whose target is that socket, byte for byte.  The rows that a process
gets are the well-formed rows of the two tables whose socket it owns, and
nothing that stands beside them in a directory or a table can fail the answer.
It fails only where one of three reads does, and the first of them decides.
-/

variable {files : FileSystem} {root : ProcRoot} {pid : ProcessId}

/-- A process owns the socket of an inode if one of its numbered links leads
there.  Zero is the inode of no socket. -/
structure OwnsSocket (files : FileSystem) (root : ProcRoot) (pid : ProcessId) (inode : UInt64) :
    Prop where
  nonzero : inode ≠ 0
  linked : Exists fun names : List Bytes => files.list (root.descriptorDir pid) = .ok names ∧
    Exists fun name : Bytes => name ∈ names ∧ Decimal.IsNumberName name ∧
      Exists fun target : Bytes =>
        files.readLink ((root.descriptorDir pid).join ⟨name⟩) = .ok target ∧
          Descriptor.IsSocketTarget target inode

/-- The descriptors that a listing of names leads to. -/
def listedDescriptors (files : FileSystem) (root : ProcRoot) (pid : ProcessId) (names : List Bytes) :
    List Descriptor :=
  (Descriptor.readEntries files (root.descriptorDir pid) names).filterMap
    Descriptor.Entry.descriptor?

theorem mem_inodes_iff_ownsSocket {names : List Bytes}
    (listed : files.list (root.descriptorDir pid) = .ok names) (inode : UInt64) :
    inode ∈ Descriptor.inodes (listedDescriptors files root pid names) <->
      OwnsSocket files root pid inode := by
  unfold listedDescriptors
  rw [Descriptor.mem_inodes_listed_iff]
  constructor
  · rintro ⟨nonzero, linked⟩
    exact ⟨nonzero, names, listed, linked⟩
  · rintro ⟨nonzero, others, same, linked⟩
    rw [listed] at same
    rw [Except.ok.inj same]
    exact ⟨nonzero, linked⟩

instance (inode : UInt64) : Decidable (OwnsSocket files root pid inode) :=
  match listed : files.list (root.descriptorDir pid) with
  | .ok _ => decidable_of_iff _ (mem_inodes_iff_ownsSocket listed inode)
  | .error _ => isFalse fun owner => by
      rcases owner.linked with ⟨names, impossible, _⟩
      rw [listed] at impossible
      cases impossible

/-- The well-formed rows of a table after its heading whose socket the process
owns. -/
def ownedRows (files : FileSystem) (root : ProcRoot) (pid : ProcessId) (protocol : Protocol)
    (content : String) : List Connection :=
  (((ConnectionTable.lines content.toList).drop 1).filterMap (Connection.ofRow? protocol)).filter
    fun connection => OwnsSocket files root pid connection.inode

/-- A table that is read for the sockets of a process gives the rows it owns. -/
theorem read_eq_ownedRows {targets : List UInt64}
    (owned : forall inode, inode ∈ targets <-> OwnsSocket files root pid inode)
    (nonempty : targets ≠ []) (path : Path) (protocol : Protocol) :
    ConnectionTable.read files path protocol targets =
      match files.readText path with
      | .ok content => .ok (ownedRows files root pid protocol content)
      | .error cause => .error (.connectionTable path cause) := by
  have wanted : ConnectionTable.isWanted targets =
      fun connection => decide (OwnsSocket files root pid connection.inode) := by
    funext connection
    rw [Bool.eq_iff_iff, decide_eq_true_iff, ConnectionTable.isWanted_iff, owned,
      and_iff_right_iff_imp]
    exact OwnsSocket.nonzero
  simp only [ConnectionTable.read_of_asked nonempty, ConnectionTable.parse_eq_filter, wanted]
  rfl

/-! ## What the answer comes to, source by source -/

theorem socketsOf_unlisted {cause : IoFailure}
    (refused : files.list (root.descriptorDir pid) = .error cause) :
    socketsOf files root pid = .error (.ofProcessRead pid cause) := by
  unfold socketsOf Descriptor.enumerate
  rw [refused]

theorem socketsOf_listed {names : List Bytes}
    (listed : files.list (root.descriptorDir pid) = .ok names) :
    socketsOf files root pid =
      rowsFor files root (Descriptor.inodes (listedDescriptors files root pid names)) := by
  unfold socketsOf Descriptor.enumerate
  rw [listed]
  rfl

theorem socketsOf_idle {names : List Bytes}
    (listed : files.list (root.descriptorDir pid) = .ok names)
    (idle : forall inode, ¬ OwnsSocket files root pid inode) :
    socketsOf files root pid = .ok [] := by
  have empty : Descriptor.inodes (listedDescriptors files root pid names) = [] := by
    apply List.eq_nil_iff_forall_not_mem.mpr
    intro inode member
    exact idle inode ((mem_inodes_iff_ownsSocket listed inode).mp member)
  rw [socketsOf_listed listed, empty]
  rfl

/-- A process with a socket needs both tables, the stream table first. -/
theorem socketsOf_owner {inode : UInt64} (owner : OwnsSocket files root pid inode) :
    socketsOf files root pid =
      match files.readText root.tcpTable with
      | .error cause => .error (.connectionTable root.tcpTable cause)
      | .ok streams =>
          match files.readText root.udpTable with
          | .error cause => .error (.connectionTable root.udpTable cause)
          | .ok datagrams =>
              .ok (ownedRows files root pid .tcp streams ++ ownedRows files root pid .udp datagrams) := by
  rcases owner.linked with ⟨names, listed, _⟩
  have owned := mem_inodes_iff_ownsSocket listed
  have nonempty := List.ne_nil_of_mem ((owned inode).mpr owner)
  rw [socketsOf_listed listed]
  unfold rowsFor
  rw [List.isEmpty_eq_false_iff.mpr nonempty, if_neg Bool.false_ne_true,
    read_eq_ownedRows owned nonempty, read_eq_ownedRows owned nonempty]
  cases files.readText root.tcpTable with
  | error cause => rfl
  | ok streams =>
      cases files.readText root.udpTable with
      | error cause => rfl
      | ok datagrams => rfl

theorem socketsOf_joined {inode : UInt64} {streams datagrams : String}
    (owner : OwnsSocket files root pid inode) (tcp : files.readText root.tcpTable = .ok streams)
    (udp : files.readText root.udpTable = .ok datagrams) :
    socketsOf files root pid =
      .ok (ownedRows files root pid .tcp streams ++ ownedRows files root pid .udp datagrams) := by
  rw [socketsOf_owner owner, tcp]
  simp only
  rw [udp]

/-! ## The join -/

/-- With a socket to look for and text in both tables, the answer is exactly
the owned rows of the stream table in order, then those of the other.  A row is
there as often as the table has it, however many links lead to its socket. -/
theorem socketsOf_eq_ownedRows {streams datagrams : String}
    (owner : Exists fun inode : UInt64 => OwnsSocket files root pid inode)
    (tcp : files.read root.tcpTable = .ok (Utf8.encode streams))
    (udp : files.read root.udpTable = .ok (Utf8.encode datagrams)) :
    socketsOf files root pid =
      .ok (ownedRows files root pid .tcp streams ++ ownedRows files root pid .udp datagrams) := by
  rcases owner with ⟨inode, owner⟩
  exact socketsOf_joined owner (FileSystem.readText_eq_ok_iff.mpr tcp)
    (FileSystem.readText_eq_ok_iff.mpr udp)

namespace Sample

/-- A row of the pipe's number, one of the socket, one that breaks off. -/
def streams : String :=
  "heading\n0: 0100007F:0050 00000000:0000 0A - - - 0 - 43\n" ++
    "1: 0100007F:0050 00000000:0000 0A - - - 0 - 42\n2: 0100007F\n"

/-- A row of the socket twice, and one whose socket has no numbered link. -/
def datagrams : String :=
  "heading\n0: 0100007F:0035 00000000:0000 07 - - - 9 - 42\n" ++
    "0: 0100007F:0035 00000000:0000 07 - - - 9 - 42\n" ++
    "1: 00000000:0044 00000000:0000 07 - - - 9 - 44"

/-- A process with two links to one socket, a pipe and a name that is no
number. -/
def system : FileSystem where
  tree := .directory
      [(Utf8.encode "7", .directory
        [(Utf8.encode "fd", .directory
          [(Utf8.encode "3", .link (Utf8.encode "socket:[42]") false),
            (Utf8.encode "04", .link (Utf8.encode "socket:[042]") false),
            (Utf8.encode "5", .link (Utf8.encode "pipe:[43]") false),
            (Utf8.encode "x", .link (Utf8.encode "socket:[44]") false)] .free)] .free),
        (Utf8.encode "net", .directory
          [(Utf8.encode "tcp", .file (Utf8.encode streams) false),
            (Utf8.encode "udp", .file (Utf8.encode datagrams) false)] .free)]
      .free
  working := none

def mount : ProcRoot :=
  ⟨Path.ofText "/"⟩

def listener : Connection :=
  ⟨.tcp, ⟨⟨127, 0, 0, 1⟩, 80⟩, ⟨⟨0, 0, 0, 0⟩, 0⟩, .listen, 0, 42⟩

def resolver : Connection :=
  ⟨.udp, ⟨⟨127, 0, 0, 1⟩, 53⟩, ⟨⟨0, 0, 0, 0⟩, 0⟩, .close, 9, 42⟩

theorem ownedRows_streams : ownedRows system mount ⟨7⟩ .tcp streams = [listener] := by
  decide +kernel

theorem ownedRows_datagrams : ownedRows system mount ⟨7⟩ .udp datagrams = [resolver, resolver] := by
  decide +kernel

end Sample

theorem socketsOf_sample :
    (Exists fun inode : UInt64 => OwnsSocket Sample.system Sample.mount ⟨7⟩ inode) ∧
      Sample.system.read Sample.mount.tcpTable = .ok (Utf8.encode Sample.streams) ∧
      Sample.system.read Sample.mount.udpTable = .ok (Utf8.encode Sample.datagrams) ∧
      socketsOf Sample.system Sample.mount ⟨7⟩ =
        .ok [Sample.listener, Sample.resolver, Sample.resolver] := by
  have owner : Exists fun inode : UInt64 => OwnsSocket Sample.system Sample.mount ⟨7⟩ inode :=
    ⟨42, by decide +kernel⟩
  have tcp : Sample.system.read Sample.mount.tcpTable = .ok (Utf8.encode Sample.streams) := rfl
  have udp : Sample.system.read Sample.mount.udpTable = .ok (Utf8.encode Sample.datagrams) := rfl
  refine ⟨owner, tcp, udp, ?_⟩
  rw [socketsOf_eq_ownedRows owner tcp udp, Sample.ownedRows_streams, Sample.ownedRows_datagrams]
  rfl

/-! ## The failures -/

/-- What the sockets of a process come to: the first case that applies. -/
inductive Verdict (files : FileSystem) (root : ProcRoot) (pid : ProcessId) :
    Except Failure (List Connection) -> Prop where
  | absent {cause : IoFailure} (refused : files.list (root.descriptorDir pid) = .error cause)
      (kind : cause.kind = .notFound) : Verdict files root pid (.error (.processNotFound pid))
  | denied {cause : IoFailure} (refused : files.list (root.descriptorDir pid) = .error cause)
      (kind : cause.kind = .permissionDenied) :
      Verdict files root pid (.error (.permissionDenied pid))
  | unlisted {cause : IoFailure} (refused : files.list (root.descriptorDir pid) = .error cause)
      (found : cause.kind ≠ .notFound) (allowed : cause.kind ≠ .permissionDenied) :
      Verdict files root pid (.error (.io cause))
  | idle {names : List Bytes} (listed : files.list (root.descriptorDir pid) = .ok names)
      (idle : forall inode, ¬ OwnsSocket files root pid inode) : Verdict files root pid (.ok [])
  | noStreams {inode : UInt64} {cause : IoFailure} (owner : OwnsSocket files root pid inode)
      (tcp : files.readText root.tcpTable = .error cause) :
      Verdict files root pid (.error (.connectionTable root.tcpTable cause))
  | noDatagrams {inode : UInt64} {streams : String} {cause : IoFailure}
      (owner : OwnsSocket files root pid inode)
      (tcp : files.readText root.tcpTable = .ok streams)
      (udp : files.readText root.udpTable = .error cause) :
      Verdict files root pid (.error (.connectionTable root.udpTable cause))
  | joined {inode : UInt64} {streams datagrams : String} (owner : OwnsSocket files root pid inode)
      (tcp : files.readText root.tcpTable = .ok streams)
      (udp : files.readText root.udpTable = .ok datagrams) :
      Verdict files root pid
        (.ok (ownedRows files root pid .tcp streams ++ ownedRows files root pid .udp datagrams))

theorem eq_of_verdict {result : Except Failure (List Connection)}
    (verdict : Verdict files root pid result) : socketsOf files root pid = result := by
  cases verdict with
  | absent refused kind =>
      rw [socketsOf_unlisted refused, (Failure.Reports.absent kind).eq_ofProcessRead]
  | denied refused kind =>
      rw [socketsOf_unlisted refused, (Failure.Reports.denied kind).eq_ofProcessRead]
  | unlisted refused found allowed =>
      rw [socketsOf_unlisted refused, (Failure.Reports.passedOn found allowed).eq_ofProcessRead]
  | idle listed idle => exact socketsOf_idle listed idle
  | noStreams owner tcp => rw [socketsOf_owner owner, tcp]
  | noDatagrams owner tcp udp =>
      rw [socketsOf_owner owner, tcp]
      simp only
      rw [udp]
  | joined owner tcp udp => exact socketsOf_joined owner tcp udp

/-- Some case always applies. -/
theorem exists_verdict (files : FileSystem) (root : ProcRoot) (pid : ProcessId) :
    Exists fun result : Except Failure (List Connection) => Verdict files root pid result := by
  cases listed : files.list (root.descriptorDir pid) with
  | error cause =>
      have told : Exists fun failure : Failure => Failure.Reports pid cause failure :=
        ⟨_, Failure.reports_ofProcessRead pid cause⟩
      rcases told with ⟨failure, reports⟩
      cases reports with
      | absent kind => exact ⟨_, .absent listed kind⟩
      | denied kind => exact ⟨_, .denied listed kind⟩
      | passedOn found allowed => exact ⟨_, .unlisted listed found allowed⟩
  | ok names =>
      by_cases owner : Exists fun inode : UInt64 => OwnsSocket files root pid inode
      · rcases owner with ⟨inode, owner⟩
        cases tcp : files.readText root.tcpTable with
        | error cause => exact ⟨_, .noStreams owner tcp⟩
        | ok streams =>
            cases udp : files.readText root.udpTable with
            | error cause => exact ⟨_, .noDatagrams owner tcp udp⟩
            | ok datagrams => exact ⟨_, .joined owner tcp udp⟩
      · exact ⟨_, .idle listed fun inode other => owner ⟨inode, other⟩⟩

theorem verdict_iff (result : Except Failure (List Connection)) :
    socketsOf files root pid = result <-> Verdict files root pid result := by
  constructor
  · intro same
    rcases exists_verdict files root pid with ⟨other, verdict⟩
    rw [← same, eq_of_verdict verdict]
    exact verdict
  · exact eq_of_verdict

/-- Three reads alone can fail an answer. -/
theorem exists_socketsOf {names : List Bytes} {streams datagrams : String}
    (listed : files.list (root.descriptorDir pid) = .ok names)
    (tcp : files.readText root.tcpTable = .ok streams)
    (udp : files.readText root.udpTable = .ok datagrams) :
    Exists fun connections : List Connection => socketsOf files root pid = .ok connections := by
  rcases exists_verdict files root pid with ⟨result, verdict⟩
  have answer := eq_of_verdict verdict
  cases verdict with
  | absent refused kind => cases listed.symm.trans refused
  | denied refused kind => cases listed.symm.trans refused
  | unlisted refused found allowed => cases listed.symm.trans refused
  | idle listed idle => exact ⟨_, answer⟩
  | noStreams owner refused => cases tcp.symm.trans refused
  | noDatagrams owner tcp refused => cases udp.symm.trans refused
  | joined owner tcp udp => exact ⟨_, answer⟩

/-- The law of failures.  The answer is that of the first case that applies and
no other.  No link, name or row can fail it: with the directory listed and text
in both tables there is always an answer. -/
theorem socketsOf_failure_law (files : FileSystem) (root : ProcRoot) (pid : ProcessId) :
    (forall result, socketsOf files root pid = result <-> Verdict files root pid result) ∧
    forall names streams datagrams, files.list (root.descriptorDir pid) = .ok names ->
      files.readText root.tcpTable = .ok streams -> files.readText root.udpTable = .ok datagrams ->
        Exists fun connections : List Connection => socketsOf files root pid = .ok connections :=
  ⟨verdict_iff, fun _ _ _ => exists_socketsOf⟩

end Ownership
end ProcInspection
