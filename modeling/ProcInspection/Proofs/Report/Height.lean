import ProcInspection.Proofs.Report.Layout

namespace ProcInspection
namespace Report

/-!
How tall a report is.

In a full report each thread and each connection is one row.  So is each
descriptor, except that the target of its link is shown as it is: a target with
new lines in it breaks its row, once for each, and what follows a break may
look like a row of its own.  Nothing else that a process chooses can do that.
-/

/-- The lines of a table with its heading and the empty line in front. -/
def tableHeight (rows : Nat) : Nat :=
  if rows = 0 then 0 else 3 + rows

/-- The lines of a full report that no target breaks. -/
def fullHeight (descriptors threads sockets : Nat) : Nat :=
  6 + (2 + tableHeight descriptors) + (4 + threads) + (2 + tableHeight sockets)

/-! ## Counting lines -/

/-- Each line is ended by one new line, besides those that it holds. -/
theorem count_endLines (lines : List Line) :
    (endLines lines).count '\n' = lines.length + lines.flatten.count '\n' := by
  induction lines with
  | nil => rfl
  | cons line rest ih =>
      rw [endLines_cons, List.count_append, List.count_cons_self, ih, List.length_cons,
        List.flatten_cons, List.count_append]
      omega

theorem count_flatten_of_clean {lines : List Line}
    (clean : forall line, line ∈ lines -> '\n' ∉ line) : lines.flatten.count '\n' = 0 := by
  rw [List.count_eq_zero]
  intro member
  rcases List.mem_flatten.mp member with ⟨line, inside, broken⟩
  exact clean line inside broken

theorem length_tableLines (heading rule : String) (rows : List Line) :
    (tableLines true heading rule rows).length = tableHeight rows.length := by
  cases rows with
  | nil => rfl
  | cons row rest =>
      change rest.length + 1 + 1 + 1 + 1 = 3 + (rest.length + 1)
      omega

theorem count_flatten_tableLines {heading rule : String}
    (plain : '\n' ∉ heading.toList ∧ '\n' ∉ rule.toList) (rows : List Line) :
    (tableLines true heading rule rows).flatten.count '\n' = rows.flatten.count '\n' := by
  simp only [← List.count_eq_zero] at plain
  cases rows with
  | nil => rfl
  | cons row rest => simp [tableLines, plain]

/-- The new lines in the targets of some descriptors. -/
def targetBreaks (descriptors : List Descriptor) : Nat :=
  (descriptors.flatMap fun descriptor => descriptor.target.toList).count '\n'

theorem count_flatten_descriptorRows (descriptors : List Descriptor) :
    (descriptors.map descriptorRow).flatten.count '\n' = targetBreaks descriptors := by
  unfold targetBreaks
  induction descriptors with
  | nil => rfl
  | cons descriptor rest ih =>
      rw [List.map_cons, List.flatten_cons, List.count_append, count_newline_descriptorRow, ih,
        List.flatMap_cons, List.count_append]

theorem count_descriptorLines (descriptors : List Descriptor) :
    (endLines (descriptorLines true descriptors)).count '\n' =
      1 + tableHeight descriptors.length + targetBreaks descriptors := by
  have head : (countLine .descriptors descriptors.length).count '\n' = 0 :=
    List.count_eq_zero.mpr (newline_not_mem_countLine _ _)
  rw [descriptorLines, endLines_cons, List.count_append, head, List.count_cons_self, count_endLines,
    length_tableLines, count_flatten_tableLines (by decide), count_flatten_descriptorRows,
    List.length_map]
  omega

theorem count_socketLines (sockets : List Connection) :
    (endLines (socketLines true sockets)).count '\n' = 1 + tableHeight sockets.length := by
  rw [count_endLines, count_flatten_of_clean (newline_not_mem_socketLines true sockets),
    socketLines, List.length_cons, length_tableLines, List.length_map]
  omega

theorem count_threadLines {threads : List Thread}
    (clean : forall thread, thread ∈ threads -> '\n' ∉ thread.name.toList) :
    (endLines (threadLines threads)).count '\n' = 3 + threads.length := by
  rw [count_endLines, count_flatten_of_clean (newline_not_mem_threadLines clean)]
  simp only [threadLines, List.length_cons, List.length_map]
  omega

/-! ## A full report -/

variable {files : FileSystem} {root : ProcRoot} {pid : ProcessId} {report : Report}

/-- The lines of a full report without a failure. -/
def fullLines (report : Report) (descriptors : List Descriptor) (threads : List Thread)
    (sockets : List Connection) : List Line :=
  report.summary ++ [] :: descriptorLines true descriptors ++ [] :: threadLines threads
    ++ [] :: socketLines true sockets

/-- What a full run holds when no section failed. -/
structure Complete (files : FileSystem) (root : ProcRoot) (pid : ProcessId) (report : Report)
    (descriptors : List Descriptor) (threads : List Thread) (sockets : List Connection) :
    Prop where
  descriptors_eq : report.descriptors = some descriptors
  threads_eq : report.threads = some threads
  sockets_eq : report.sockets = some sockets
  listed : Descriptor.enumerate files root pid = .ok descriptors
  enumerated : Thread.enumerate files root pid = .ok threads

theorem exists_complete (ran : Inspection.run files root pid .full = .ok report)
    (sound : report.failures = .empty) :
    Exists fun descriptors : List Descriptor => Exists fun threads : List Thread =>
      Exists fun sockets : List Connection =>
        Complete files root pid report descriptors threads sockets ∧
          (report.humanText true).toList =
            endLines (report.fullLines descriptors threads sockets) := by
  have gathered := (Inspection.run_eq_ok_iff .full report).mp ran
  have layout : Layout files root pid report ⟨false, true⟩ (report.blocks true) :=
    layout_blocks gathered
  have text := toList_humanText layout.isBlock
  generalize report.blocks true = blocks at layout text
  cases layout with
  | verbose shownDescriptors shownThreads shownSockets =>
      rw [sound] at shownDescriptors shownThreads shownSockets
      rcases shownDescriptors.exists_read rfl with ⟨descriptors, descriptors_eq, listed, rfl⟩
      rcases shownThreads.exists_read rfl with ⟨threads, threads_eq, enumerated, rfl⟩
      rcases shownSockets.exists_read rfl with ⟨sockets, sockets_eq, _, rfl⟩
      refine ⟨descriptors, threads, sockets,
        ⟨descriptors_eq, threads_eq, sockets_eq, listed, enumerated⟩, ?_⟩
      rw [text]
      simp only [fullLines, List.map_cons, List.map_nil, List.intercalate_cons_cons,
        List.intercalate_singleton, endLines_append, endLines_cons, List.nil_append,
        List.append_assoc, List.cons_append]

theorem Complete.newline_not_mem_name {descriptors : List Descriptor} {threads : List Thread}
    {sockets : List Connection}
    (complete : Complete files root pid report descriptors threads sockets) :
    forall thread, thread ∈ threads -> '\n' ∉ thread.name.toList :=
  fun _ => Thread.newline_not_mem_name complete.enumerated

theorem Complete.count_fullLines {descriptors : List Descriptor} {threads : List Thread}
    {sockets : List Connection}
    (complete : Complete files root pid report descriptors threads sockets)
    (summary : forall line, line ∈ report.summary -> '\n' ∉ line) :
    (endLines (report.fullLines descriptors threads sockets)).count '\n' =
      fullHeight descriptors.length threads.length sockets.length + targetBreaks descriptors := by
  have six : (endLines report.summary).count '\n' = 6 := by
    rw [count_endLines, count_flatten_of_clean summary]
    rfl
  simp only [fullLines, endLines_append, endLines_cons, List.nil_append, List.count_append,
    List.count_cons_self, six, count_descriptorLines, count_socketLines,
    count_threadLines complete.newline_not_mem_name, fullHeight]
  omega

/-- The row of a listed descriptor breaks once for each line feed in its link. -/
theorem exists_link {descriptors : List Descriptor}
    (listed : Descriptor.enumerate files root pid = .ok descriptors) {descriptor : Descriptor}
    (member : descriptor ∈ descriptors) :
    Exists fun name : Bytes => Exists fun target : Bytes =>
      files.readLink ((root.descriptorDir pid).join ⟨name⟩) = .ok target ∧
        (descriptorRow descriptor).count '\n' = target.count TaskName.lineFeed := by
  unfold Descriptor.enumerate at listed
  cases found : files.list (root.descriptorDir pid) with
  | error cause =>
      rw [found] at listed
      cases listed
  | ok names =>
      rw [found] at listed
      rw [← Except.ok.inj listed] at member
      rcases (Descriptor.mem_listed_iff _ _ _ _).mp member with
        ⟨name, _, number, _, target, read, built⟩
      refine ⟨name, target, read, ?_⟩
      rw [count_newline_descriptorRow, built]
      exact TaskName.count_newline_decodeLossy target

/-- The height of a full report without a failure.  It is one line for each
descriptor, thread and connection besides the fixed ones, and one more for each
new line in a target.  The lines of names, threads and connections stay whole. -/
theorem humanText_height (ran : Inspection.run files root pid .full = .ok report)
    (sound : report.failures = .empty) :
    Exists fun descriptors : List Descriptor => Exists fun threads : List Thread =>
      Exists fun sockets : List Connection =>
        (report.descriptors = some descriptors ∧ report.threads = some threads ∧
          report.sockets = some sockets) ∧
        (report.humanText true).toList = endLines (report.fullLines descriptors threads sockets) ∧
        (report.humanText true).toList.count '\n' =
          fullHeight descriptors.length threads.length sockets.length + targetBreaks descriptors ∧
        (forall line, line ∈ report.summary ++ threadLines threads ++ socketLines true sockets ->
          '\n' ∉ line) ∧
        forall descriptor, descriptor ∈ descriptors ->
          Exists fun name : Bytes => Exists fun target : Bytes =>
            files.readLink ((root.descriptorDir pid).join ⟨name⟩) = .ok target ∧
              (descriptorRow descriptor).count '\n' = target.count TaskName.lineFeed := by
  rcases exists_complete ran sound with ⟨descriptors, threads, sockets, complete, text⟩
  have summary := newline_not_mem_summary_of_run ran
  refine ⟨descriptors, threads, sockets,
    ⟨complete.descriptors_eq, complete.threads_eq, complete.sockets_eq⟩, text, ?_, ?_,
    fun _ => exists_link complete.listed⟩
  · rw [text]
    exact complete.count_fullLines summary
  · intro line member
    rcases List.mem_append.mp member with first | socket
    · rcases List.mem_append.mp first with label | thread
      · exact summary line label
      · exact newline_not_mem_threadLines complete.newline_not_mem_name line thread
    · exact newline_not_mem_socketLines true sockets line socket

namespace Sample

/-- A target that looks like two rows. -/
def forgedTarget : String :=
  "/tmp/a\n  4     socket    socket:[44]"

def thread (name state : String) : FileTree :=
  .directory
    [(Utf8.encode "comm", .file (Utf8.encode name) false),
      (Utf8.encode "status", .file (Utf8.encode state) false)]
    .free

def table (rows : String) : FileTree :=
  .file (Utf8.encode ("heading\n" ++ rows)) false

/-- A process with two sockets, two threads and a file whose name looks like two
rows. -/
def process : FileTree :=
  .directory
    [(Utf8.encode "status", .file (Utf8.encode "Name:\tx\n") false),
      (Utf8.encode "fd", .directory
        [(Utf8.encode "3", .link (Utf8.encode forgedTarget) false),
          (Utf8.encode "5", .link (Utf8.encode "socket:[42]") false),
          (Utf8.encode "6", .link (Utf8.encode "socket:[43]") false)] .free),
      (Utf8.encode "task", .directory
        [(Utf8.encode "7", thread "x\n" "State:\tS (sleeping)\n"),
          (Utf8.encode "8", thread "worker\n" "State:\tR (running)\n")] .free)]
    .free

def forged : FileSystem where
  tree := .directory
      [(Utf8.encode "proc", .directory
        [(Utf8.encode "7", process),
          (Utf8.encode "net", .directory
            [(Utf8.encode "tcp", table "0: 0100007F:0050 00000000:0000 0A - - - 0 - 42\n"),
              (Utf8.encode "udp", table "0: 0100007F:0035 00000000:0000 07 - - - 0 - 43\n")]
            .free)] .free)]
      .free
  working := none

def forgedDescriptors : List Descriptor :=
  [.ofTarget 3 forgedTarget, .ofTarget 5 "socket:[42]", .ofTarget 6 "socket:[43]"]

def forgedSockets : List Connection :=
  [⟨.tcp, ⟨⟨127, 0, 0, 1⟩, 80⟩, ⟨⟨0, 0, 0, 0⟩, 0⟩, .listen, 0, 42⟩,
    ⟨.udp, ⟨⟨127, 0, 0, 1⟩, 53⟩, ⟨⟨0, 0, 0, 0⟩, 0⟩, .close, 0, 43⟩]

def forgedReport : Report where
  pid := ⟨7⟩
  status := { Status.empty ⟨7⟩ with name := "x" }
  descriptors := some forgedDescriptors
  threads := some [⟨⟨7⟩, "x", .sleeping⟩, ⟨⟨8⟩, "worker", .running⟩]
  sockets := some forgedSockets
  failures := .empty

theorem run_forged : Inspection.run forged .standard ⟨7⟩ .full = .ok forgedReport := by
  decide +kernel

theorem targetBreaks_forged : targetBreaks forgedDescriptors = 1 := by
  decide

end Sample

theorem humanText_height_forged :
    Inspection.run Sample.forged .standard ⟨7⟩ .full = .ok Sample.forgedReport ∧
      Sample.forgedReport.failures = .empty ∧
      (Sample.forgedReport.humanText true).toList.count '\n' = fullHeight 3 2 2 + 1 := by
  rcases humanText_height Sample.run_forged rfl with
    ⟨descriptors, threads, sockets, ⟨descriptors_eq, threads_eq, sockets_eq⟩, _, height, _⟩
  rw [← Option.some.inj descriptors_eq, ← Option.some.inj threads_eq, ← Option.some.inj sockets_eq,
    Sample.targetBreaks_forged] at height
  exact ⟨Sample.run_forged, rfl, height⟩

/-- A report may be taller than it has resources. -/
theorem not_always_fullHeight :
    ¬ forall (files : FileSystem) (root : ProcRoot) (pid : ProcessId) (report : Report)
      (descriptors : List Descriptor) (threads : List Thread) (sockets : List Connection),
      Inspection.run files root pid .full = .ok report -> report.failures = .empty ->
        report.descriptors = some descriptors -> report.threads = some threads ->
          report.sockets = some sockets ->
            (report.humanText true).toList.count '\n' =
              fullHeight descriptors.length threads.length sockets.length := by
  intro always
  rcases exists_complete Sample.run_forged rfl with ⟨descriptors, threads, sockets, complete, text⟩
  have claimed := always _ _ _ _ descriptors threads sockets Sample.run_forged rfl
    complete.descriptors_eq complete.threads_eq complete.sockets_eq
  rw [text, complete.count_fullLines (newline_not_mem_summary_of_run Sample.run_forged),
    ← Option.some.inj complete.descriptors_eq, Sample.targetBreaks_forged] at claimed
  exact Nat.succ_ne_self _ claimed

end Report
end ProcInspection
