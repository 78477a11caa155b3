import ProcInspection.Proofs.Report.Lines

namespace ProcInspection
namespace Report

/-!
No section is silent.

The text for a person is made from the report alone, without the options of
the run.  A run for the network alone is told from the others by the missing
descriptors.  Over all the reports that an inspection makes that is never a
mistake: each section that was asked for has one block, with what was read or
with the failure, in one order, and every failure in the report is shown.
-/

/-! ## Blocks of text -/

@[simp]
theorem endLines_nil : endLines [] = [] :=
  rfl

@[simp]
theorem endLines_cons (line : Line) (lines : List Line) :
    endLines (line :: lines) = line ++ '\n' :: endLines lines := by
  simp [endLines]

theorem endLines_append (left right : List Line) :
    endLines (left ++ right) = endLines left ++ endLines right :=
  List.flatMap_append

/-- A text that begins with something on its first line and ends its last. -/
structure IsBlock (text : List Char) : Prop where
  opens : Exists fun first : Char => text.head? = some first ∧ first ≠ '\n'
  ends : text.getLast? = some '\n'

theorem getLast?_endLines (line : Line) (lines : List Line) :
    (endLines (line :: lines)).getLast? = some '\n' := by
  induction lines generalizing line with
  | nil => simp
  | cons next rest ih =>
      rw [endLines_cons, List.getLast?_append_cons, List.getLast?_cons, ih next]
      rfl

theorem isBlock_endLines {first : Char} (other : first ≠ '\n') (line : Line) (lines : List Line) :
    IsBlock (endLines ((first :: line) :: lines)) where
  opens := ⟨first, by rw [endLines_cons]; rfl, other⟩
  ends := getLast?_endLines (first :: line) lines

theorem IsBlock.ne_nil {text : List Char} (block : IsBlock text) : text ≠ [] := by
  rintro rfl
  cases block.ends

/-! ## Text that grows -/

theorem breakSection_of_ne_nil {text : List Char} (nonempty : text ≠ []) :
    breakSection text = text ++ ['\n'] := by
  cases text with
  | nil => exact (nonempty rfl).elim
  | cons first rest => rfl

/-- After a break the text is still empty or its last line is ended. -/
theorem breakSection_ended (text : List Char) :
    breakSection text = [] ∨ (breakSection text).getLast? = some '\n' := by
  cases text with
  | nil => exact Or.inl rfl
  | cons first rest => exact Or.inr List.getLast?_concat

/-- Behind the text so far each block follows an empty line. -/
theorem foldl_addBlock {text : List Char} (nonempty : text ≠ []) (blocks : List (List Line)) :
    blocks.foldl addBlock text = text ++ (blocks.map endLines).flatMap (List.cons '\n') := by
  induction blocks generalizing text with
  | nil => exact (List.append_nil text).symm
  | cons block rest ih =>
      have grown : addBlock text block = text ++ '\n' :: endLines block := by
        rw [addBlock, breakSection_of_ne_nil nonempty, List.append_assoc, List.singleton_append]
      have filled : text ++ '\n' :: endLines block ≠ [] := List.append_ne_nil_of_left_ne_nil nonempty _
      rw [List.foldl_cons, grown, ih filled, List.map_cons, List.flatMap_cons, List.append_assoc]

theorem intercalate_cons_newline (text : List Char) (others : List (List Char)) :
    List.intercalate ['\n'] (text :: others) = text ++ others.flatMap (List.cons '\n') := by
  induction others generalizing text with
  | nil => exact (List.intercalate_singleton).trans (List.append_nil text).symm
  | cons other rest ih =>
      rw [List.intercalate_cons_cons, ih other, List.flatMap_cons, List.append_assoc,
        List.singleton_append, List.cons_append]

/-- The text holds the blocks with an empty line between each two, if no block is
empty. -/
theorem toList_humanText {report : Report} {verbose : Bool}
    (filled : forall block, block ∈ report.blocks verbose -> IsBlock (endLines block)) :
    (report.humanText verbose).toList =
      List.intercalate ['\n'] ((report.blocks verbose).map endLines) := by
  rw [humanText, String.toList_ofList]
  generalize report.blocks verbose = blocks at filled
  cases blocks with
  | nil => rfl
  | cons first rest =>
      have opened : addBlock [] first = endLines first := rfl
      have nonempty := (filled first List.mem_cons_self).ne_nil
      rw [List.foldl_cons, opened, foldl_addBlock nonempty, List.map_cons,
        intercalate_cons_newline]

/-! ## The blocks of a report -/

/-- What is said of a section that failed. -/
def failureText (reportSection : ReportSection) (failure : FailureReport) : String :=
  reportSection.title ++ ": Unable to read (" ++ failure.category.shortReason ++ ")"

theorem failureLine_eq (reportSection : ReportSection) (failure : FailureReport) :
    failureLine reportSection failure = (failureText reportSection failure).toList := by
  simp [failureLine, failureText]

/-- How a section stands in the text: the line of its failure, or what is made
of the value that was read. -/
inductive Shown {α : Type} (reportSection : ReportSection) (lines : α -> List Line) :
    Except Failure α -> Option α -> Option FailureReport -> List Line -> Prop where
  | failed (failure : Failure) :
      Shown reportSection lines (.error failure) none (some failure.report)
        [(failureText reportSection failure.report).toList]
  | read (value : α) : Shown reportSection lines (.ok value) (some value) none (lines value)

variable {α : Type} {files : FileSystem} {root : ProcRoot} {pid : ProcessId} {report : Report}

/-- A section that was asked for has a block, and it shows what was recorded. -/
theorem exists_shown (reportSection : ReportSection) {result : Except Failure α} {value : Option α}
    (recorded : Inspection.Recorded true result value (report.failures.get reportSection))
    (lines : α -> List Line) :
    Exists fun block : List Line =>
      report.sectionBlock reportSection (value.map lines) = some block ∧
        Shown reportSection lines result value (report.failures.get reportSection) block := by
  unfold sectionBlock
  cases failed : report.failures.get reportSection with
  | none =>
      rw [failed] at recorded
      cases recorded with
      | value found => exact ⟨lines found, rfl, .read found⟩
  | some failure =>
      rw [failed] at recorded
      cases recorded with
      | failure cause =>
          refine ⟨[failureLine reportSection cause.report], rfl, ?_⟩
          rw [failureLine_eq]
          exact .failed cause

/-- A failure that was recorded is shown. -/
theorem Shown.eq_failureLine {reportSection : ReportSection} {lines : α -> List Line}
    {result : Except Failure α} {value : Option α} {recorded : Option FailureReport}
    {block : List Line} (shown : Shown reportSection lines result value recorded block)
    {failure : FailureReport} (failed : recorded = some failure) :
    block = [failureLine reportSection failure] := by
  cases shown with
  | failed cause => rw [failureLine_eq, Option.some.inj failed]
  | read found => cases failed

/-- A section without a failure shows what was read. -/
theorem Shown.exists_read {reportSection : ReportSection} {lines : α -> List Line}
    {result : Except Failure α} {value : Option α} {recorded : Option FailureReport}
    {block : List Line} (shown : Shown reportSection lines result value recorded block)
    (sound : recorded = none) :
    Exists fun found : α => value = some found ∧ result = .ok found ∧ block = lines found := by
  cases shown with
  | failed cause => cases sound
  | read found => exact ⟨found, rfl, rfl, rfl⟩

theorem isBlock_title (reportSection : ReportSection) (line : Line) (lines : List Line) :
    IsBlock (endLines ((reportSection.title.toList ++ line) :: lines)) := by
  cases reportSection with
  | descriptors => exact isBlock_endLines (by decide) _ lines
  | threads => exact isBlock_endLines (by decide) _ lines
  | sockets => exact isBlock_endLines (by decide) _ lines

theorem isBlock_failureLine (reportSection : ReportSection) (failure : FailureReport) :
    IsBlock (endLines [failureLine reportSection failure]) := by
  simp only [failureLine, List.append_assoc]
  exact isBlock_title reportSection _ []

theorem isBlock_countLine (reportSection : ReportSection) (count : Nat) (lines : List Line) :
    IsBlock (endLines (countLine reportSection count :: lines)) := by
  simp only [countLine, List.append_assoc]
  exact isBlock_title reportSection _ lines

theorem isBlock_summary (report : Report) : IsBlock (endLines report.summary) :=
  isBlock_endLines (by decide) _ _

theorem isBlock_threadLines (threads : List Thread) : IsBlock (endLines (threadLines threads)) :=
  isBlock_endLines (by decide) _ _

theorem Shown.isBlock {reportSection : ReportSection} {lines : α -> List Line}
    {result : Except Failure α} {value : Option α} {failure : Option FailureReport}
    {block : List Line} (shown : Shown reportSection lines result value failure block)
    (opens : forall value, IsBlock (endLines (lines value))) : IsBlock (endLines block) := by
  cases shown with
  | failed cause =>
      have line := isBlock_failureLine reportSection cause.report
      rw [failureLine_eq] at line
      exact line
  | read found => exact opens found

/-- The blocks of a report in order, by what was asked for.  Each section that
was asked for has one block, and so has the process unless the network alone was
asked for. -/
inductive Layout (files : FileSystem) (root : ProcRoot) (pid : ProcessId) (report : Report) :
    InspectOptions -> List (List Line) -> Prop where
  | network {verbose : Bool} {sockets : List Line}
      (shownSockets : Shown .sockets (socketLines verbose) (Ownership.socketsOf files root pid)
        report.sockets report.failures.sockets sockets) :
      Layout files root pid report ⟨true, verbose⟩ [sockets]
  | brief {descriptors sockets : List Line}
      (shownDescriptors : Shown .descriptors (descriptorLines false)
        (Descriptor.enumerate files root pid) report.descriptors report.failures.descriptors
        descriptors)
      (shownSockets : Shown .sockets (socketLines false) (Ownership.socketsOf files root pid)
        report.sockets report.failures.sockets sockets) :
      Layout files root pid report ⟨false, false⟩ [report.summary, descriptors, sockets]
  | verbose {descriptors threads sockets : List Line}
      (shownDescriptors : Shown .descriptors (descriptorLines true)
        (Descriptor.enumerate files root pid) report.descriptors report.failures.descriptors
        descriptors)
      (shownThreads : Shown .threads threadLines (Thread.enumerate files root pid)
        report.threads report.failures.threads threads)
      (shownSockets : Shown .sockets (socketLines true) (Ownership.socketsOf files root pid)
        report.sockets report.failures.sockets sockets) :
      Layout files root pid report ⟨false, true⟩ [report.summary, descriptors, threads, sockets]

variable {networkOnly verbose : Bool}

/-- The missing descriptors tell a run for the network alone from every other. -/
theorem showsNetworkOnly_eq
    (gathered : Inspection.Gathered files root pid ⟨networkOnly, verbose⟩ report) :
    report.showsNetworkOnly = networkOnly := by
  have recorded := gathered.descriptors
  unfold showsNetworkOnly
  cases networkOnly with
  | true =>
      generalize report.descriptors = value at recorded ⊢
      generalize report.failures.descriptors = failure at recorded ⊢
      cases recorded with
      | unasked => rfl
  | false =>
      generalize report.descriptors = value at recorded ⊢
      generalize report.failures.descriptors = failure at recorded ⊢
      generalize Descriptor.enumerate files root pid = result at recorded
      cases recorded with
      | value found => rfl
      | failure cause => rfl

theorem layout_blocks
    (gathered : Inspection.Gathered files root pid ⟨networkOnly, verbose⟩ report) :
    Layout files root pid report ⟨networkOnly, verbose⟩ (report.blocks verbose) := by
  rcases exists_shown .sockets gathered.sockets (socketLines verbose) with
    ⟨sockets, socketBlock_eq, shownSockets⟩
  unfold blocks processBlocks descriptorBlock threadBlock socketBlock
  rw [showsNetworkOnly_eq gathered, socketBlock_eq]
  cases networkOnly with
  | true => exact .network shownSockets
  | false =>
      rcases exists_shown .descriptors gathered.descriptors (descriptorLines verbose) with
        ⟨descriptors, descriptorBlock_eq, shownDescriptors⟩
      rw [descriptorBlock_eq]
      cases verbose with
      | false => exact .brief shownDescriptors shownSockets
      | true =>
          rcases exists_shown .threads gathered.threads threadLines with
            ⟨threads, threadBlock_eq, shownThreads⟩
          rw [threadBlock_eq]
          exact .verbose shownDescriptors shownThreads shownSockets

theorem Layout.isBlock {options : InspectOptions} {blocks : List (List Line)}
    (layout : Layout files root pid report options blocks) :
    forall block, block ∈ blocks -> IsBlock (endLines block) := by
  cases layout with
  | network shownSockets =>
      exact List.forall_mem_singleton.mpr
        (shownSockets.isBlock fun sockets => isBlock_countLine .sockets sockets.length _)
  | brief shownDescriptors shownSockets =>
      simp only [List.forall_mem_cons]
      exact ⟨isBlock_summary report,
        shownDescriptors.isBlock fun found => isBlock_countLine .descriptors found.length _,
        shownSockets.isBlock fun found => isBlock_countLine .sockets found.length _,
        List.forall_mem_nil _⟩
  | verbose shownDescriptors shownThreads shownSockets =>
      simp only [List.forall_mem_cons]
      exact ⟨isBlock_summary report,
        shownDescriptors.isBlock fun found => isBlock_countLine .descriptors found.length _,
        shownThreads.isBlock isBlock_threadLines,
        shownSockets.isBlock fun found => isBlock_countLine .sockets found.length _,
        List.forall_mem_nil _⟩

theorem silent_of_unasked {result : Except Failure α} {value : Option α}
    {failure : Option FailureReport} (recorded : Inspection.Recorded false result value failure) :
    failure = none := by
  cases recorded with
  | unasked => rfl

/-- Only sections that were asked for fail, so every failure has its block. -/
theorem Layout.failureLine_mem {blocks : List (List Line)}
    (layout : Layout files root pid report ⟨networkOnly, verbose⟩ blocks)
    (gathered : Inspection.Gathered files root pid ⟨networkOnly, verbose⟩ report)
    {reportSection : ReportSection} {failure : FailureReport}
    (failed : report.failures.get reportSection = some failure) :
    [failureLine reportSection failure] ∈ blocks := by
  cases layout with
  | network shownSockets =>
      cases reportSection with
      | descriptors => cases (silent_of_unasked gathered.descriptors).symm.trans failed
      | threads =>
          have recorded := gathered.threads
          rw [Bool.not_true, Bool.and_false] at recorded
          cases (silent_of_unasked recorded).symm.trans failed
      | sockets =>
          rw [← shownSockets.eq_failureLine failed]
          exact List.mem_singleton_self _
  | brief shownDescriptors shownSockets =>
      cases reportSection with
      | descriptors =>
          rw [← shownDescriptors.eq_failureLine failed]
          simp
      | threads => cases (silent_of_unasked gathered.threads).symm.trans failed
      | sockets =>
          rw [← shownSockets.eq_failureLine failed]
          simp
  | verbose shownDescriptors shownThreads shownSockets =>
      cases reportSection with
      | descriptors =>
          rw [← shownDescriptors.eq_failureLine failed]
          simp
      | threads =>
          rw [← shownThreads.eq_failureLine failed]
          simp
      | sockets =>
          rw [← shownSockets.eq_failureLine failed]
          simp

/-- What a run shows.  The text is the blocks of the layout with an empty line
between each two; the summary is six lines; nothing that failed goes unsaid; and
the missing descriptors stand for a run for the network alone and for nothing
else. -/
theorem humanText_layout
    (ran : Inspection.run files root pid ⟨networkOnly, verbose⟩ = .ok report) :
    report.showsNetworkOnly = networkOnly ∧
    (report.summary.length = 6 ∧ forall line, line ∈ report.summary -> '\n' ∉ line) ∧
    Exists fun blocks : List (List Line) =>
      Layout files root pid report ⟨networkOnly, verbose⟩ blocks ∧
      (report.humanText verbose).toList = List.intercalate ['\n'] (blocks.map endLines) ∧
      (forall block, block ∈ blocks -> IsBlock (endLines block)) ∧
      forall reportSection failure, report.failures.get reportSection = some failure ->
        [(failureText reportSection failure).toList] ∈ blocks := by
  have gathered := (Inspection.run_eq_ok_iff ⟨networkOnly, verbose⟩ report).mp ran
  have layout := layout_blocks gathered
  refine ⟨showsNetworkOnly_eq gathered, ⟨rfl, newline_not_mem_summary_of_run ran⟩,
    report.blocks verbose, layout, toList_humanText layout.isBlock, layout.isBlock, ?_⟩
  intro reportSection failure failed
  rw [← failureLine_eq]
  exact layout.failureLine_mem gathered failed

namespace Sample

/-- A process with one socket, whose threads are closed to the reader, on a
system without connection tables. -/
def guarded : FileSystem where
  tree := .directory
      [(Utf8.encode "proc", .directory
        [(Utf8.encode "7", .directory
          [(Utf8.encode "status", .file (Utf8.encode "Name:\tx\n") false),
            (Utf8.encode "fd", .directory
              [(Utf8.encode "3", .link (Utf8.encode "socket:[42]") false)] .free),
            (Utf8.encode "task", .directory [] .closed)] .free)] .free)]
      .free
  working := none

def guardedReport : Report where
  pid := ⟨7⟩
  status := { Status.empty ⟨7⟩ with name := "x" }
  descriptors := some [.ofTarget 3 "socket:[42]"]
  threads := none
  sockets := none
  failures :=
    ⟨none, some (Failure.permissionDenied ⟨7⟩).report,
      some (Failure.connectionTable ProcRoot.standard.tcpTable
        (.ofSystem .noSuchEntry)).report⟩

end Sample

theorem humanText_layout_guarded :
    Inspection.run Sample.guarded .standard ⟨7⟩ ⟨false, true⟩ = .ok Sample.guardedReport ∧
      Exists fun blocks : List (List Line) =>
        (Sample.guardedReport.humanText true).toList =
          List.intercalate ['\n'] (blocks.map endLines) ∧
        "Threads: Unable to read (permission denied)".toList ∈ blocks.flatten ∧
        "Network Connections: Unable to read (unreadable kernel data)".toList ∈ blocks.flatten := by
  have ran : Inspection.run Sample.guarded .standard ⟨7⟩ ⟨false, true⟩ =
      .ok Sample.guardedReport := by decide +kernel
  rcases (humanText_layout ran).2.2 with ⟨blocks, _, text, _, shown⟩
  refine ⟨ran, blocks, text, ?_, ?_⟩
  · exact List.mem_flatten_of_mem (shown .threads _ rfl) List.mem_cons_self
  · exact List.mem_flatten_of_mem (shown .sockets _ rfl) List.mem_cons_self

end Report
end ProcInspection
