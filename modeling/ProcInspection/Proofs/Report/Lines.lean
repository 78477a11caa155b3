import ProcInspection.Proofs.Inspection
import ProcInspection.Proofs.Task.Name
import ProcInspection.Report.Human

namespace ProcInspection

/-!
New lines in the lines of a report.

A line is put together from cells.  Numbers, fixed words and padding hold no
new line, and neither do names.  The target of a link is the one cell that may
hold some, and then its row takes as many lines more.
-/

namespace Column

@[simp]
theorem count_newline_left (width : Nat) (cell : List Char) :
    (left width cell).count '\n' = cell.count '\n' := by
  have padding : (List.replicate (width - cell.length) ' ').count '\n' = 0 := by
    rw [List.count_eq_zero, List.mem_replicate]
    exact fun space => absurd space.2 (by decide)
  rw [left, List.count_append, padding, Nat.add_zero]

end Column

@[simp]
theorem RunState.count_newline_text (state : RunState) : state.text.toList.count '\n' = 0 := by
  cases state <;> rfl

@[simp]
theorem DescriptorKind.count_newline_text (kind : DescriptorKind) :
    kind.text.toList.count '\n' = 0 := by
  cases kind <;> rfl

@[simp]
theorem Protocol.count_newline_text (protocol : Protocol) :
    protocol.text.toList.count '\n' = 0 := by
  cases protocol <;> rfl

@[simp]
theorem ConnectionState.count_newline_text (state : ConnectionState) :
    state.text.toList.count '\n' = 0 := by
  cases state <;> rfl

@[simp]
theorem Endpoint.count_newline_dotted (endpoint : Endpoint) :
    endpoint.dotted.count '\n' = 0 := by
  simp [dotted, Address.dotted]

namespace Report

/-! ## Single lines -/

theorem newline_not_mem_summaryLine {label : String} {value : Line}
    (plain : '\n' ∉ label.toList) (clean : '\n' ∉ value) : '\n' ∉ summaryLine label value := by
  rw [← List.count_eq_zero] at plain clean ⊢
  simp [summaryLine, plain, clean]

theorem newline_not_mem_countLine (reportSection : ReportSection) (count : Nat) :
    '\n' ∉ countLine reportSection count := by
  have title : reportSection.title.toList.count '\n' = 0 := by cases reportSection <;> rfl
  rw [← List.count_eq_zero]
  simp [countLine, title]

/-- A row of a descriptor breaks where its target does. -/
theorem count_newline_descriptorRow (descriptor : Descriptor) :
    (descriptorRow descriptor).count '\n' = descriptor.target.toList.count '\n' := by
  simp [descriptorRow, gap]

theorem count_newline_threadRow (thread : Thread) :
    (threadRow thread).count '\n' = thread.name.toList.count '\n' := by
  simp [threadRow, gap]

theorem newline_not_mem_socketRow (connection : Connection) :
    '\n' ∉ socketRow connection := by
  rw [← List.count_eq_zero]
  simp [socketRow, gap]

/-! ## The lines of a block -/

theorem newline_not_mem_summary {report : Report} (clean : '\n' ∉ report.status.name.toList) :
    forall line, line ∈ report.summary -> '\n' ∉ line := by
  rw [← List.count_eq_zero] at clean
  unfold summary idLine memoryLine
  simp only [List.forall_mem_cons]
  refine ⟨?_, ?_, ?_, ?_, ?_, ?_, List.forall_mem_nil _⟩
  all_goals
    refine newline_not_mem_summaryLine (by decide) ?_
    rw [← List.count_eq_zero]
    simp [clean]

theorem newline_not_mem_tableLines {verbose : Bool} {heading rule : String} {rows : List Line}
    (plain : '\n' ∉ heading.toList ∧ '\n' ∉ rule.toList)
    (clean : forall row, row ∈ rows -> '\n' ∉ row) :
    forall line, line ∈ tableLines verbose heading rule rows -> '\n' ∉ line := by
  unfold tableLines
  split
  · simp only [List.forall_mem_cons]
    exact ⟨List.not_mem_nil, plain.1, plain.2, clean⟩
  · exact List.forall_mem_nil _

theorem newline_not_mem_threadLines {threads : List Thread}
    (clean : forall thread, thread ∈ threads -> '\n' ∉ thread.name.toList) :
    forall line, line ∈ threadLines threads -> '\n' ∉ line := by
  unfold threadLines
  simp only [List.forall_mem_cons, List.forall_mem_map]
  refine ⟨by decide, by decide, by decide, ?_⟩
  intro thread member
  rw [← List.count_eq_zero, count_newline_threadRow, List.count_eq_zero]
  exact clean thread member

theorem newline_not_mem_socketLines (verbose : Bool) (sockets : List Connection) :
    forall line, line ∈ socketLines verbose sockets -> '\n' ∉ line := by
  unfold socketLines
  rw [List.forall_mem_cons]
  refine ⟨newline_not_mem_countLine .sockets sockets.length, ?_⟩
  refine newline_not_mem_tableLines ⟨by decide, by decide⟩ ?_
  rw [List.forall_mem_map]
  exact fun connection _ => newline_not_mem_socketRow connection

/-! ## Reports that are read -/

/-- In the report of a run the name of the process is whole, and so is each line
of the summary. -/
theorem newline_not_mem_summary_of_run {files : FileSystem} {root : ProcRoot} {pid : ProcessId}
    {options : InspectOptions} {report : Report}
    (ran : Inspection.run files root pid options = .ok report) :
    forall line, line ∈ report.summary -> '\n' ∉ line :=
  newline_not_mem_summary
    (Status.newline_not_mem_name ((Inspection.run_eq_ok_iff options report).mp ran).status)

end Report
end ProcInspection
