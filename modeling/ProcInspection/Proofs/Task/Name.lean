import ProcInspection.Proofs.Task.Status
import ProcInspection.Proofs.Text.Utf8
import ProcInspection.Task.Thread

namespace ProcInspection

/-!
Names stay on one line.

A process chooses its own name and those of its threads, byte for byte.  Where
they are read a line feed ends the line, and no other byte is shown as one, so
no name carries a new line into a report.  The name of a process is a part of
one line of its file.
-/

namespace TaskName

/-- A text has as many new lines as the bytes that it was read from. -/
theorem count_newline_decodeLossy (bytes : Bytes) :
    (Utf8.decodeLossy bytes).toList.count '\n' = bytes.count lineFeed :=
  Utf8.count_decodeLossy (by decide) bytes

theorem newline_not_mem_ofBytes {raw : Bytes} (clean : lineFeed ∉ raw) :
    '\n' ∉ (ofBytes raw).toList := by
  rw [← List.count_eq_zero, ofBytes, count_newline_decodeLossy, List.count_eq_zero]
  exact fun member => clean (List.mem_of_mem_take member)

theorem newline_not_mem_ofFile (content : Bytes) : '\n' ∉ (ofFile content).toList := by
  apply newline_not_mem_ofBytes
  intro member
  have passed := List.all_eq_true.mp List.all_takeWhile lineFeed member
  exact of_decide_eq_true passed rfl

end TaskName

namespace Blank

theorem mem_of_mem_trimBytes {raw : Bytes} {byte : UInt8} (member : byte ∈ trimBytes raw) :
    byte ∈ raw :=
  List.mem_of_mem_take (List.mem_of_mem_drop member)

end Blank

namespace Status

/-- The reading of a process keeps the last name. -/
theorem name_parse (pid : ProcessId) (content : Bytes) :
    (parse pid content).name =
      TaskName.ofBytes (Blank.trimBytes ((values .name content).getLast?.getD [])) := by
  have read : (lines content).filterMap Key.name.said? =
      (values .name content).map fun value => TaskName.ofBytes (Blank.trimBytes value) := by
    rw [← filterMap_values, ← List.filterMap_eq_map]
    rfl
  have last : (parse pid content).name =
      ((lines content).filterMap Key.name.said?).getLast?.getD "" := field_parse pid .name content
  rw [last, read, List.getLast?_map]
  cases (values .name content).getLast? <;> rfl

theorem lineFeed_not_mem_value {key : Key} {content value : Bytes}
    (member : value ∈ values key content) : TaskName.lineFeed ∉ value := by
  rcases List.mem_filterMap.mp member with ⟨line, standing, spoken⟩
  intro inside
  apply lineFeed_not_mem_line standing
  rw [Key.value?_eq_some_iff.mp spoken]
  exact List.mem_append_right _ (List.mem_cons_of_mem _ inside)

theorem lineFeed_not_mem_lastName (content : Bytes) :
    TaskName.lineFeed ∉ Blank.trimBytes ((values .name content).getLast?.getD []) := by
  intro inside
  have within := Blank.mem_of_mem_trimBytes inside
  cases last : (values .name content).getLast? with
  | none =>
      rw [last] at within
      exact List.not_mem_nil within
  | some value =>
      rw [last] at within
      exact lineFeed_not_mem_value (List.mem_of_getLast? last) within

/-- The name of a process is one line, whatever the file holds. -/
theorem newline_not_mem_parse (pid : ProcessId) (content : Bytes) :
    '\n' ∉ (parse pid content).name.toList := by
  rw [name_parse]
  exact TaskName.newline_not_mem_ofBytes (lineFeed_not_mem_lastName content)

variable {files : FileSystem} {root : ProcRoot} {pid : ProcessId}

theorem exists_content {status : Status} (found : read files root pid = .ok status) :
    Exists fun content : Bytes => status = parse pid content := by
  unfold read at found
  cases content : files.read (root.statusFile pid) with
  | error cause =>
      rw [content] at found
      cases found
  | ok content' =>
      rw [content] at found
      exact ⟨content', (Except.ok.inj found).symm⟩

theorem newline_not_mem_name {status : Status} (found : read files root pid = .ok status) :
    '\n' ∉ status.name.toList := by
  rcases exists_content found with ⟨content, rfl⟩
  exact newline_not_mem_parse pid content

end Status

namespace Thread

variable {files : FileSystem} {root : ProcRoot} {pid : ProcessId} {threads : List Thread}
  {thread : Thread}

/-- The name of a listed thread was read from its file or is the placeholder. -/
theorem name_cases (listed : enumerate files root pid = .ok threads) (member : thread ∈ threads) :
    (Exists fun content : Bytes => thread.name = TaskName.ofFile content) ∨
      thread.name = TaskName.unreadable := by
  unfold enumerate at listed
  cases names : files.list (root.taskDir pid) with
  | error cause =>
      rw [names] at listed
      cases listed
  | ok names' =>
      rw [names] at listed
      rw [← Except.ok.inj listed] at member
      rcases List.mem_map.mp member with ⟨tid, _, rfl⟩
      unfold read readName
      cases files.read (root.threadNameFile pid tid) with
      | ok content => exact Or.inl ⟨content, rfl⟩
      | error cause => exact Or.inr rfl

/-- The name of a thread is one line, whatever its file holds. -/
theorem newline_not_mem_name (listed : enumerate files root pid = .ok threads)
    (member : thread ∈ threads) : '\n' ∉ thread.name.toList := by
  rcases name_cases listed member with ⟨content, named⟩ | unread
  · rw [named]
    exact TaskName.newline_not_mem_ofFile content
  · rw [unread]
    decide

end Thread
end ProcInspection
