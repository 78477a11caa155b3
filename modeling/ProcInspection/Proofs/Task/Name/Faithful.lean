import ProcInspection.Proofs.Inspection
import ProcInspection.Proofs.Task.Name
import ProcInspection.Proofs.Text.Trim
import ProcInspection.Proofs.Text.Utf8.Stretches

namespace ProcInspection

/-!
Names are short and show what the kernel keeps.

A name is cut to fifteen bytes before it is decoded, and decoding never makes
more characters than there are bytes.  What is left of a character that the cut
went through is shown as broken, and so is any other byte of a name that is no
part of a character.  All the rest of the fifteen bytes is shown as it is, so
that a name in a report is never longer than a column and never a second line.
-/

namespace TaskName

/-- A name short enough for its column that shows the first fifteen bytes.  It
is written with these bytes if they are a text, and otherwise it is their
stretches of characters with one replacement character for each broken run. -/
structure Shows (name : String) (raw : Bytes) : Prop where
  short : name.toList.length ≤ 15
  oneLine : '\n' ∉ name.toList
  faithful : forall text : String, Utf8.encode text = raw.take 15 -> Utf8.encode name = raw.take 15
  mended : (Exists fun parts : List (List Char) => Utf8.Stretches (raw.take 15) parts) ∧
    forall parts, Utf8.Stretches (raw.take 15) parts ->
      name.toList = [Utf8.replacement].intercalate parts

variable {raw : Bytes}

theorem length_ofBytes_le (raw : Bytes) : (ofBytes raw).toList.length ≤ 15 :=
  (Utf8.length_decodeLossy_le _).trans (List.length_take_le byteLimit raw)

theorem shows_ofBytes (clean : lineFeed ∉ raw) : Shows (ofBytes raw) raw where
  short := length_ofBytes_le raw
  oneLine := newline_not_mem_ofBytes clean
  faithful := by
    intro text written
    have decoded : ofBytes raw = text := by
      rw [ofBytes, show raw.take byteLimit = Utf8.encode text from written.symm,
        Utf8.decodeLossy_encode]
    rw [decoded, written]
  mended := ⟨Utf8.exists_stretches _, fun _ stretches => stretches.shown⟩

/-- What stands before the first line feed is the first line. -/
theorem head?_lines (content : Bytes) :
    (Status.lines content).head? = some (content.takeWhile fun byte => byte ≠ lineFeed) := by
  by_cases broken : lineFeed ∈ content
  · rcases List.eq_append_cons_of_mem broken with ⟨line, rest, rfl, unbroken⟩
    rw [Status.lines_cons unbroken, takeWhile_before unbroken, List.head?_cons]
  · have whole : (content.takeWhile fun byte => decide (byte ≠ lineFeed)) = content :=
      List.takeWhile_eq_self_iff.mpr (passes_before broken)
    rw [Status.lines_unbroken broken, whole, List.head?_cons]

theorem exists_shown_line (content : Bytes) :
    Exists fun line : Bytes =>
      (Status.lines content).head? = some line ∧ Shows (ofFile content) line := by
  have first := head?_lines content
  have unbroken := Status.lineFeed_not_mem_line (List.mem_of_mem_head? first)
  exact ⟨_, first, shows_ofBytes unbroken⟩

theorem exists_shown_value (pid : ProcessId) (content : Bytes) :
    Exists fun held : Bytes =>
      Blank.Trims ((Status.values .name content).getLast?.getD []) held ∧
        Shows (Status.parse pid content).name held := by
  refine ⟨_, Blank.trims_trimBytes _, ?_⟩
  rw [Status.name_parse]
  exact shows_ofBytes (Status.lineFeed_not_mem_lastName content)

end TaskName

/-! ## Reports -/

/-- The names in a report, that of the process and those of its threads. -/
def Report.taskNames (report : Report) : List String :=
  report.status.name :: (report.threads.getD []).map Thread.name

namespace TaskName

variable {files : FileSystem} {root : ProcRoot} {pid : ProcessId} {options : InspectOptions}
  {report : Report}

theorem short_of_run (ran : Inspection.run files root pid options = .ok report) :
    forall name, name ∈ report.taskNames -> name.toList.length ≤ 15 ∧ '\n' ∉ name.toList := by
  have gathered := (Inspection.run_eq_ok_iff options report).mp ran
  refine List.forall_mem_cons.mpr ⟨?_, List.forall_mem_map.mpr fun thread member => ?_⟩
  · rcases Status.exists_content gathered.status with ⟨content, parsed⟩
    rcases exists_shown_value pid content with ⟨held, _, shows⟩
    rw [parsed]
    exact ⟨shows.short, shows.oneLine⟩
  · have recorded := gathered.threads
    cases listed : report.threads with
    | none =>
        rw [listed] at member
        cases member
    | some threads =>
        rw [listed] at member recorded
        rcases Thread.name_cases recorded.eq_ok member with ⟨content, named⟩ | unread
        · rcases exists_shown_line content with ⟨line, _, shows⟩
          rw [named]
          exact ⟨shows.short, shows.oneLine⟩
        · rw [unread]
          decide

/-- A thread is shown by the first line of its file and a process by the last
name in its file, without the blanks around it.  Both are cut to fifteen bytes
and shown as they are, with one replacement character for each broken run.  So
no name in a report takes more than fifteen characters or more than one line. -/
theorem names_short_and_faithful :
    (forall content : Bytes, Exists fun line : Bytes =>
      (Status.lines content).head? = some line ∧ Shows (ofFile content) line) ∧
    (forall (pid : ProcessId) (content : Bytes), Exists fun held : Bytes =>
      Blank.Trims ((Status.values .name content).getLast?.getD []) held ∧
        Shows (Status.parse pid content).name held) ∧
    forall (files : FileSystem) (root : ProcRoot) (pid : ProcessId) (options : InspectOptions)
      (report : Report), Inspection.run files root pid options = .ok report ->
        forall name, name ∈ report.taskNames ->
          name.toList.length ≤ 15 ∧ '\n' ∉ name.toList :=
  ⟨exists_shown_line, exists_shown_value, fun _ _ _ _ _ => short_of_run⟩

namespace Sample

/-- A name with a byte that is no part of a character, and a second line. -/
def brokenName : Bytes :=
  [0x77, 0xFF, 0x78, 0x0A, 0x79]

/-- A process whose name is cut inside a character. -/
def cut : FileSystem where
  tree := .directory
      [(Utf8.encode "proc", .directory
        [(Utf8.encode "7", .directory
          [(Utf8.encode "status", .file (Utf8.encode "Name:\t abcdefghijklmn\u00e9 \n") false),
            (Utf8.encode "fd", .directory [] .free),
            (Utf8.encode "task", .directory
              [(Utf8.encode "7", .directory
                [(Utf8.encode "comm", .file brokenName false)] .free)] .free)] .free)] .free)]
      .free
  working := none

def cutReport : Report where
  pid := ⟨7⟩
  status := { Status.empty ⟨7⟩ with name := "abcdefghijklmn\uFFFD" }
  descriptors := some []
  threads := some [⟨⟨7⟩, "w\uFFFDx", .unknown⟩]
  sockets := some []
  failures := .empty

theorem run_cut : Inspection.run cut .standard ⟨7⟩ .full = .ok cutReport := by
  decide +kernel

theorem stretches_brokenName : Utf8.Stretches [0x77, 0xFF, 0x78] [['w'], ['x']] := by
  have broken : Utf8.BrokenAt [0xFF] [0x78] := by
    refine Utf8.brokenAt_single (by decide) fun lead next announced _ => ?_
    have unannounced : Utf8.Lead.ofByte? 0xFF = none := rfl
    rw [unannounced] at announced
    cases announced
  exact .next ['w'] broken (.last ['x'])

end Sample

theorem names_short_and_faithful_cut :
    Inspection.run Sample.cut .standard ⟨7⟩ .full = .ok Sample.cutReport ∧
      (forall name, name ∈ Sample.cutReport.taskNames ->
        name.toList.length ≤ 15 ∧ '\n' ∉ name.toList) ∧
      (ofFile Sample.brokenName).toList = ['w', Utf8.replacement, 'x'] := by
  have law := names_short_and_faithful
  rcases law.1 Sample.brokenName with ⟨line, first, shows⟩
  have standing : (Status.lines Sample.brokenName).head? = some [0x77, 0xFF, 0x78] := by decide
  rw [← Option.some.inj (standing.symm.trans first)] at shows
  exact ⟨Sample.run_cut, law.2.2 _ _ _ _ _ Sample.run_cut,
    shows.mended.2 _ Sample.stretches_brokenName⟩

end TaskName
end ProcInspection
