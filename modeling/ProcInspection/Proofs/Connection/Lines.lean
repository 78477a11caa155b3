import ProcInspection.Connection.Table
import ProcInspection.Proofs.Text.Words

namespace ProcInspection
namespace ConnectionTable

/-!
A table is read line by line.

Each line after the heading counts for itself: it is kept or dropped whatever
stands above or below it, and the inodes that are looked for choose among the
rows without changing one.  A table that is not even read, because nothing is
looked for, is no exception.
-/

/-- A text of whole lines. -/
def ofLines (rows : List (List Char)) : List Char :=
  rows.flatMap fun line => line ++ ['\n']

/-- The lines of a text of whole lines are these lines and an empty rest. -/
theorem lines_ofLines {rows : List (List Char)} (whole : forall line, line ∈ rows -> '\n' ∉ line) :
    lines (ofLines rows) = rows ++ [[]] := by
  have clean : forall line, line ∈ rows -> forall c, c ∈ line -> (c == '\n') = false := by
    intro line member c inside
    rw [beq_eq_false_iff_ne]
    intro same
    exact whole line member (same ▸ inside)
  have split : lines (ofLines rows ++ []) = rows ++ lines [] :=
    splitOnP_terminated (by decide) rows clean []
  rw [List.append_nil] at split
  exact split

/-! ## Choosing among the rows -/

/-- The connections of some lines, asked for or not. -/
def rowsOf (protocol : Protocol) (rows : List (List Char)) : List Connection :=
  rows.filterMap (Connection.ofRow? protocol)

theorem isWanted_iff {targets : List UInt64} {connection : Connection} :
    isWanted targets connection = true <-> connection.inode ≠ 0 ∧ connection.inode ∈ targets := by
  simp [isWanted]

/-- Without targets nothing is wanted, so the text need not be read. -/
theorem parse_eq_filter (protocol : Protocol) (targets : List UInt64) (content : List Char) :
    parse protocol targets content =
      (rowsOf protocol ((lines content).drop 1)).filter (isWanted targets) := by
  cases targets with
  | cons target targets => rfl
  | nil =>
      symm
      apply List.filter_eq_nil_iff.mpr
      intro connection _ wanted
      exact List.not_mem_nil (isWanted_iff.mp wanted).2

/-- Fewer targets choose among the rows of more. -/
theorem isWanted_of_subset {targets others : List UInt64}
    (inside : forall inode, inode ∈ targets -> inode ∈ others) (connection : Connection) :
    isWanted targets connection =
      (decide (connection.inode ∈ targets) && isWanted others connection) := by
  rw [Bool.eq_iff_iff, Bool.and_eq_true_iff, decide_eq_true_iff, isWanted_iff, isWanted_iff]
  constructor
  · rintro ⟨nonzero, asked⟩
    exact ⟨asked, nonzero, inside _ asked⟩
  · rintro ⟨asked, nonzero, _⟩
    exact ⟨nonzero, asked⟩

theorem parse_of_subset (protocol : Protocol) {targets others : List UInt64}
    (inside : forall inode, inode ∈ targets -> inode ∈ others) (content : List Char) :
    parse protocol targets content =
      (parse protocol others content).filter fun connection =>
        decide (connection.inode ∈ targets) := by
  rw [parse_eq_filter, parse_eq_filter, List.filter_filter]
  exact List.filter_congr fun connection _ => isWanted_of_subset inside connection

theorem parse_congr (protocol : Protocol) {targets others : List UInt64}
    (same : forall inode, inode ∈ targets <-> inode ∈ others) (content : List Char) :
    parse protocol targets content = parse protocol others content := by
  have wanted : isWanted targets = isWanted others := by
    funext connection
    rw [Bool.eq_iff_iff, isWanted_iff, isWanted_iff, same]
  rw [parse_eq_filter, parse_eq_filter, wanted]

/-! ## Reading a table -/

section Read

variable {files : FileSystem} {path : Path} {protocol : Protocol} {targets others : List UInt64}

/-- A table that somebody asks for is read, and fails if it is no text. -/
theorem read_of_asked (asked : targets ≠ []) :
    read files path protocol targets =
      match files.readText path with
      | .ok content => .ok (parse protocol targets content.toList)
      | .error cause => .error (.connectionTable path cause) := by
  unfold read
  cases files.readText path <;>
    simp only [List.isEmpty_eq_false_iff.mpr asked, Bool.false_eq_true, if_false]

/-- A table gives for fewer targets what it gives for more, if it gives that. -/
theorem read_of_subset (inside : forall inode, inode ∈ targets -> inode ∈ others)
    {rows : List Connection} (found : read files path protocol others = .ok rows) :
    read files path protocol targets =
      .ok (rows.filter fun connection => decide (connection.inode ∈ targets)) := by
  by_cases asked : targets = []
  · have kept : rows.filter (fun connection => decide (connection.inode ∈ targets)) = [] := by
      simp [asked]
    rw [kept, asked]
    rfl
  · have more : others ≠ [] := by
      rcases List.exists_mem_of_ne_nil targets asked with ⟨inode, member⟩
      exact List.ne_nil_of_mem (inside inode member)
    rw [read_of_asked more] at found
    rw [read_of_asked asked]
    cases text : files.readText path with
    | error cause =>
        rw [text] at found
        cases found
    | ok content =>
        rw [text] at found
        rw [← Except.ok.inj found]
        exact congrArg Except.ok (parse_of_subset protocol inside content.toList)

theorem read_congr (same : forall inode, inode ∈ targets <-> inode ∈ others) :
    read files path protocol targets = read files path protocol others := by
  by_cases asked : targets = []
  · have neither : others = [] := by
      apply List.eq_nil_iff_forall_not_mem.mpr
      intro inode member
      exact List.not_mem_nil (asked ▸ (same inode).mpr member)
    rw [asked, neither]
  · have also : others ≠ [] := by
      rcases List.exists_mem_of_ne_nil targets asked with ⟨inode, member⟩
      exact List.ne_nil_of_mem ((same inode).mp member)
    rw [read_of_asked asked, read_of_asked also]
    simp only [parse_congr protocol same]

end Read

/-! ## Lines apart -/

/-- What is read of a table is what is read of its lines after the heading. -/
theorem parse_ofLines (protocol : Protocol) (targets : List UInt64) {top : List Char}
    {rows : List (List Char)} (whole : forall line, line ∈ top :: rows -> '\n' ∉ line) :
    parse protocol targets (ofLines (top :: rows)) =
      (rowsOf protocol rows).filter (isWanted targets) := by
  have rest : rowsOf protocol [[]] = [] := rfl
  rw [parse_eq_filter, lines_ofLines whole, List.cons_append, List.drop_one, List.tail_cons, rowsOf,
    List.filterMap_append]
  change (rowsOf protocol rows ++ rowsOf protocol [[]]).filter _ = _
  rw [rest, List.append_nil]

theorem rowsOf_append (protocol : Protocol) (left right : List (List Char)) :
    rowsOf protocol (left ++ right) = rowsOf protocol left ++ rowsOf protocol right :=
  List.filterMap_append

/-- A line is idle if it is no row or a row that nobody asked for. -/
def IsIdle (protocol : Protocol) (targets : List UInt64) (line : List Char) : Prop :=
  forall connection, Connection.ofRow? protocol line = some connection ->
    connection.inode = 0 ∨ connection.inode ∉ targets

theorem filter_rowsOf_idle {protocol : Protocol} {targets : List UInt64} {line : List Char}
    (idle : IsIdle protocol targets line) :
    (rowsOf protocol [line]).filter (isWanted targets) = [] := by
  rw [List.filter_eq_nil_iff]
  intro connection member wanted
  rcases List.mem_filterMap.mp member with ⟨row, same, read⟩
  rw [List.mem_singleton.mp same] at read
  have asked := isWanted_iff.mp wanted
  rcases idle connection read with zero | unasked
  · exact asked.1 zero
  · exact unasked asked.2

/-- Reading is a homomorphism of lines and a filter of rows.  Two runs of lines
are read as the one and then the other, each under any heading; so a heading
says nothing, and an idle line may stand anywhere below it.  Of two sets of
targets the smaller one keeps, in order, what it names of the rows that the
larger one gives, down to no targets at all. -/
theorem parse_line_homomorphism (protocol : Protocol) (targets : List UInt64)
    (top other : List Char) (left right : List (List Char))
    (whole : forall line, line ∈ top :: other :: (left ++ right) -> '\n' ∉ line) :
    parse protocol targets (ofLines (top :: (left ++ right))) =
      parse protocol targets (ofLines (top :: left)) ++
        parse protocol targets (ofLines (other :: right)) ∧
    parse protocol targets (ofLines (top :: left)) =
      parse protocol targets (ofLines (other :: left)) ∧
    (forall line, '\n' ∉ line -> IsIdle protocol targets line ->
      parse protocol targets (ofLines (top :: (left ++ line :: right))) =
        parse protocol targets (ofLines (top :: (left ++ right)))) ∧
    forall others content, (forall inode, inode ∈ targets -> inode ∈ others) ->
      parse protocol targets content =
        (parse protocol others content).filter fun connection =>
          decide (connection.inode ∈ targets) := by
  simp only [List.forall_mem_cons, List.forall_mem_append] at whole
  rcases whole with ⟨heads, others, lefts, rights⟩
  have all : forall line, line ∈ top :: (left ++ right) -> '\n' ∉ line := by
    simp only [List.forall_mem_cons, List.forall_mem_append]
    exact ⟨heads, lefts, rights⟩
  refine ⟨?_, ?_, ?_, fun _ content inside => parse_of_subset protocol inside content⟩
  · rw [parse_ofLines protocol targets all,
      parse_ofLines protocol targets (List.forall_mem_cons.mpr ⟨heads, lefts⟩),
      parse_ofLines protocol targets (List.forall_mem_cons.mpr ⟨others, rights⟩),
      rowsOf_append, List.filter_append]
  · rw [parse_ofLines protocol targets (List.forall_mem_cons.mpr ⟨heads, lefts⟩),
      parse_ofLines protocol targets (List.forall_mem_cons.mpr ⟨others, lefts⟩)]
  · intro line clean idle
    have more : forall row, row ∈ top :: (left ++ line :: right) -> '\n' ∉ row := by
      simp only [List.forall_mem_cons, List.forall_mem_append]
      exact ⟨heads, lefts, clean, rights⟩
    have split : line :: right = [line] ++ right := rfl
    rw [parse_ofLines protocol targets more, parse_ofLines protocol targets all, split,
      rowsOf_append, rowsOf_append, rowsOf_append, List.filter_append, List.filter_append,
      List.filter_append, filter_rowsOf_idle idle, List.nil_append]

namespace Sample

/-- A row stands where the heading should be. -/
def top : List Char :=
  "0: 0100007F:0050 00000000:0000 0A - - - 0 - 42".toList

def left : List (List Char) :=
  ["1: 0100007F:0050 00000000:0000 0A - - - 0 - 42\r".toList, "2: 0100007F".toList]

def right : List (List Char) :=
  [[], "3: 0100007F:0050 00000000:0000 0A - - - 0 - 43".toList]

def listener : Connection :=
  ⟨.tcp, ⟨⟨127, 0, 0, 1⟩, 80⟩, ⟨⟨0, 0, 0, 0⟩, 0⟩, .listen, 0, 42⟩

end Sample

theorem parse_lines_sample :
    (forall line, line ∈ Sample.top :: [] :: (Sample.left ++ Sample.right) -> '\n' ∉ line) ∧
      parse .tcp [42] (ofLines (Sample.top :: (Sample.left ++ Sample.right))) =
        parse .tcp [42] (ofLines (Sample.top :: Sample.left)) ++
          parse .tcp [42] (ofLines ([] :: Sample.right)) ∧
      parse .tcp [42] (ofLines (Sample.top :: Sample.left)) = [Sample.listener] := by
  have whole : forall line, line ∈ Sample.top :: [] :: (Sample.left ++ Sample.right) ->
      '\n' ∉ line := by decide
  have law := parse_line_homomorphism .tcp [42] Sample.top [] Sample.left Sample.right whole
  exact ⟨whole, law.1, by decide +kernel⟩

end ConnectionTable
end ProcInspection
