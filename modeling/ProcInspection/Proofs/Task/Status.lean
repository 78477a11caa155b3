import Mathlib.Data.List.Basic
import Mathlib.Data.List.TakeWhile
import ProcInspection.Proofs.Text.Words
import ProcInspection.Task.Status

namespace ProcInspection
namespace Status

/-!
What the lines of a status file say.

A line speaks of a key if that key is all that stands before its first colon,
and it says what stands behind.  Each key feeds fields of its own.  A line that
speaks of another key, or of none, leaves them alone, and so does a line whose
value cannot be taken over.  So a field holds what the last of the lines of its
key has said that could be taken over, and as long as there is none, it is empty.
-/

namespace Key

/-- A line speaks of a key if the bytes before its first colon are the key. -/
def Begins (key : Key) (line : Bytes) : Prop :=
  colon ∈ line ∧ (line.takeWhile fun byte => byte ≠ colon) = Utf8.encode key.text

instance (key : Key) : DecidablePred key.Begins :=
  fun _ => inferInstanceAs (Decidable (_ ∧ _))

/-- What a line says of a key, if it speaks of it: what stands behind the first
colon. -/
def value? (key : Key) (line : Bytes) : Option Bytes :=
  if key.Begins line then some ((line.dropWhile fun byte => byte ≠ colon).drop 1) else none

/-- What a key feeds. -/
abbrev Field : Key -> Type
  | .name => String
  | .state => RunState
  | .user => UInt32 × UInt32
  | .group => UInt32 × UInt32
  | .virtualSize => UInt64
  | .residentSize => UInt64
  | .peakSize => UInt64
  | .threads => UInt32

def field (status : Status) : (key : Key) -> key.Field
  | .name => status.name
  | .state => status.state
  | .user => (status.realUser, status.effectiveUser)
  | .group => (status.realGroup, status.effectiveGroup)
  | .virtualSize => status.virtualSize
  | .residentSize => status.residentSize
  | .peakSize => status.peakSize
  | .threads => status.threadCount

def put (status : Status) : (key : Key) -> key.Field -> Status
  | .name, found => { status with name := found }
  | .state, found => { status with state := found }
  | .user, found => { status with realUser := found.1, effectiveUser := found.2 }
  | .group, found => { status with realGroup := found.1, effectiveGroup := found.2 }
  | .virtualSize, found => { status with virtualSize := found }
  | .residentSize, found => { status with residentSize := found }
  | .peakSize, found => { status with peakSize := found }
  | .threads, found => { status with threadCount := found }

/-- What is taken over from a value, if anything is. -/
def read? (value : Bytes) : (key : Key) -> Option key.Field
  | .name => some (TaskName.ofBytes (Blank.trimBytes value))
  | .state => some (RunState.ofValue value)
  | .user => (Utf8.decode? value).bind idPair?
  | .group => (Utf8.decode? value).bind idPair?
  | .virtualSize => (Utf8.decode? value).map kilobytes
  | .residentSize => (Utf8.decode? value).map kilobytes
  | .peakSize => (Utf8.decode? value).map kilobytes
  | .threads => (Utf8.decode? value).map count

/-- What is taken over from a line. -/
def said? (key : Key) (line : Bytes) : Option key.Field :=
  (key.value? line).bind fun value => key.read? value

end Key

variable {status : Status} {key other : Key} {line value : Bytes}

/-! ## One line -/

theorem splitLine?_of_clean {before : Bytes} (clean : colon ∉ before) (after : Bytes) :
    splitLine? (before ++ colon :: after) = some (before, after) := by
  rw [splitLine?, dropWhile_before clean, takeWhile_before clean]

theorem splitLine?_of_not_mem (clean : colon ∉ line) : splitLine? line = none := by
  have passed : (line.dropWhile fun byte => decide (byte ≠ colon)) = [] :=
    List.dropWhile_eq_nil_iff.mpr (passes_before clean)
  rw [splitLine?, passed]

namespace Key

theorem ofBytes?_eq_some_iff {bytes : Bytes} :
    ofBytes? bytes = some key <-> bytes = Utf8.encode key.text := by
  constructor
  · intro found
    have same := List.find?_some found
    exact (of_decide_eq_true same).symm
  · rintro rfl
    cases key <;> decide

theorem colon_not_mem_text (key : Key) : colon ∉ Utf8.encode key.text := by
  cases key <;> decide

theorem value?_eq_some_iff :
    key.value? line = some value <-> line = Utf8.encode key.text ++ colon :: value := by
  unfold value?
  constructor
  · intro found
    by_cases begins : key.Begins line
    · rw [if_pos begins] at found
      rcases List.eq_append_cons_of_mem begins.1 with ⟨before, after, rfl, clean⟩
      have same := begins.2
      rw [takeWhile_before clean] at same
      rw [dropWhile_before clean] at found
      rw [same, ← Option.some.inj found]
      rfl
    · rw [if_neg begins] at found
      cases found
  · rintro rfl
    have clean := key.colon_not_mem_text
    have begins : key.Begins (Utf8.encode key.text ++ colon :: value) :=
      ⟨List.mem_append_right _ List.mem_cons_self, takeWhile_before clean value⟩
    rw [if_pos begins, dropWhile_before clean]
    rfl

/-- A line speaks of one key only. -/
theorem value?_unique {another : Bytes} (one : key.value? line = some value)
    (also : other.value? line = some another) : key = other := by
  have same := (value?_eq_some_iff.mp one).symm.trans (value?_eq_some_iff.mp also)
  have split := congrArg splitLine? same
  rw [splitLine?_of_clean key.colon_not_mem_text, splitLine?_of_clean other.colon_not_mem_text]
    at split
  have texts := (Prod.mk.inj (Option.some.inj split)).1
  exact Option.some.inj ((ofBytes?_eq_some_iff.mpr texts).symm.trans
    (ofBytes?_eq_some_iff.mpr rfl)).symm

theorem said?_of_value? (spoken : key.value? line = some value) :
    key.said? line = key.read? value := by
  rw [said?, spoken, Option.bind_some]

theorem said?_of_not_begins (other : ¬ key.Begins line) : key.said? line = none := by
  rw [said?, value?, if_neg other, Option.bind_none]

/-- Of a line that speaks of one key nothing is taken over for another. -/
theorem said?_of_ne (spoken : key.value? line = some value) (different : other ≠ key) :
    other.said? line = none := by
  cases also : other.value? line with
  | none => rw [said?, also, Option.bind_none]
  | some another => exact absurd (value?_unique also spoken) different

end Key

theorem addLine_of_value? (found : key.value? line = some value) :
    status.addLine line = status.set key value := by
  rw [Key.value?_eq_some_iff.mp found, addLine, splitLine?_of_clean key.colon_not_mem_text]
  simp only [Key.ofBytes?_eq_some_iff.mpr (Eq.refl (Utf8.encode key.text))]

/-- A line that speaks of no key changes nothing. -/
theorem addLine_of_silent (silent : forall key : Key, key.value? line = none) :
    status.addLine line = status := by
  by_cases member : colon ∈ line
  · rcases List.eq_append_cons_of_mem member with ⟨before, after, rfl, clean⟩
    rw [addLine, splitLine?_of_clean clean]
    cases known : Key.ofBytes? before with
    | none => simp only [known]
    | some key =>
        have said : key.value? (before ++ colon :: after) = some after := by
          rw [Key.value?_eq_some_iff, Key.ofBytes?_eq_some_iff.mp known]
        rw [silent key] at said
        cases said
  · rw [addLine, splitLine?_of_not_mem member]

/-! ## Fields -/

namespace Key

theorem field_put (status : Status) (key : Key) (found : key.Field) :
    key.field (key.put status found) = found := by
  cases key <;> rfl

theorem field_put_of_ne (different : key ≠ other) (status : Status) (found : other.Field) :
    key.field (other.put status found) = key.field status := by
  cases key <;> cases other <;> first | rfl | exact absurd rfl different

theorem pid_put (status : Status) (key : Key) (found : key.Field) :
    (key.put status found).pid = status.pid := by
  cases key <;> rfl

end Key

/-- A status is its process and what the keys have fed. -/
theorem eq_of_field_eq {one another : Status} (pid : one.pid = another.pid)
    (fields : forall key : Key, key.field one = key.field another) : one = another := by
  have user := Prod.mk.inj (fields .user)
  have group := Prod.mk.inj (fields .group)
  rcases one with ⟨_, _, _, _, _, _, _, _, _, _, _⟩
  rcases another with ⟨_, _, _, _, _, _, _, _, _, _, _⟩
  rw [Status.mk.injEq]
  exact ⟨pid, fields .name, fields .state, user.1, user.2, group.1, group.2, fields .virtualSize,
    fields .residentSize, fields .peakSize, fields .threads⟩

/-- A value that can be taken over takes the place of the field, and no other
value does anything. -/
theorem set_eq (status : Status) (key : Key) (value : Bytes) :
    status.set key value =
      match key.read? value with
      | some found => key.put status found
      | none => status := by
  cases key with
  | name => rfl
  | state => rfl
  | user | group =>
      unfold set Key.read?
      cases Utf8.decode? value with
      | none => rfl
      | some text =>
          rw [Option.bind_some]
          simp only [setText]
          cases idPair? text <;> rfl
  | virtualSize | residentSize | peakSize | threads =>
      unfold set Key.read?
      cases Utf8.decode? value <;> rfl

theorem addLine_of_said? {found : key.Field} (said : key.said? line = some found) :
    status.addLine line = key.put status found := by
  rcases Option.bind_eq_some_iff.mp said with ⟨value, spoken, read⟩
  rw [addLine_of_value? spoken, set_eq, read]

/-- A line changes the status only if something is taken over from it. -/
theorem addLine_of_unsaid (unsaid : forall key : Key, key.said? line = none) :
    status.addLine line = status := by
  by_cases silent : forall key : Key, key.value? line = none
  · exact addLine_of_silent silent
  · rcases not_forall.mp silent with ⟨key, speaks⟩
    rcases Option.ne_none_iff_exists'.mp speaks with ⟨value, spoken⟩
    have unread : key.read? value = none := (Key.said?_of_value? spoken).symm.trans (unsaid key)
    rw [addLine_of_value? spoken, set_eq, unread]

/-- A line touches a field only as far as something is taken over from it for
this very field. -/
theorem field_addLine (status : Status) (key : Key) (line : Bytes) :
    key.field (status.addLine line) = (key.said? line).getD (key.field status) := by
  cases said : key.said? line with
  | some found => rw [addLine_of_said? said, key.field_put, Option.getD_some]
  | none =>
      rw [Option.getD_none]
      by_cases unsaid : forall other : Key, other.said? line = none
      · rw [addLine_of_unsaid unsaid]
      · rcases not_forall.mp unsaid with ⟨other, spoken⟩
        rcases Option.ne_none_iff_exists'.mp spoken with ⟨found, also⟩
        have different : key ≠ other := by
          rintro rfl
          exact spoken said
        rw [addLine_of_said? also, Key.field_put_of_ne different]

theorem pid_addLine (status : Status) (line : Bytes) : (status.addLine line).pid = status.pid := by
  by_cases unsaid : forall key : Key, key.said? line = none
  · rw [addLine_of_unsaid unsaid]
  · rcases not_forall.mp unsaid with ⟨key, spoken⟩
    rcases Option.ne_none_iff_exists'.mp spoken with ⟨found, said⟩
    rw [addLine_of_said? said, key.pid_put]

/-! ## All lines -/

theorem pid_foldl (found : List Bytes) (status : Status) :
    (found.foldl addLine status).pid = status.pid := by
  induction found generalizing status with
  | nil => rfl
  | cons line found ih => rw [List.foldl_cons, ih, pid_addLine]

/-- After some lines a field holds what the last of them has said for it. -/
theorem field_foldl (key : Key) (found : List Bytes) (status : Status) :
    key.field (found.foldl addLine status) =
      (found.filterMap key.said?).getLast?.getD (key.field status) := by
  induction found generalizing status with
  | nil => rfl
  | cons line found ih =>
      rw [List.foldl_cons, ih, field_addLine]
      cases said : key.said? line with
      | none => rw [List.filterMap_cons_none said, Option.getD_none]
      | some held => rw [List.filterMap_cons_some said, List.getLast?_cons, Option.getD_some,
          Option.getD_some]

theorem pid_parse (pid : ProcessId) (content : Bytes) : (parse pid content).pid = pid :=
  pid_foldl (lines content) (empty pid)

theorem field_parse (pid : ProcessId) (key : Key) (content : Bytes) :
    key.field (parse pid content) =
      ((lines content).filterMap key.said?).getLast?.getD (key.field (empty pid)) :=
  field_foldl key (lines content) (empty pid)

/-- What the lines of a content say of a key, in order. -/
def values (key : Key) (content : Bytes) : List Bytes :=
  (lines content).filterMap key.value?

theorem filterMap_values (key : Key) (content : Bytes) :
    ((values key content).filterMap fun value => key.read? value) =
      (lines content).filterMap key.said? :=
  List.filterMap_filterMap

/-! ## Lines put together -/

/-- What has no line feed is one line. -/
theorem lines_unbroken (unbroken : TaskName.lineFeed ∉ line) : lines line = [line] := by
  apply List.splitOnP_eq_singleton
  intro byte member
  apply beq_eq_false_iff_ne.mpr
  intro same
  exact unbroken (same ▸ member)

theorem lines_cons (unbroken : TaskName.lineFeed ∉ line) (rest : Bytes) :
    lines (line ++ TaskName.lineFeed :: rest) = line :: lines rest := by
  have divided := List.splitOnP_append_cons (p := fun byte => byte == TaskName.lineFeed) line rest
    (beq_self_eq_true TaskName.lineFeed)
  exact divided.trans (congrArg (· ++ _) (lines_unbroken unbroken))

theorem lineFeed_not_mem_line {content line : Bytes} (member : line ∈ lines content) :
    TaskName.lineFeed ∉ line := by
  intro inside
  have passed := not_stop_of_mem_splitOnP content line member TaskName.lineFeed inside
  rw [beq_self_eq_true] at passed
  cases passed

/-- A content of the given lines, the last of them not ended. -/
def joinLines (found : List Bytes) : Bytes :=
  [TaskName.lineFeed].intercalate found

theorem lines_joinLines {found : List Bytes} (some : found ≠ [])
    (clean : forall line, line ∈ found -> TaskName.lineFeed ∉ line) :
    lines (joinLines found) = found :=
  List.splitOn_intercalate TaskName.lineFeed clean some

/-- Lines put together are read one after another. -/
theorem parse_joinLines (pid : ProcessId) {found : List Bytes}
    (clean : forall line, line ∈ found -> TaskName.lineFeed ∉ line) :
    parse pid (joinLines found) = found.foldl addLine (empty pid) := by
  by_cases none : found = []
  · rw [none]
    rfl
  · rw [parse, lines_joinLines none clean]

/-! ## Keys apart -/

/-- The lines of other keys say nothing. -/
theorem filterMap_said? (key : Key) (found : List Bytes) :
    (found.filter fun line => key.Begins line).filterMap key.said? =
      found.filterMap key.said? := by
  rw [List.filterMap_filter]
  apply List.filterMap_congr
  intro line _
  by_cases begins : key.Begins line
  · rw [if_pos (decide_eq_true begins)]
  · rw [if_neg fun held => begins (of_decide_eq_true held), Key.said?_of_not_begins begins]

/-- The fields of a key are what the lines of this key alone make them.  So two
contents that have the same lines of a key, in the same order, have the same
fields of it, whatever other lines they have and wherever these stand.  And the
process is the one that was asked for. -/
theorem keys_apart (pid : ProcessId) (content : Bytes) :
    (parse pid content).pid = pid ∧
      forall key : Key,
        key.field (parse pid content) =
            key.field (parse pid (joinLines ((lines content).filter fun line => key.Begins line))) ∧
          forall (another : ProcessId) (other : Bytes),
            ((lines other).filter fun line => key.Begins line) =
                (lines content).filter (fun line => key.Begins line) ->
              key.field (parse another other) = key.field (parse pid content) := by
  refine ⟨pid_parse pid content, fun key => ⟨?_, ?_⟩⟩
  · rw [parse_joinLines pid fun line member => lineFeed_not_mem_line (List.mem_filter.mp member).1,
      field_foldl, filterMap_said?, field_parse]
  · intro another other same
    have nothing : key.field (empty another) = key.field (empty pid) := by
      cases key <;> rfl
    rw [field_parse, field_parse, ← filterMap_said? key (lines other), same, filterMap_said?,
      nothing]

namespace Sample

/-- Two names among a line without a colon, a value that is not text, an unknown
key and known keys. -/
def crowded : Bytes :=
  Utf8.encode "Pid:\t9\nVmSize:\tx\nName:\ta\nnonsense\nThreads:" ++ [0xFF] ++
    Utf8.encode "\nName:\tb:c"

def bare : Bytes :=
  Utf8.encode "Name:\ta\nName:\tb:c\nState:\tR\n"

end Sample

theorem keys_apart_crowded :
    ((lines Sample.bare).filter fun line => Key.name.Begins line) =
        (lines Sample.crowded).filter (fun line => Key.name.Begins line) ∧
      (parse ⟨7⟩ Sample.bare).name = (parse ⟨5⟩ Sample.crowded).name ∧
      (parse ⟨5⟩ Sample.crowded).pid = ⟨5⟩ := by
  have law := keys_apart ⟨5⟩ Sample.crowded
  have same : ((lines Sample.bare).filter fun line => Key.name.Begins line) =
      (lines Sample.crowded).filter (fun line => Key.name.Begins line) := by
    decide +kernel
  exact ⟨same, (law.2 .name).2 ⟨7⟩ Sample.bare same, law.1⟩

end Status
end ProcInspection
