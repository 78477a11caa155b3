import ProcInspection.Proofs.Task.Status
import ProcInspection.Proofs.Text.Number

namespace ProcInspection

/-!
Values that are no numbers.

Six keys have numbers for values.  If a value is not even text, or if it is no
pair of identifiers where one is asked for, its line might as well be missing.
A size or a count that is text and no number is not passed over in this way: it
stands for zero, and takes the place of what an earlier line of its key has said.
-/

namespace Decimal

/-- A number below a bound, with at most one plus sign in front. -/
def IsSigned (size : Nat) (text : List Char) : Prop :=
  Exists fun value : Nat => Denotes ((withoutPlus text).map Char.toNat) value ∧ value < size

theorem isSigned_word32_iff (text : List Char) :
    IsSigned UInt32.size text <-> (signedWord32? text).isSome = true := by
  rw [Option.isSome_iff_exists]
  simp only [signedWord32?, word32?_eq_some_iff]
  exact exists_word32_iff

theorem isSigned_word64_iff (text : List Char) :
    IsSigned UInt64.size text <-> (signedWord64? text).isSome = true := by
  rw [Option.isSome_iff_exists]
  simp only [signedWord64?, word64?_eq_some_iff]
  exact exists_word64_iff

end Decimal

namespace Status

namespace Key

/-- The keys that have numbers for values. -/
def numeric : List Key :=
  [.user, .group, .virtualSize, .residentSize, .peakSize, .threads]

/-- Two words that are numbers, and perhaps more words. -/
def IsPair (text : List Char) : Prop :=
  Exists fun real : List Char => Exists fun effective : List Char => Exists fun rest =>
    Blank.words text = real :: effective :: rest ∧
      Decimal.IsSigned UInt32.size real ∧ Decimal.IsSigned UInt32.size effective

/-- A word that is a number, and perhaps more words. -/
def IsSize (text : List Char) : Prop :=
  Exists fun size : List Char => Exists fun rest =>
    Blank.words text = size :: rest ∧ Decimal.IsSigned UInt64.size size

/-- What a key asks of a text. -/
def Fits (text : List Char) : Key -> Prop
  | .name => True
  | .state => True
  | .user => IsPair text
  | .group => IsPair text
  | .virtualSize => IsSize text
  | .residentSize => IsSize text
  | .peakSize => IsSize text
  | .threads => Decimal.IsSigned UInt32.size (Blank.trim text)

/-- A value is parsed if it is a text that fits its key. -/
def Parses (key : Key) (value : Bytes) : Prop :=
  Exists fun text : String => Utf8.decode? value = some text ∧ key.Fits text.toList

end Key

variable {pid : ProcessId} {status : Status} {key : Key} {line value content : Bytes} {index : Nat}

theorem idPair?_of_no_pair {text : String} (other : ¬ Key.IsPair text.toList) :
    idPair? text = none := by
  unfold idPair?
  cases words : Blank.words text.toList with
  | nil => rfl
  | cons real more =>
      cases more with
      | nil => rfl
      | cons effective rest =>
          cases first : Decimal.signedWord32? real with
          | none => simp only [first]
          | some realUser =>
              cases second : Decimal.signedWord32? effective with
              | none => simp only [first, second]
              | some effectiveUser =>
                  exact (other ⟨real, effective, rest, words,
                    (Decimal.isSigned_word32_iff real).mpr (Option.isSome_of_mem first),
                    (Decimal.isSigned_word32_iff effective).mpr (Option.isSome_of_mem second)⟩).elim

theorem kilobytes_of_no_size {text : String} (other : ¬ Key.IsSize text.toList) :
    kilobytes text = 0 := by
  unfold kilobytes
  cases words : Blank.words text.toList with
  | nil => rfl
  | cons size rest =>
      cases read : Decimal.signedWord64? size with
      | none => simp only [read, Option.getD_none]
      | some number =>
          exact (other ⟨size, rest, words,
            (Decimal.isSigned_word64_iff size).mpr (Option.isSome_of_mem read)⟩).elim

theorem count_of_no_number {text : String}
    (other : ¬ Decimal.IsSigned UInt32.size (Blank.trim text.toList)) : count text = 0 := by
  unfold count
  cases read : Decimal.signedWord32? (Blank.trim text.toList) with
  | none => rfl
  | some number =>
      exact (other ((Decimal.isSigned_word32_iff _).mpr (Option.isSome_of_mem read))).elim

theorem read?_of_no_text (numeric : key ∈ Key.numeric) (broken : Utf8.decode? value = none) :
    key.read? value = none := by
  cases key with
  | name | state => exact absurd numeric (by decide)
  | user | group | virtualSize | residentSize | peakSize | threads =>
      rw [Key.read?, broken]
      rfl

/-- A text that does not fit is nothing under the key of a pair, and stands for
zero under that of a size or a count. -/
theorem read?_of_misfit (pid : ProcessId) {text : String} (decoded : Utf8.decode? value = some text)
    (misfit : ¬ key.Fits text.toList) :
    key.read? value =
      if key = .user ∨ key = .group then none else some (key.field (empty pid)) := by
  cases key with
  | name | state => exact absurd trivial misfit
  | user | group =>
      rw [Key.read?, decoded, Option.bind_some, idPair?_of_no_pair misfit]
      rfl
  | virtualSize | residentSize | peakSize =>
      rw [Key.read?, decoded, Option.map_some, kilobytes_of_no_size misfit]
      rfl
  | threads =>
      rw [Key.read?, decoded, Option.map_some, count_of_no_number misfit]
      rfl

theorem read?_of_unparsed (pid : ProcessId) (numeric : key ∈ Key.numeric)
    (unparsed : ¬ key.Parses value) :
    key.read? value =
      if key = .user ∨ key = .group ∨ Utf8.decode? value = none then none
      else some (key.field (empty pid)) := by
  cases decoded : Utf8.decode? value with
  | none =>
      rw [if_pos (Or.inr (Or.inr rfl))]
      exact read?_of_no_text numeric decoded
  | some text =>
      have misfit : ¬ key.Fits text.toList := fun fits => unparsed ⟨text, decoded, fits⟩
      simp only [read?_of_misfit pid decoded misfit, reduceCtorEq, or_false]

/-! ## A line left out -/

/-- A content without one of its lines. -/
def withoutLine (content : Bytes) (index : Nat) : Bytes :=
  joinLines ((lines content).eraseIdx index)

/-- A content up to one of its lines. -/
def upToLine (content : Bytes) (index : Nat) : Bytes :=
  joinLines ((lines content).take index)

/-- A later line says something for a key. -/
def SaidAgain (key : Key) (found : List Bytes) : Prop :=
  Exists fun later : Bytes => later ∈ found ∧ (key.said? later).isSome = true

theorem getLast?_filterMap_said? {found : List Bytes} :
    (found.filterMap key.said?).getLast? = none <-> ¬ SaidAgain key found := by
  rw [List.getLast?_eq_none_iff, List.filterMap_eq_nil_iff, SaidAgain]
  simp only [not_exists, not_and, Bool.not_eq_true, Option.isSome_eq_false_iff,
    Option.isNone_iff_eq_none]

/-- A line that speaks of a key can be left out if a later line takes its place
or if it leaves the field as it was, and only then. -/
theorem foldl_skip_iff (status : Status) {found : List Bytes}
    (spoken : key.value? line = some value) :
    found.foldl addLine status = found.foldl addLine (status.addLine line) <->
      SaidAgain key found ∨ (key.read? value).getD (key.field status) = key.field status := by
  constructor
  · intro same
    by_cases again : SaidAgain key found
    · exact Or.inl again
    · have fields := congrArg (fun after => key.field after) same
      simp only [field_foldl, getLast?_filterMap_said?.mpr again, Option.getD_none, field_addLine,
        Key.said?_of_value? spoken] at fields
      exact Or.inr fields.symm
  · intro idle
    apply eq_of_field_eq
    · rw [pid_foldl, pid_foldl, pid_addLine]
    · intro other
      rw [field_foldl, field_foldl, field_addLine]
      -- What stood before counts only if no later line says anything, and only for this key.
      cases last : (found.filterMap other.said?).getLast? with
      | some held => rfl
      | none =>
          rw [Option.getD_none, Option.getD_none]
          by_cases same : other = key
          · subst same
            rcases idle with again | kept
            · exact absurd again (getLast?_filterMap_said?.mp last)
            · rw [Key.said?_of_value? spoken, kept]
          · rw [Key.said?_of_ne spoken same, Option.getD_none]

theorem parse_upToLine (pid : ProcessId) (content : Bytes) (index : Nat) :
    parse pid (upToLine content index) = ((lines content).take index).foldl addLine (empty pid) :=
  parse_joinLines pid fun _ member => lineFeed_not_mem_line (List.mem_of_mem_take member)

/-- A content and the same content without a line are read alike up to that line
and behind it. -/
theorem parse_around (pid : ProcessId) (here : (lines content)[index]? = some line) :
    parse pid content =
        ((lines content).drop (index + 1)).foldl addLine
          ((parse pid (upToLine content index)).addLine line) ∧
      parse pid (withoutLine content index) =
        ((lines content).drop (index + 1)).foldl addLine (parse pid (upToLine content index)) := by
  rcases List.getElem?_eq_some_iff.mp here with ⟨inside, found⟩
  have whole : lines content =
      (lines content).take index ++ line :: (lines content).drop (index + 1) := by
    rw [← found, ← List.drop_eq_getElem_cons inside, List.take_append_drop]
  constructor
  · conv => lhs; rw [parse, whole]
    rw [List.foldl_append, List.foldl_cons, parse_upToLine]
  · have clean : forall line, line ∈ (lines content).eraseIdx index -> TaskName.lineFeed ∉ line :=
      fun _ member => lineFeed_not_mem_line (List.mem_of_mem_eraseIdx member)
    rw [withoutLine, parse_joinLines pid clean, List.eraseIdx_eq_take_drop_succ, List.foldl_append,
      parse_upToLine]

/-- A line of a key that has a number for its value can be left out, if its value
is not parsed, under the key of a pair of identifiers, and where the value is not
even text.  Under the key of a size or a count the line stands for zero, so it
can be left out if a later line takes its place or if there is nothing before it
but zero, and only then. -/
theorem withoutLine_unparsed_iff (pid : ProcessId) (numeric : key ∈ Key.numeric)
    (here : (lines content)[index]? = some line) (spoken : key.value? line = some value)
    (unparsed : ¬ key.Parses value) :
    parse pid (withoutLine content index) = parse pid content <->
      key = .user ∨ key = .group ∨ Utf8.decode? value = none ∨
        SaidAgain key ((lines content).drop (index + 1)) ∨
        key.field (parse pid (upToLine content index)) = key.field (empty pid) := by
  rcases parse_around pid here with ⟨whole, without⟩
  rw [whole, without, foldl_skip_iff _ spoken, read?_of_unparsed pid numeric unparsed]
  by_cases lost : key = .user ∨ key = .group ∨ Utf8.decode? value = none
  · rw [if_pos lost]
    constructor
    · rintro -
      rcases lost with user | group | broken
      · exact Or.inl user
      · exact Or.inr (Or.inl group)
      · exact Or.inr (Or.inr (Or.inl broken))
    · rintro -
      exact Or.inr rfl
  · rw [if_neg lost, Option.getD_some]
    simp only [not_or] at lost
    simp only [lost, false_or, eq_comm]

namespace Sample

def unsized : Bytes :=
  Utf8.encode "VmSize:\tnone"

/-- A size, and a later line of its key that has none. -/
def overwritten : Bytes :=
  Utf8.encode "VmSize:\t10 kB\nVmSize:\tnone\n"

/-- The same, and a size again. -/
def resized : Bytes :=
  overwritten ++ Utf8.encode "VmSize:\t7 kB"

theorem value?_unsized : Key.virtualSize.value? unsized = some (Utf8.encode "\tnone") := by
  decide +kernel

theorem not_parses_unsized : ¬ Key.virtualSize.Parses (Utf8.encode "\tnone") := by
  rintro ⟨text, decoded, size, rest, words, number⟩
  have same : some "\tnone" = some text := (show _ = _ by decide +kernel).trans decoded
  rw [← Option.some.inj same] at words
  have word : ["none".toList] = size :: rest := (show _ = _ by decide +kernel).trans words
  rw [← (List.cons.inj word).1, Decimal.isSigned_word64_iff] at number
  exact absurd number (by decide)

end Sample

theorem withoutLine_unparsed_resized :
    Key.virtualSize ∈ Key.numeric ∧
      (lines Sample.resized)[1]? = some Sample.unsized ∧
      Key.virtualSize.value? Sample.unsized = some (Utf8.encode "\tnone") ∧
      ¬ Key.virtualSize.Parses (Utf8.encode "\tnone") ∧
      parse ⟨5⟩ (withoutLine Sample.resized 1) = parse ⟨5⟩ Sample.resized := by
  have numeric : Key.virtualSize ∈ Key.numeric := by decide
  have here : (lines Sample.resized)[1]? = some Sample.unsized := by decide +kernel
  have again : SaidAgain .virtualSize ((lines Sample.resized).drop 2) :=
    ⟨Utf8.encode "VmSize:\t7 kB", by decide +kernel, by decide +kernel⟩
  refine ⟨numeric, here, Sample.value?_unsized, Sample.not_parses_unsized, ?_⟩
  exact (withoutLine_unparsed_iff ⟨5⟩ numeric here Sample.value?_unsized
    Sample.not_parses_unsized).mpr (Or.inr (Or.inr (Or.inr (Or.inl again))))

/-- A size that is no number takes the place of one that is. -/
theorem unparsed_not_always_ignored :
    ¬ forall (pid : ProcessId) (content : Bytes) (index : Nat) (key : Key) (line value : Bytes),
      key ∈ Key.numeric -> (lines content)[index]? = some line -> key.value? line = some value ->
        ¬ key.Parses value -> parse pid (withoutLine content index) = parse pid content := by
  intro always
  have same := always ⟨5⟩ Sample.overwritten 1 .virtualSize Sample.unsized _ (by decide)
    (by decide +kernel) Sample.value?_unsized Sample.not_parses_unsized
  have kept : (parse ⟨5⟩ (withoutLine Sample.overwritten 1)).virtualSize = 10 := by decide +kernel
  have reset : (parse ⟨5⟩ Sample.overwritten).virtualSize = 0 := by decide +kernel
  rw [same, reset] at kept
  exact absurd kept (by decide)

end Status
end ProcInspection
