import ProcInspection.Proofs.Task.Name
import ProcInspection.Proofs.Task.Status.Document
import ProcInspection.Proofs.Text.Number
import ProcInspection.Proofs.Text.Trim

namespace ProcInspection
namespace Status

/-!
The sample file read back.

The sample is a file of labelled lines.  Every key that the reader knows is the
label of one of them, so each field is what its one value says.  The name and
the state may hold colons and the texts of other keys, which stay parts of their
values, and the number of threads is printed and read back.
-/

def entry (label value : String) : Bytes × Bytes :=
  (Utf8.encode label, Utf8.encode value)

/-- The lines of the sample that are always the same: its mask, its relatives,
its owners and its sizes. -/
def maskEntries : List (Bytes × Bytes) :=
  [entry "Umask" "\t0022"]

def relativeEntries : List (Bytes × Bytes) :=
  [entry "Tgid" "\t1", entry "Ngid" "\t0", entry "Pid" "\t1", entry "PPid" "\t0"]

def ownerEntries : List (Bytes × Bytes) :=
  [entry "Uid" "\t1000\t1000\t1000\t1000", entry "Gid" "\t100\t100\t100\t100"]

def sizeEntries : List (Bytes × Bytes) :=
  [entry "VmPeak" "\t  10240 kB", entry "VmSize" "\t  10000 kB", entry "VmRSS" "\t   2048 kB"]

/-- The labels and values of the sample. -/
def sampleEntries (name state : Bytes) (threads : UInt32) : List (Bytes × Bytes) :=
  [(Utf8.encode "Name", 0x09 :: name)] ++ maskEntries ++ [(Utf8.encode "State", 0x09 :: state)]
    ++ relativeEntries ++ ownerEntries ++ sizeEntries
    ++ [(Utf8.encode "Threads", 0x09 :: Utf8.encode (Decimal.text threads.toNat))]

theorem sample_eq (name state : String) (threads : UInt32) :
    Utf8.encodeChars (sample name.toList state.toList threads) =
      document (sampleEntries (Utf8.encode name) (Utf8.encode state) threads) := by
  have first : Utf8.encodeChars "Name:\t".toList = Utf8.encode "Name" ++ [colon, 0x09] := by
    decide
  have mask : Utf8.encodeChars "\nUmask:\t0022\nState:\t".toList =
      TaskName.lineFeed :: document maskEntries ++ (Utf8.encode "State" ++ [colon, 0x09]) := by
    decide
  have relatives : Utf8.encodeChars "\nTgid:\t1\nNgid:\t0\nPid:\t1\nPPid:\t0\n".toList =
      TaskName.lineFeed :: document relativeEntries := by
    decide
  have owners :
      Utf8.encodeChars "Uid:\t1000\t1000\t1000\t1000\nGid:\t100\t100\t100\t100\n".toList =
        document ownerEntries := by
    decide
  have sizes : Utf8.encodeChars
      "VmPeak:\t  10240 kB\nVmSize:\t  10000 kB\nVmRSS:\t   2048 kB\nThreads:\t".toList =
        document sizeEntries ++ (Utf8.encode "Threads" ++ [colon, 0x09]) := by
    decide +kernel
  unfold sample sampleEntries
  simp only [Utf8.encodeChars_append, first, mask, relatives, owners, sizes,
    ← Decimal.encode_text, document_append, document_cons, List.append_assoc, List.cons_append, List.nil_append]
  rfl

theorem lineFeed_not_mem_encode {text : String} (clean : '\n' ∉ text.toList) :
    TaskName.lineFeed ∉ Utf8.encode text := by
  rw [← List.count_eq_zero] at clean ⊢
  rw [← TaskName.count_newline_decodeLossy, Utf8.decodeLossy_encode, clean]

theorem newline_not_mem_text (value : Nat) : '\n' ∉ (Decimal.text value).toList := by
  rw [Decimal.text, String.toList_ofList]
  exact List.count_eq_zero.mp (Decimal.count_newline_digits value)

theorem plain_sampleEntries {name state : Bytes} (threads : UInt32)
    (nameUnbroken : TaskName.lineFeed ∉ name) (stateUnbroken : TaskName.lineFeed ∉ state) :
    forall entry, entry ∈ sampleEntries name state threads -> Plain entry := by
  have fixed : forall entry,
      entry ∈ maskEntries ++ (relativeEntries ++ (ownerEntries ++ sizeEntries)) -> Plain entry := by
    decide
  have digits := lineFeed_not_mem_encode (newline_not_mem_text threads.toNat)
  unfold sampleEntries
  simp only [List.forall_mem_append, List.forall_mem_singleton] at fixed ⊢
  exact ⟨⟨⟨⟨⟨⟨plain_tabbed (by decide) nameUnbroken, fixed.1⟩,
    plain_tabbed (by decide) stateUnbroken⟩, fixed.2.1⟩, fixed.2.2.1⟩, fixed.2.2.2⟩,
    plain_tabbed (by decide) digits⟩

/-- What the sample says of each key. -/
def sampleValue (name state : Bytes) (threads : UInt32) : Key -> Bytes
  | .name => 0x09 :: name
  | .state => 0x09 :: state
  | .user => Utf8.encode "\t1000\t1000\t1000\t1000"
  | .group => Utf8.encode "\t100\t100\t100\t100"
  | .virtualSize => Utf8.encode "\t  10000 kB"
  | .residentSize => Utf8.encode "\t   2048 kB"
  | .peakSize => Utf8.encode "\t  10240 kB"
  | .threads => 0x09 :: Utf8.encode (Decimal.text threads.toNat)

theorem values_sample {name state : Bytes} (threads : UInt32)
    (nameUnbroken : TaskName.lineFeed ∉ name) (stateUnbroken : TaskName.lineFeed ∉ state)
    (key : Key) :
    values key (document (sampleEntries name state threads)) =
      [sampleValue name state threads key] := by
  rw [values_document (plain_sampleEntries threads nameUnbroken stateUnbroken)]
  cases key <;> rfl

/-! ## Reading the values -/

/-- A number behind a tab is read back as a count. -/
theorem count_tabbed (number : UInt32) :
    count (String.ofList ('\t' :: Decimal.digits number.toNat)) = number := by
  have trimmed : Blank.trim ('\t' :: Decimal.digits number.toNat) = Decimal.digits number.toNat :=
    Blank.trim_run (List.forall_mem_singleton.mpr (by decide)) fun _ => Decimal.mem_digits_clean
  rw [count, String.toList_ofList, trimmed, Decimal.signedWord32?, Decimal.withoutPlus_digits,
    Decimal.word32?_digits, Option.getD_some]

/-- The fields of the sample, read back. -/
def sampleField (name state : Bytes) (threads : UInt32) : (key : Key) -> key.Field
  | .name => TaskName.ofBytes (Blank.trimBytes name)
  | .state => RunState.ofValue state
  | .user => (1000, 1000)
  | .group => (100, 100)
  | .virtualSize => (10000 : UInt64)
  | .residentSize => (2048 : UInt64)
  | .peakSize => (10240 : UInt64)
  | .threads => threads

theorem read?_sampleValue (name state : Bytes) (threads : UInt32) (key : Key) :
    key.read? (sampleValue name state threads key) = some (sampleField name state threads key) := by
  have owners : idPair? "\t1000\t1000\t1000\t1000" = some (1000, 1000) ∧
      idPair? "\t100\t100\t100\t100" = some (100, 100) := by
    decide +kernel
  have sizes : kilobytes "\t  10000 kB" = 10000 ∧ kilobytes "\t   2048 kB" = 2048 ∧
      kilobytes "\t  10240 kB" = 10240 := by
    decide +kernel
  have decoded (text : String) : Utf8.decode? (Utf8.encode text) = some text :=
    Utf8.decode?_eq_some_iff.mpr rfl
  cases key with
  | name =>
      exact congrArg (fun held => some (TaskName.ofBytes held))
        (Blank.trimBytes_cons (by decide) name)
  | state => rfl
  | user => rw [sampleValue, Key.read?, decoded, Option.bind_some, owners.1]; rfl
  | group => rw [sampleValue, Key.read?, decoded, Option.bind_some, owners.2]; rfl
  | virtualSize => rw [sampleValue, Key.read?, decoded, Option.map_some, sizes.1]; rfl
  | residentSize => rw [sampleValue, Key.read?, decoded, Option.map_some, sizes.2.1]; rfl
  | peakSize => rw [sampleValue, Key.read?, decoded, Option.map_some, sizes.2.2]; rfl
  | threads =>
      have written : (0x09 : UInt8) :: Utf8.encode (Decimal.text threads.toNat) =
          Utf8.encode (String.ofList ('\t' :: Decimal.digits threads.toNat)) := by
        rw [Decimal.encode_text, Utf8.encode, String.toList_ofList]
        rfl
      rw [sampleValue, Key.read?, written, decoded, Option.map_some, count_tabbed]
      rfl

/-- A sample is read back as it was written.  Whatever the name and the state
look like, as long as they stay on their lines, they change no other field. -/
theorem parse_sample (pid : ProcessId) {name state : String} (threads : UInt32)
    (nameUnbroken : '\n' ∉ name.toList) (stateUnbroken : '\n' ∉ state.toList) :
    Exists fun held : Bytes => Blank.Trims (Utf8.encode name) held ∧
      parse pid (Utf8.encodeChars (sample name.toList state.toList threads)) =
        { pid := pid
          name := Utf8.decodeLossy (held.take 15)
          state := RunState.ofValue (Utf8.encode state)
          realUser := 1000
          effectiveUser := 1000
          realGroup := 100
          effectiveGroup := 100
          virtualSize := 10000
          residentSize := 2048
          peakSize := 10240
          threadCount := threads } := by
  refine ⟨_, Blank.trims_trimBytes _, ?_⟩
  rw [sample_eq]
  apply eq_of_field_eq (pid_parse pid _)
  intro key
  rw [field_of_values (values_sample threads (lineFeed_not_mem_encode nameUnbroken)
    (lineFeed_not_mem_encode stateUnbroken) key) (read?_sampleValue _ _ threads key)]
  cases key <;> rfl

namespace Sample

/-- A name and a state that look like other lines of the file. -/
def mimicName : String :=
  " Uid:\t0 Threads:9\t"

def mimicState : String :=
  "Z State:\tR"

def mimicked : Status where
  pid := ⟨7⟩
  name := "Uid:\t0 Threads:"
  state := .zombie
  realUser := 1000
  effectiveUser := 1000
  realGroup := 100
  effectiveGroup := 100
  virtualSize := 10000
  residentSize := 2048
  peakSize := 10240
  threadCount := 4294967295

end Sample

theorem parse_sample_mimicked :
    '\n' ∉ Sample.mimicName.toList ∧ '\n' ∉ Sample.mimicState.toList ∧
      parse ⟨7⟩ (Utf8.encodeChars
        (sample Sample.mimicName.toList Sample.mimicState.toList 4294967295)) =
          Sample.mimicked := by
  have nameUnbroken : '\n' ∉ Sample.mimicName.toList := by decide
  have stateUnbroken : '\n' ∉ Sample.mimicState.toList := by decide
  rcases parse_sample ⟨7⟩ 4294967295 nameUnbroken stateUnbroken with ⟨held, trims, parsed⟩
  have bare : Blank.trimBytes (Utf8.encode Sample.mimicName) =
      Utf8.encode "Uid:\t0 Threads:9" := by
    decide +kernel
  have shown : Utf8.decodeLossy (held.take 15) = "Uid:\t0 Threads:" := by
    rw [trims.eq_trimBytes, bare]
    decide +kernel
  have zombie : RunState.ofValue (Utf8.encode Sample.mimicState) = .zombie := by decide +kernel
  refine ⟨nameUnbroken, stateUnbroken, ?_⟩
  rw [parsed, shown, zombie]
  rfl

end Status
end ProcInspection
