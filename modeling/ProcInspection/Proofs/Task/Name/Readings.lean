import ProcInspection.Proofs.Task.Name
import ProcInspection.Proofs.Task.Status.Document
import ProcInspection.Proofs.Text.Trim

namespace ProcInspection

/-!
The name in both readings.

A name stands on a labelled line of the status file and alone in the file of
the main thread.  The first reading takes the blanks off its ends and cuts it,
the second only cuts it, and both decode what is left.  So they give the same
of a name without blanks at its ends.  Of any other name that is not cut they
give different texts: decoding keeps every blank, and the first reading has
fewer of them.
-/

namespace Blank

theorem ascii_of_blank {byte : UInt8} (blank : isBlankByte byte = true) : byte.toNat < 0x80 := by
  simp only [isBlankByte, Bool.or_eq_true, decide_eq_true_eq] at blank
  rcases blank with (((rfl | rfl) | rfl) | rfl) | rfl <;> decide

/-- What is left without the blanks is told apart by its decoding, unless there
were none. -/
theorem bare_of_decodeLossy_eq {raw held : Bytes} (trims : Trims raw held)
    (same : Utf8.decodeLossy held = Utf8.decodeLossy raw) : Bare raw := by
  rcases trims.around with ⟨before, after, whole, blankBefore, blankAfter⟩
  have none : forall byte, byte ∉ before ++ after := by
    intro byte member
    have ascii := ascii_of_blank (List.forall_mem_append.mpr ⟨blankBefore, blankAfter⟩ byte member)
    have counts : held.count byte = raw.count byte := by
      rw [← Utf8.count_byte_decodeLossy ascii, same, Utf8.count_byte_decodeLossy ascii]
    have found := List.count_pos_iff.mpr member
    rw [whole, List.count_append, List.count_append] at counts
    rw [List.count_append] at found
    omega
  have nothing := List.append_eq_nil_iff.mp (List.eq_nil_iff_forall_not_mem.mpr none)
  rw [whole, nothing.1, nothing.2, List.nil_append, List.append_nil]
  exact trims.bare

end Blank

namespace TaskName

variable {name : Bytes}

/-- The line of a status file that holds a name. -/
def labelled (name : Bytes) : Bytes :=
  Utf8.encode "Name:\t" ++ name ++ [lineFeed]

theorem ofFile_ended (unbroken : lineFeed ∉ name) : ofFile (name ++ [lineFeed]) = ofBytes name := by
  rw [ofFile, takeWhile_before unbroken]

theorem labelled_eq_document (name : Bytes) :
    labelled name = Status.document [(Utf8.encode Status.Key.name.text, 0x09 :: name)] := by
  have label : Utf8.encode "Name:\t" =
      Utf8.encode Status.Key.name.text ++ [Status.colon, 0x09] := by decide
  rw [Status.document_cons, labelled, label]
  simp only [List.append_assoc, List.cons_append, List.nil_append]
  rfl

theorem values_labelled (unbroken : lineFeed ∉ name) :
    Status.values .name (labelled name) = [0x09 :: name] := by
  have plain : forall entry, entry ∈ [(Utf8.encode Status.Key.name.text, 0x09 :: name)] ->
      Status.Plain entry :=
    List.forall_mem_singleton.mpr (Status.plain_tabbed (by decide) unbroken)
  rw [labelled_eq_document, Status.values_document plain]
  rfl

theorem name_parse_labelled (pid : ProcessId) (unbroken : lineFeed ∉ name) :
    (Status.parse pid (labelled name)).name = ofBytes (Blank.trimBytes name) := by
  rw [Status.name_parse, values_labelled unbroken]
  exact congrArg ofBytes (Blank.trimBytes_cons (by decide) name)

/-- Both readings give the same of a name without blanks at its ends, and, if
the name is not cut, of no other. -/
theorem same_in_both_readings (pid : ProcessId) (unbroken : lineFeed ∉ name) :
    (Blank.Bare name ->
      (Status.parse pid (labelled name)).name = ofFile (name ++ [lineFeed])) ∧
    (name.length ≤ 15 ->
      (Status.parse pid (labelled name)).name = ofFile (name ++ [lineFeed]) -> Blank.Bare name) := by
  rw [name_parse_labelled pid unbroken, ofFile_ended unbroken]
  constructor
  · intro bare
    rw [Blank.trimBytes_of_bare bare]
  · intro short same
    have trims := Blank.trims_trimBytes name
    have shorter : (Blank.trimBytes name).length ≤ 15 := trims.length_le.trans short
    rw [ofBytes, ofBytes, byteLimit, List.take_of_length_le shorter,
      List.take_of_length_le short] at same
    exact Blank.bare_of_decodeLossy_eq trims same

namespace Sample

/-- A name with a colon, a blank inside and a byte that is no text. -/
def odd : Bytes :=
  Utf8.encode "a: " ++ [0xFF] ++ Utf8.encode "Name:\tb"

end Sample

theorem same_in_both_readings_odd :
    lineFeed ∉ Sample.odd ∧ Blank.Bare Sample.odd ∧
      (Status.parse ⟨7⟩ (labelled Sample.odd)).name = ofFile (Sample.odd ++ [lineFeed]) ∧
      lineFeed ∉ Sample.odd ++ [0x20] ∧ (Sample.odd ++ [0x20]).length ≤ 15 ∧
      (Status.parse ⟨7⟩ (labelled (Sample.odd ++ [0x20]))).name ≠
        ofFile (Sample.odd ++ [0x20] ++ [lineFeed]) := by
  have unbroken : lineFeed ∉ Sample.odd ++ [0x20] := by decide
  refine ⟨by decide, by decide, (same_in_both_readings ⟨7⟩ (by decide)).1 (by decide), unbroken,
    by decide, fun same => ?_⟩
  have bare := (same_in_both_readings ⟨7⟩ unbroken).2 (by decide) same
  exact absurd bare (by decide)

end TaskName
end ProcInspection
