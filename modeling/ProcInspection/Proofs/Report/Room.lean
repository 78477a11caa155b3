import ProcInspection.Proofs.Report.Write

namespace ProcInspection

/-!
Writing a report to a sink that may fill up.

A sink with room for so many bytes keeps that many of what is written, whether
they come at once or in pieces.  A report therefore leaves the front of its
full text, and where the room ends decides which failure is told: within the
text, within the document, or at the new line behind it.  Flushing is tried
only after everything was taken.
-/

namespace Sink

variable {written bytes : Bytes} {room : Nat} {flushFails : Bool}

theorem write_fitting (fits : bytes.length ≤ room) :
    write ⟨written, some room, flushFails⟩ bytes =
      (⟨written ++ bytes, some (room - bytes.length), flushFails⟩, .ok ()) := by
  simp only [write, if_pos fits, List.take_of_length_le fits]

theorem write_exceeding (exceeds : room < bytes.length) :
    write ⟨written, some room, flushFails⟩ bytes =
      (⟨written ++ bytes.take room, some 0, flushFails⟩, .error full) := by
  have used : room - bytes.length = 0 := Nat.sub_eq_zero_of_le (Nat.le_of_lt exceeds)
  simp only [write, if_neg (Nat.not_le_of_gt exceeds), used]

/-! ## Pieces -/

/-- Write pieces one after another, up to the first that fails. -/
def writePieces (sink : Sink) : List Bytes -> Sink × Except IoFailure Unit
  | [] => (sink, .ok ())
  | piece :: pieces =>
      match sink.write piece with
      | (after, .ok ()) => after.writePieces pieces
      | (after, .error cause) => (after, .error cause)

theorem write_nil (sink : Sink) : sink.write [] = (sink, .ok ()) := by
  rcases sink with ⟨written, room, flushFails⟩
  cases room with
  | none => rw [write_endless, List.append_nil]
  | some room => rw [write_fitting (Nat.zero_le room), List.append_nil]; rfl

/-- Once the room is used up, what follows changes nothing. -/
theorem write_append (sink : Sink) (front back : Bytes) :
    sink.write (front ++ back) =
      match sink.write front with
      | (after, .ok ()) => after.write back
      | (after, .error cause) => (after, .error cause) := by
  rcases sink with ⟨written, room, flushFails⟩
  cases room with
  | none => simp only [write_endless, List.append_assoc]
  | some room =>
      rcases Nat.lt_or_ge room front.length with exceeds | fits
      · have exceedsToo : room < (front ++ back).length :=
          Nat.lt_of_lt_of_le exceeds (by rw [List.length_append]; exact Nat.le_add_right _ _)
        simp only [write_exceeding exceeds, write_exceeding exceedsToo,
          List.take_append_of_le_length (Nat.le_of_lt exceeds)]
      · simp only [write_fitting fits]
        rcases Nat.lt_or_ge (room - front.length) back.length with exceeds | fitsToo
        · have exceedsBoth : room < (front ++ back).length := by
            rw [List.length_append]
            omega
          rw [write_exceeding exceeds, write_exceeding exceedsBoth, List.take_append,
            List.take_of_length_le fits, List.append_assoc]
        · have fitsBoth : (front ++ back).length ≤ room := by
            rw [List.length_append]
            omega
          rw [write_fitting fitsToo, write_fitting fitsBoth, List.length_append, Nat.sub_sub,
            List.append_assoc]

/-- It does not matter how a text is cut into pieces. -/
theorem writePieces_eq_write (sink : Sink) (pieces : List Bytes) :
    sink.writePieces pieces = sink.write pieces.flatten := by
  induction pieces generalizing sink with
  | nil => exact sink.write_nil.symm
  | cons piece pieces ih =>
      rw [List.flatten_cons, write_append, writePieces]
      rcases sink.write piece with ⟨after, result⟩
      cases result with
      | error cause => rfl
      | ok done => exact ih after

end Sink

namespace Report

variable {format : OutputFormat} {room : Nat} {flushFails : Bool}

/-- How the writing of so many bytes ends, by where the room ends. -/
inductive WriteEnds (format : OutputFormat) (size room : Nat) (flushFails : Bool) :
    Except Failure Unit -> Prop where
  | complete (fits : size ≤ room) (flushes : flushFails = false) :
      WriteEnds format size room flushFails (.ok ())
  | unflushed (fits : size ≤ room) (fails : flushFails = true) :
      WriteEnds format size room flushFails (.error (.io Sink.unflushed))
  | insideText (human : format = .human) (exceeds : room < size) :
      WriteEnds format size room flushFails (.error (.io Sink.full))
  | insideDocument (json : format = .json) (exceeds : room + 1 < size) :
      WriteEnds format size room flushFails (.error (.json Sink.full.text))
  | beforeLastByte (json : format = .json) (exceeds : room + 1 = size) :
      WriteEnds format size room flushFails (.error (.io Sink.full))

namespace WriteEnds

variable {size : Nat} {result : Except Failure Unit}

theorem ok_iff (ends : WriteEnds format size room flushFails result) :
    result = .ok () <-> size ≤ room ∧ flushFails = false := by
  cases ends with
  | complete fits flushes => exact ⟨fun _ => ⟨fits, flushes⟩, fun _ => rfl⟩
  | unflushed fits fails => simp [fails]
  | insideText human exceeds => simp [Nat.not_le_of_gt exceeds]
  | insideDocument json exceeds => simp; omega
  | beforeLastByte json exceeds => simp; omega

/-- The flush is what fails only if everything was taken. -/
theorem unflushed_iff (ends : WriteEnds format size room flushFails result) :
    result = .error (.io Sink.unflushed) <-> size ≤ room ∧ flushFails = true := by
  have other : Sink.full ≠ Sink.unflushed := by decide
  cases ends with
  | complete fits flushes => simp [flushes]
  | unflushed fits fails => exact ⟨fun _ => ⟨fits, fails⟩, fun _ => rfl⟩
  | insideText human exceeds => simp [other, Nat.not_le_of_gt exceeds]
  | insideDocument json exceeds => simp; omega
  | beforeLastByte json exceeds => simp [other]; omega

end WriteEnds

/-- The flush decides once everything was taken. -/
theorem finish_taken (format : OutputFormat) {size : Nat} (sink : Sink) (fits : size ≤ room) :
    (finish sink (.ok ())).1 = sink ∧
      WriteEnds format size room sink.flushFails (finish sink (.ok ())).2 := by
  unfold finish Sink.flush
  cases flushes : sink.flushFails with
  | false => exact ⟨rfl, .complete fits rfl⟩
  | true => exact ⟨rfl, .unflushed fits rfl⟩

theorem write_human_ends (report : Report) (verbose : Bool) (before : Bytes) (room : Nat)
    (flushFails : Bool) :
    (report.write ⟨before, some room, flushFails⟩ .human verbose).1.written =
        before ++ (report.fullText .human verbose).take room ∧
      WriteEnds .human (report.fullText .human verbose).length room flushFails
        (report.write ⟨before, some room, flushFails⟩ .human verbose).2 := by
  unfold write fullText
  generalize Utf8.encode (report.humanText verbose) = text
  simp only
  rcases Nat.lt_or_ge room text.length with exceeds | fits
  · rw [Sink.write_exceeding exceeds]
    exact ⟨rfl, .insideText rfl exceeds⟩
  · rw [Sink.write_fitting fits, List.take_of_length_le fits]
    have finished := finish_taken .human
      ⟨before ++ text, some (room - text.length), flushFails⟩ fits
    exact ⟨congrArg Sink.written finished.1, finished.2⟩

/-- The new line is written on its own, so a room that ends in front of it is
told apart from one that ends within the document. -/
theorem write_json_ends (report : Report) (verbose : Bool) (before : Bytes) (room : Nat)
    (flushFails : Bool) :
    (report.write ⟨before, some room, flushFails⟩ .json verbose).1.written =
        before ++ (report.fullText .json verbose).take room ∧
      WriteEnds .json (report.fullText .json verbose).length room flushFails
        (report.write ⟨before, some room, flushFails⟩ .json verbose).2 := by
  have ending : (Utf8.encode "\n").length = 1 := by decide
  unfold write fullText
  generalize Utf8.encode "\n" = newline at ending ⊢
  generalize Utf8.encode report.json.indentedText = text
  have size : (text ++ newline).length = text.length + 1 := by rw [List.length_append, ending]
  simp only
  rcases Nat.lt_or_ge room text.length with exceeds | fits
  · rw [Sink.write_exceeding exceeds, List.take_append_of_le_length (Nat.le_of_lt exceeds), size]
    exact ⟨rfl, .insideDocument rfl (Nat.succ_lt_succ exceeds)⟩
  · rw [Sink.write_fitting fits, List.take_append, List.take_of_length_le fits, ← List.append_assoc,
      size]
    rcases Nat.lt_or_ge (room - text.length) newline.length with exceeds | fitsToo
    · have last : room + 1 = text.length + 1 := by omega
      simp only [Sink.write_exceeding exceeds]
      exact ⟨rfl, .beforeLastByte rfl last⟩
    · have all : text.length + 1 ≤ room := by omega
      simp only [Sink.write_fitting fitsToo, List.take_of_length_le fitsToo]
      have finished := finish_taken .json
        ⟨before ++ text ++ newline, some (room - text.length - newline.length), flushFails⟩ all
      exact ⟨congrArg Sink.written finished.1, finished.2⟩

theorem write_ends (report : Report) (format : OutputFormat) (verbose : Bool) (before : Bytes)
    (room : Nat) (flushFails : Bool) :
    (report.write ⟨before, some room, flushFails⟩ format verbose).1.written =
        before ++ (report.fullText format verbose).take room ∧
      WriteEnds format (report.fullText format verbose).length room flushFails
        (report.write ⟨before, some room, flushFails⟩ format verbose).2 := by
  cases format with
  | human => exact report.write_human_ends verbose before room flushFails
  | json => exact report.write_json_ends verbose before room flushFails

/-- A sink is left with the front of the full text that it has room for.  The
writing succeeds exactly if all of it was taken and flushed, and otherwise the
place where the room ended tells which failure it is; a failed flush is told
only when all was taken.  None of this depends on how a text is cut into
pieces on its way. -/
theorem write_into_room (report : Report) (format : OutputFormat) (verbose : Bool)
    (before : Bytes) (room : Nat) (flushFails : Bool) :
    (report.write ⟨before, some room, flushFails⟩ format verbose).1.written =
        before ++ (report.fullText format verbose).take room ∧
      ((report.write ⟨before, some room, flushFails⟩ format verbose).2 = .ok () <->
        (report.fullText format verbose).length ≤ room ∧ flushFails = false) ∧
      ((report.write ⟨before, some room, flushFails⟩ format verbose).2 =
          .error (.io Sink.unflushed) <->
        (report.fullText format verbose).length ≤ room ∧ flushFails = true) ∧
      WriteEnds format (report.fullText format verbose).length room flushFails
        (report.write ⟨before, some room, flushFails⟩ format verbose).2 ∧
      forall pieces : List Bytes,
        Sink.writePieces ⟨before, some room, flushFails⟩ pieces =
          Sink.write ⟨before, some room, flushFails⟩ pieces.flatten := by
  rcases report.write_ends format verbose before room flushFails with ⟨written, ends⟩
  exact ⟨written, ends.ok_iff, ends.unflushed_iff, ends, Sink.writePieces_eq_write _⟩

end Report
end ProcInspection
