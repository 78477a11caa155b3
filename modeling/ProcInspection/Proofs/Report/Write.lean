import ProcInspection.Report.Write

namespace ProcInspection

/-!
What is written of a report.
-/

namespace Sink

theorem write_endless (written bytes : Bytes) (flushFails : Bool) :
    write ⟨written, none, flushFails⟩ bytes = (⟨written ++ bytes, none, flushFails⟩, .ok ()) :=
  rfl

theorem flush_sound (written : Bytes) (room : Option Nat) :
    flush ⟨written, room, false⟩ = .ok () :=
  rfl

end Sink

namespace Report

/-- All that there is to write: the text, or the document on lines of its own. -/
def fullText (report : Report) (format : OutputFormat) (verbose : Bool) : Bytes :=
  match format with
  | .human => Utf8.encode (report.humanText verbose)
  | .json => Utf8.encode report.json.indentedText ++ Utf8.encode "\n"

/-- A sink that takes everything is left with everything. -/
theorem write_unlimited (report : Report) (format : OutputFormat) (verbose : Bool) :
    report.write .unlimited format verbose =
      (⟨report.fullText format verbose, none, false⟩, .ok ()) := by
  unfold write fullText Sink.unlimited
  cases format with
  | human => simp only [Sink.write_endless, finish, Sink.flush_sound, List.nil_append]
  | json => simp only [Sink.write_endless, finish, Sink.flush_sound, List.nil_append]

theorem exists_of_finish_error {sink : Sink} {result : Except IoFailure Unit} {failure : Failure}
    (refused : (finish sink result).2 = .error failure) :
    Exists fun cause : IoFailure => failure = .io cause := by
  unfold finish at refused
  split at refused
  · exact ⟨_, (Except.error.inj refused).symm⟩
  · split at refused
    · cases refused
    · exact ⟨_, (Except.error.inj refused).symm⟩

/-- Writing fails as output or as a document. -/
theorem exists_of_write_error {report : Report} {sink : Sink} {format : OutputFormat}
    {verbose : Bool} {failure : Failure}
    (refused : (report.write sink format verbose).2 = .error failure) :
    (Exists fun cause : IoFailure => failure = .io cause) ∨
      Exists fun detail : String => failure = .json detail := by
  cases format with
  | human => exact .inl (exists_of_finish_error refused)
  | json =>
      simp only [write] at refused
      split at refused
      · exact .inr ⟨_, (Except.error.inj refused).symm⟩
      · exact .inl (exists_of_finish_error refused)

end Report
end ProcInspection
