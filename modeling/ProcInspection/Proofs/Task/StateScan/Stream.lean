import Mathlib.Data.List.DropRight
import ProcInspection.Proofs.Task.StateScan

namespace ProcInspection
namespace StateScan

/-!
How a stream is cut.

A content comes in chunks of any size, and the reader may be interrupted before
each of them.  All that a scan carries from one chunk into the next is the line
that it has begun, so a cut changes nothing, be it inside the label, beside a
line feed or inside a value.  A failure is no end: it keeps the lines that were
whole before it and loses the one that it cuts short, with all that is behind it.
-/

/-- A stream that hands over a content and then ends: chunks that are not empty,
with any number of interruptions between them. -/
inductive Delivers : Stream -> Bytes -> Prop where
  | ended : Delivers [] []
  | interrupted {stream : Stream} {content : Bytes} (later : Delivers stream content) :
      Delivers (.error .interrupted :: stream) content
  | chunk {bytes : Bytes} {stream : Stream} {content : Bytes} (nonempty : bytes ≠ [])
      (later : Delivers stream content) : Delivers (.ok bytes :: stream) (bytes ++ content)

/-- The whole lines of a content, up to its last line feed and with it. -/
def wholeLines (content : Bytes) : Bytes :=
  content.rdropWhile fun byte => byte ≠ TaskName.lineFeed

variable {reversed line content : Bytes} {stream : Stream}

/-! ## Bytes one after another -/

/-- Bytes that come in two parts are taken as one. -/
theorem take_append (reversed left right : Bytes) :
    take reversed (left ++ right) =
      match take reversed left with
      | .found state => .found state
      | .unfinished line => take line right := by
  induction left generalizing reversed with
  | nil => rfl
  | cons byte left ih =>
      rw [List.cons_append, take, take]
      by_cases ends : byte = TaskName.lineFeed
      · rw [if_pos ends, if_pos ends]
        cases ofLine? reversed.reverse with
        | some state => rfl
        | none => exact ih []
      · rw [if_neg ends, if_neg ends]
        exact ih (byte :: reversed)

/-- Bytes without a line feed only make the line longer. -/
theorem take_unbroken (reversed : Bytes) (unbroken : TaskName.lineFeed ∉ line) :
    take reversed line = .unfinished (line.reverse ++ reversed) := by
  induction line generalizing reversed with
  | nil => rfl
  | cons byte line ih =>
      have other : byte ≠ TaskName.lineFeed := fun same => unbroken (same ▸ List.mem_cons_self)
      have later : TaskName.lineFeed ∉ line :=
        fun member => unbroken (List.mem_cons_of_mem byte member)
      rw [take, if_neg other, ih (byte :: reversed) later, List.reverse_cons, List.append_assoc,
        List.singleton_append]

/-- Behind a line feed no line is begun. -/
theorem begun_of_take_ended {bytes : Bytes}
    (taken : take reversed (bytes ++ [TaskName.lineFeed]) = .unfinished line) : line = [] := by
  rw [take_append] at taken
  cases found : take reversed bytes with
  | found state =>
      rw [found] at taken
      cases taken
  | unfinished begun =>
      simp only [found, take, if_pos] at taken
      cases ended : ofLine? begun.reverse with
      | some state =>
          rw [ended] at taken
          cases taken
      | none =>
          rw [ended] at taken
          exact (Progress.unfinished.inj taken).symm

/-! ## Chunks one after another -/

/-- A cut between two chunks makes no difference. -/
theorem scanFrom_join (reversed left right : Bytes) (stream : Stream) :
    scanFrom reversed (.ok left :: .ok right :: stream) =
      scanFrom reversed (.ok (left ++ right) :: stream) := by
  rw [scanFrom, scanFrom, take_append]
  cases take reversed left with
  | found state => rfl
  | unfinished line => rfl

theorem scanFrom_unbroken (reversed : Bytes) (unbroken : TaskName.lineFeed ∉ line)
    (stream : Stream) :
    scanFrom reversed (.ok line :: stream) = scanFrom (line.reverse ++ reversed) stream := by
  rw [scanFrom, take_unbroken reversed unbroken]

/-- What a stream delivers is as good as one chunk, whatever comes behind it. -/
theorem Delivers.scanFrom_eq (delivers : Delivers stream content) (reversed : Bytes)
    (behind : Stream) :
    scanFrom reversed (stream ++ behind) = scanFrom reversed (.ok content :: behind) := by
  -- The line begun is general, since the cut before a chunk may be anywhere in a line.
  induction delivers generalizing reversed with
  | ended => rfl
  | interrupted later ih =>
      rw [List.cons_append, scanFrom]
      exact ih reversed
  | @chunk bytes stream content nonempty later ih =>
      rw [List.cons_append, ← scanFrom_join, scanFrom, scanFrom]
      cases take reversed bytes with
      | found state => rfl
      | unfinished line => exact ih line

/-! ## A failure -/

theorem scanFrom_error {kind : IoKind} (broken : kind ≠ .interrupted) (reversed : Bytes)
    (behind : Stream) : scanFrom reversed (.error kind :: behind) = .unknown := by
  cases kind with
  | interrupted => exact absurd rfl broken
  | notFound => rfl
  | permissionDenied => rfl
  | other => rfl

theorem wholeLines_eq_nil (unbroken : TaskName.lineFeed ∉ content) : wholeLines content = [] := by
  rw [wholeLines, List.rdropWhile_eq_nil_iff]
  intro byte member
  exact decide_eq_true fun same => unbroken (same ▸ member)

/-- Behind the whole lines of a content there is a line without a line feed, and
they end with one if there are any. -/
theorem exists_wholeLines (content : Bytes) :
    (Exists fun rest : Bytes => content = wholeLines content ++ rest ∧ TaskName.lineFeed ∉ rest) ∧
      (wholeLines content ≠ [] ->
        Exists fun before : Bytes => wholeLines content = before ++ [TaskName.lineFeed]) := by
  constructor
  · refine ⟨_, List.rdropWhile_append_rtakeWhile.symm, ?_⟩
    intro member
    have passed := List.mem_rtakeWhile_imp member
    exact of_decide_eq_true passed rfl
  · intro some
    refine ⟨(wholeLines content).dropLast, ?_⟩
    have last := List.rdropWhile_last_not _ content some
    rw [decide_eq_true_iff, not_not] at last
    conv => lhs; rw [← List.dropLast_concat_getLast some]
    exact congrArg (_ ++ [·]) last

/-- A failure leaves what the whole lines before it give. -/
theorem scan_failed {kind : IoKind} (broken : kind ≠ .interrupted) (content : Bytes)
    (behind : Stream) :
    scan (.ok content :: .error kind :: behind) = scan [.ok (wholeLines content)] := by
  rcases exists_wholeLines content with ⟨⟨rest, whole, unbroken⟩, ended⟩
  have fresh : forall line, take [] (wholeLines content) = .unfinished line -> line = [] := by
    intro line taken
    by_cases none : wholeLines content = []
    · rw [none] at taken
      exact (Progress.unfinished.inj taken).symm
    · rcases ended none with ⟨before, last⟩
      exact begun_of_take_ended (last ▸ taken)
  have joined : scan (.ok content :: .error kind :: behind) =
      scan (.ok (wholeLines content) :: .ok rest :: .error kind :: behind) := by
    rw [scan, scan, scanFrom_join, ← whole]
  rw [joined, scan, scan, scanFrom, scanFrom]
  cases taken : take [] (wholeLines content) with
  | found state => rfl
  | unfinished line =>
      change scanFrom line (.ok rest :: .error kind :: behind) = scanFrom line []
      rw [fresh line taken, scanFrom_unbroken [] unbroken]
      exact scanFrom_error broken _ behind

/-! ## Streams -/

/-- However a content is delivered, a scan gives what its lines give, as it does
of the content in one piece.  If the stream fails behind it, the scan gives what
the whole lines of the content give, whatever is behind the failure. -/
theorem scan_delivered (delivers : Delivers stream content) :
    scan stream = scan [.ok content] ∧
      Gives (Status.lines content) (scan stream) ∧
      forall kind, kind ≠ .interrupted -> forall behind : Stream,
        scan (stream ++ .error kind :: behind) = scan [.ok (wholeLines content)] ∧
          (TaskName.lineFeed ∉ content -> scan (stream ++ .error kind :: behind) = .unknown) := by
  have once : scan stream = scan [.ok content] := by
    have whole := delivers.scanFrom_eq [] []
    rw [List.append_nil] at whole
    exact whole
  refine ⟨once, once ▸ (scan_iff content).mp rfl, ?_⟩
  intro kind broken behind
  have cut : scan (stream ++ .error kind :: behind) = scan [.ok (wholeLines content)] :=
    (delivers.scanFrom_eq [] _).trans (scan_failed broken content behind)
  refine ⟨cut, ?_⟩
  intro unbroken
  rw [cut, wholeLines_eq_nil unbroken]
  rfl

namespace Sample

/-- Cuts inside the label and before the value of a line that is not ended. -/
def cuts : Stream :=
  [.ok (Utf8.encode "Name:\tx\nSta"), .error .interrupted, .error .interrupted,
    .ok (Utf8.encode "te:"), .ok (Utf8.encode "\tS")]

def uncut : Bytes :=
  Utf8.encode "Name:\tx\nState:\tS"

end Sample

/-- The line counts at the end of the stream and is lost before a failure. -/
theorem scan_delivered_cuts :
    Delivers Sample.cuts Sample.uncut ∧ scan Sample.cuts = .sleeping ∧
      IoKind.other ≠ .interrupted ∧
      scan (Sample.cuts ++ .error .other :: [.ok (Utf8.encode "\n")]) = .unknown := by
  have delivers : Delivers Sample.cuts Sample.uncut :=
    .chunk (by decide)
      (.interrupted (.interrupted (.chunk (by decide) (.chunk (by decide) .ended))))
  have law := scan_delivered delivers
  have broken : IoKind.other ≠ .interrupted := by decide
  refine ⟨delivers, law.1.trans (by decide), broken, ?_⟩
  exact (law.2.2 .other broken _).1.trans (by decide)

end StateScan
end ProcInspection
