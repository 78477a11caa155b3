import ProcInspection.Failure

namespace ProcInspection
namespace Failure

/-!
Reads below the directory of a process that fail.

The kind of the cause decides how such a failure is told.  A missing file is a
missing process and a refused one a process of somebody else; every other cause
is passed on as it is.
-/

/-- How a failed read below the directory of a process is told. -/
inductive Reports (pid : ProcessId) (cause : IoFailure) : Failure -> Prop where
  | absent (kind : cause.kind = .notFound) : Reports pid cause (.processNotFound pid)
  | denied (kind : cause.kind = .permissionDenied) : Reports pid cause (.permissionDenied pid)
  | passedOn (found : cause.kind ≠ .notFound) (allowed : cause.kind ≠ .permissionDenied) :
      Reports pid cause (.io cause)

variable {pid : ProcessId} {cause : IoFailure} {failure : Failure}

theorem reports_ofProcessRead (pid : ProcessId) (cause : IoFailure) :
    Reports pid cause (ofProcessRead pid cause) := by
  unfold ofProcessRead
  cases kind : cause.kind with
  | notFound => exact .absent kind
  | permissionDenied => exact .denied kind
  | interrupted => exact .passedOn (by simp [kind]) (by simp [kind])
  | other => exact .passedOn (by simp [kind]) (by simp [kind])

/-- Every cause is told in one way. -/
theorem Reports.eq_ofProcessRead (reports : Reports pid cause failure) :
    failure = ofProcessRead pid cause := by
  unfold ofProcessRead
  cases reports with
  | absent kind => rw [kind]
  | denied kind => rw [kind]
  | passedOn found allowed =>
      cases kind : cause.kind with
      | notFound => exact (found kind).elim
      | permissionDenied => exact (allowed kind).elim
      | interrupted => rfl
      | other => rfl

/-- None of these failures is one of memory. -/
theorem Reports.category (reports : Reports pid cause failure) :
    failure.category ≠ .resourceExhausted := by
  cases reports <;> exact fun impossible => nomatch impossible

theorem reports_iff :
    Reports pid cause failure <-> failure = ofProcessRead pid cause :=
  ⟨Reports.eq_ofProcessRead, fun same => same ▸ reports_ofProcessRead pid cause⟩

end Failure
end ProcInspection
