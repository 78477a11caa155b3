import ProcInspection.Proofs.Task.Status
import ProcInspection.Task.StateScan

namespace ProcInspection
namespace StateScan

/-!
What a scan finds.

Taken as a whole, a content is cut into lines at its line feeds, and the first
line that begins with the label gives the state.  The scan takes the bytes one
by one and keeps only the line that it has begun, but that comes to the same:
what it keeps is always the start of the first line that is still to be cut.
-/

/-- The state that some lines give: that of the first line with the label, and
unknown if none has it. -/
inductive Gives : List Bytes -> RunState -> Prop where
  | none : Gives [] .unknown
  | here (value : Bytes) (lines : List Bytes) : Gives ((label ++ value) :: lines) (.ofValue value)
  | past {line : Bytes} {lines : List Bytes} {state : RunState} (other : ¬ label <+: line)
      (gives : Gives lines state) : Gives (line :: lines) state

def stateOf (lines : List Bytes) : RunState :=
  (lines.findSome? ofLine?).getD .unknown

variable {line reversed : Bytes} {state : RunState}

theorem ofLine?_eq_some_iff :
    ofLine? line = some state <->
      Exists fun value : Bytes => line = label ++ value ∧ state = .ofValue value := by
  unfold ofLine?
  cases marked : List.isPrefixOf? label line with
  | none =>
      simp only [reduceCtorEq, false_iff]
      rintro ⟨value, rfl, _⟩
      rw [List.isPrefixOf?_eq_some_iff_append_eq.mpr rfl] at marked
      cases marked
  | some value =>
      have whole := List.isPrefixOf?_eq_some_iff_append_eq.mp marked
      constructor
      · intro shown
        exact ⟨value, whole.symm, (Option.some.inj shown).symm⟩
      · rintro ⟨other, also, rfl⟩
        rw [List.append_cancel_left (whole.trans also)]

theorem ofLine?_eq_none_iff : ofLine? line = none <-> ¬ label <+: line := by
  rw [Option.eq_none_iff_forall_ne_some]
  constructor
  · rintro none ⟨value, rfl⟩
    exact none _ (ofLine?_eq_some_iff.mpr ⟨value, rfl, rfl⟩)
  · intro other state found
    rcases ofLine?_eq_some_iff.mp found with ⟨value, rfl, _⟩
    exact other (List.prefix_append label value)

theorem gives_stateOf (lines : List Bytes) : Gives lines (stateOf lines) := by
  induction lines with
  | nil => exact .none
  | cons line lines ih =>
      unfold stateOf
      cases found : ofLine? line with
      | none =>
          rw [List.findSome?_cons, found]
          exact .past (ofLine?_eq_none_iff.mp found) ih
      | some state =>
          rw [List.findSome?_cons, found]
          rcases ofLine?_eq_some_iff.mp found with ⟨value, rfl, rfl⟩
          exact .here value lines

/-- Lines give one state. -/
theorem Gives.eq_stateOf {lines : List Bytes} (gives : Gives lines state) : state = stateOf lines := by
  induction gives with
  | none => rfl
  | here value lines =>
      rw [stateOf, List.findSome?_cons, ofLine?_eq_some_iff.mpr ⟨value, rfl, rfl⟩]
      rfl
  | past other gives ih =>
      rw [stateOf, List.findSome?_cons, ofLine?_eq_none_iff.mpr other]
      exact ih

theorem gives_iff {lines : List Bytes} : Gives lines state <-> state = stateOf lines :=
  ⟨Gives.eq_stateOf, fun same => same ▸ gives_stateOf lines⟩

/-! ## Cutting lines -/

/-- A scan that has begun a line goes on as if that line came first. -/
theorem scanFrom_eq_stateOf (unbroken : TaskName.lineFeed ∉ reversed) (bytes : Bytes) :
    scanFrom reversed [.ok bytes] = stateOf (Status.lines (reversed.reverse ++ bytes)) := by
  -- The line begun never holds a line feed, which is what makes it the next line to be cut.
  induction bytes generalizing reversed with
  | nil =>
      rw [List.append_nil, Status.lines_unbroken fun member => unbroken (List.mem_reverse.mp member)]
      unfold stateOf
      rw [List.findSome?_singleton]
      rfl
  | cons byte bytes ih =>
      by_cases ends : byte = TaskName.lineFeed
      · rw [ends, Status.lines_cons fun member => unbroken (List.mem_reverse.mp member)]
        unfold stateOf
        rw [List.findSome?_cons, scanFrom, take, if_pos rfl]
        cases found : ofLine? reversed.reverse with
        | some state => rfl
        | none => exact ih List.not_mem_nil
      · have onward : TaskName.lineFeed ∉ byte :: reversed := by
          intro member
          rcases List.mem_cons.mp member with first | before
          · exact ends first.symm
          · exact unbroken before
        have step := ih onward
        rw [List.reverse_cons, List.append_assoc, List.singleton_append] at step
        rw [← step, scanFrom, take, if_neg ends]
        rfl

/-- A content delivered at once has the state that its lines give. -/
theorem scan_iff (content : Bytes) :
    scan [.ok content] = state <-> Gives (Status.lines content) state := by
  have whole := scanFrom_eq_stateOf List.not_mem_nil content
  rw [gives_iff, scan, whole, eq_comm]
  rfl

end StateScan
end ProcInspection
