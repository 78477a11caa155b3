import ProcInspection.Proofs.Task.StateScan
import ProcInspection.Proofs.Task.Status

namespace ProcInspection

/-!
The state in both readings of a status file.

A process is read from all lines of its file, and a later line of a key takes
the place of an earlier one.  A thread is scanned for its state alone, and the
scan stops at the first line that begins with the label.  The label is the key
and a colon, so that both look at the same lines: one keeps the last of them
and the other the first.  Where these say the same, so do the two readings.
-/

namespace StateScan

/-- A line has the label if it speaks of the state. -/
theorem ofLine?_eq (line : Bytes) :
    ofLine? line = (Status.Key.state.value? line).map RunState.ofValue := by
  have labelled (value : Bytes) :
      label ++ value = Utf8.encode Status.Key.state.text ++ Status.colon :: value := by
    have key : label = Utf8.encode Status.Key.state.text ++ [Status.colon] := by decide
    rw [key, List.append_assoc, List.singleton_append]
  apply Option.ext
  intro state
  rw [ofLine?_eq_some_iff, Option.map_eq_some_iff]
  constructor
  · rintro ⟨value, whole, rfl⟩
    exact ⟨value, Status.Key.value?_eq_some_iff.mpr (whole.trans (labelled value)), rfl⟩
  · rintro ⟨value, spoken, rfl⟩
    exact ⟨value, (Status.Key.value?_eq_some_iff.mp spoken).trans (labelled value).symm, rfl⟩

end StateScan

namespace Status

variable {pid : ProcessId} {content : Bytes}

/-- The reading of a process keeps the last state. -/
theorem state_parse (pid : ProcessId) (content : Bytes) :
    (parse pid content).state =
      ((values .state content).getLast?.map RunState.ofValue).getD .unknown := by
  have read : (lines content).filterMap Key.state.said? =
      (values .state content).map RunState.ofValue := by
    rw [← filterMap_values, ← List.filterMap_eq_map]
    rfl
  rw [← List.getLast?_map, ← read]
  exact field_parse pid .state content

/-- The scan of a thread keeps the first. -/
theorem scan_eq (content : Bytes) :
    StateScan.scan [.ok content] =
      ((values .state content).head?.map RunState.ofValue).getD .unknown := by
  have found : StateScan.scan [.ok content] = StateScan.stateOf (lines content) :=
    StateScan.gives_iff.mp ((StateScan.scan_iff content).mp rfl)
  have labelled : StateScan.ofLine? = fun line => (Key.state.value? line).map RunState.ofValue :=
    funext StateScan.ofLine?_eq
  rw [found, StateScan.stateOf, labelled, ← List.head?_filterMap, ← List.head?_map, values,
    List.map_filterMap]

theorem state_eq_of_alike
    (alike : forall one, one ∈ values .state content ->
      forall other, other ∈ values .state content ->
        RunState.ofValue one = RunState.ofValue other) :
    (parse pid content).state = StateScan.scan [.ok content] := by
  rw [state_parse, scan_eq]
  cases first : (values .state content).head? with
  | none =>
      rw [List.head?_eq_none_iff.mp first]
      rfl
  | some value =>
      have member := List.mem_of_mem_head? first
      rcases Option.ne_none_iff_exists'.mp
        (List.getLast?_eq_none_iff.not.mpr (List.ne_nil_of_mem member)) with ⟨last, found⟩
      rw [found, Option.map_some, Option.map_some,
        alike last (List.mem_of_getLast? found) value member]

/-- The reading of a process gives the state of the last line that speaks of it,
and the scan of a thread that of the first, both unknown if there is none.  So
they give the same state of a content whose state lines mean the same, and of
one that has no more than one of them. -/
theorem state_of_both_readings (pid : ProcessId) (content : Bytes) :
    (parse pid content).state =
        ((values .state content).getLast?.map RunState.ofValue).getD .unknown ∧
      StateScan.scan [.ok content] =
        ((values .state content).head?.map RunState.ofValue).getD .unknown ∧
      ((forall one, one ∈ values .state content ->
          forall other, other ∈ values .state content ->
            RunState.ofValue one = RunState.ofValue other) ->
        (parse pid content).state = StateScan.scan [.ok content]) ∧
      ((values .state content).length ≤ 1 ->
        (parse pid content).state = StateScan.scan [.ok content]) := by
  refine ⟨state_parse pid content, scan_eq content, state_eq_of_alike, ?_⟩
  intro few
  apply state_eq_of_alike
  intro one member other also
  cases spoken : values .state content with
  | nil =>
      rw [spoken] at member
      cases member
  | cons only rest =>
      rw [spoken, List.length_cons] at few
      have alone : rest = [] := List.eq_nil_of_length_eq_zero (by omega)
      rw [spoken, alone] at member also
      rw [List.mem_singleton.mp member, List.mem_singleton.mp also]

namespace Sample

/-- Two state lines, the second not ended, among lines that only look like one. -/
def twice : Bytes :=
  Utf8.encode "State\nState :R\n:State:R\nstate:R\nState:\tS (sleeping)\n\nName:State:" ++ [0xFF] ++
    Utf8.encode "\nState:S"

end Sample

theorem state_of_both_readings_twice :
    values .state Sample.twice = [Utf8.encode "\tS (sleeping)", Utf8.encode "S"] ∧
      (parse ⟨7⟩ Sample.twice).state = StateScan.scan [.ok Sample.twice] ∧
      StateScan.scan [.ok Sample.twice] = .sleeping := by
  have spoken : values .state Sample.twice = [Utf8.encode "\tS (sleeping)", Utf8.encode "S"] := by
    decide +kernel
  have law := state_of_both_readings ⟨7⟩ Sample.twice
  refine ⟨spoken, law.2.2.1 ?_, ?_⟩
  · rw [spoken]
    decide
  · rw [law.2.1, spoken]
    decide

end Status
end ProcInspection
