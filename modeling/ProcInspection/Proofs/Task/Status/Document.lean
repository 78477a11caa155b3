import ProcInspection.Proofs.Task.Status

namespace ProcInspection
namespace Status

/-!
Files of labelled lines.

A file that is written from labels and values gives every key the values under
its own label, in their order.  What a value looks like does not matter, as long
as it stays on its line: a colon in it, or the text of another key, is a part of
the value.
-/

/-- A content of labelled values, each on a line of its own. -/
def document (entries : List (Bytes × Bytes)) : Bytes :=
  (entries.map fun entry => entry.1 ++ colon :: entry.2).flatMap
    fun line => line ++ [TaskName.lineFeed]

/-- A label ends at the first colon of its line, and the value with the line. -/
structure Plain (entry : Bytes × Bytes) : Prop where
  label : colon ∉ entry.1
  labelUnbroken : TaskName.lineFeed ∉ entry.1
  valueUnbroken : TaskName.lineFeed ∉ entry.2

instance : DecidablePred Plain :=
  fun entry => decidable_of_iff
    (colon ∉ entry.1 ∧ TaskName.lineFeed ∉ entry.1 ∧ TaskName.lineFeed ∉ entry.2)
    ⟨fun parts => ⟨parts.1, parts.2.1, parts.2.2⟩,
      fun plain => ⟨plain.label, plain.labelUnbroken, plain.valueUnbroken⟩⟩

variable {pid : ProcessId} {key : Key} {content label value : Bytes}
  {entries : List (Bytes × Bytes)}

theorem document_cons (label value : Bytes) (entries : List (Bytes × Bytes)) :
    document ((label, value) :: entries) =
      label ++ colon :: (value ++ TaskName.lineFeed :: document entries) := by
  simp only [document, List.map_cons, List.flatMap_cons, List.append_assoc, List.cons_append,
    List.nil_append]

theorem document_append (front back : List (Bytes × Bytes)) :
    document (front ++ back) = document front ++ document back := by
  simp only [document, List.map_append, List.flatMap_append]

theorem lines_document (plain : forall entry, entry ∈ entries -> Plain entry) :
    lines (document entries) =
      (entries.map fun entry => entry.1 ++ colon :: entry.2) ++ [[]] := by
  have clean : forall line, line ∈ (entries.map fun entry => entry.1 ++ colon :: entry.2) ->
      forall byte, byte ∈ line -> (byte == TaskName.lineFeed) = false := by
    intro line member byte inside
    rcases List.mem_map.mp member with ⟨entry, standing, rfl⟩
    apply beq_eq_false_iff_ne.mpr
    rintro rfl
    rcases List.mem_append.mp inside with label | value
    · exact (plain entry standing).labelUnbroken label
    · exact (plain entry standing).valueUnbroken
        ((List.mem_cons.mp value).resolve_left (by decide))
  have terminated := @splitOnP_terminated _ (fun byte => byte == TaskName.lineFeed) _
    (beq_self_eq_true TaskName.lineFeed) _ clean []
  rw [List.append_nil] at terminated
  exact terminated

theorem value?_entry (clean : colon ∉ label) (key : Key) (value : Bytes) :
    key.value? (label ++ colon :: value) =
      if label = Utf8.encode key.text then some value else none := by
  by_cases same : label = Utf8.encode key.text
  · rw [if_pos same, Key.value?_eq_some_iff, same]
  · rw [if_neg same, Key.value?, if_neg]
    intro begins
    exact same ((takeWhile_before clean value).symm.trans begins.2)

/-- A document says of a key what stands under its label. -/
theorem values_document (plain : forall entry, entry ∈ entries -> Plain entry) (key : Key) :
    values key (document entries) =
      (entries.filter fun entry => entry.1 = Utf8.encode key.text).map Prod.snd := by
  have unsaid : key.value? [] = none := by
    rw [Key.value?, if_neg fun begins => List.not_mem_nil begins.1]
  rw [values, lines_document plain, List.filterMap_append, List.filterMap_map,
    List.filterMap_cons_none unsaid, List.filterMap_nil, List.append_nil, ← List.filterMap_eq_map,
    List.filterMap_filter]
  apply List.filterMap_congr
  intro entry member
  rw [Function.comp_apply, value?_entry (plain entry member).label]
  by_cases same : entry.1 = Utf8.encode key.text
  · rw [if_pos same, if_pos (decide_eq_true same)]
    rfl
  · rw [if_neg same, if_neg fun held => same (of_decide_eq_true held)]

/-- A key that is spoken of once has the field that is read there. -/
theorem field_of_values (spoken : values key content = [value]) {found : key.Field}
    (read : key.read? value = some found) : key.field (parse pid content) = found := by
  rw [field_parse, ← filterMap_values, spoken,
    List.filterMap_cons_some (f := fun value => key.read? value) read]
  rfl

theorem plain_tabbed {label value : Bytes} (plain : colon ∉ label ∧ TaskName.lineFeed ∉ label)
    (unbroken : TaskName.lineFeed ∉ value) : Plain (label, 0x09 :: value) :=
  ⟨plain.1, plain.2, List.not_mem_cons_of_ne_of_not_mem (by decide) unbroken⟩

end Status
end ProcInspection
