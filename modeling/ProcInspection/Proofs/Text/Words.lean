import ProcInspection.Text.Blank
import ProcInspection.Text.Column

namespace ProcInspection

/-!
Lines and words.

A text that was put together from lines falls apart into the same lines, and
one that was put together from words into the same words, however wide the
gaps are that a column leaves.
-/

/-- Runs that each end in a stop are found again in front of what follows. -/
theorem splitOnP_terminated {α : Type} {isStop : α -> Bool} {stop : α} (stops : isStop stop = true)
    (runs : List (List α)) (clean : forall run, run ∈ runs -> forall item, item ∈ run ->
      isStop item = false) (rest : List α) :
    List.splitOnP isStop (runs.flatMap (fun run => run ++ [stop]) ++ rest) =
      runs ++ List.splitOnP isStop rest := by
  induction runs with
  | nil => rfl
  | cons run runs ih =>
      have tail := ih fun other member => clean other (List.mem_cons_of_mem run member)
      rw [List.flatMap_cons, List.append_assoc, List.append_assoc, List.singleton_append,
        List.splitOnP_append_cons_of_forall_mem (clean run List.mem_cons_self) stop stops, tail,
        List.cons_append]

/-- No run of a split holds a stop. -/
theorem not_stop_of_mem_splitOnP {α : Type} {isStop : α -> Bool} (items : List α) :
    forall run, run ∈ List.splitOnP isStop items -> forall item, item ∈ run ->
      isStop item = false := by
  induction items with
  | nil =>
      intro run member item inside
      rw [List.splitOnP_nil, List.mem_singleton] at member
      rw [member] at inside
      cases inside
  | cons first rest ih =>
      intro run member item inside
      rw [List.splitOnP_cons_eq_if_modifyHead] at member
      by_cases stop : isStop first = true
      · rw [if_pos stop] at member
        rcases List.mem_cons.mp member with same | later
        · rw [same] at inside
          cases inside
        · exact ih run later item inside
      · rw [if_neg stop] at member
        rcases List.exists_cons_of_ne_nil (List.splitOnP_ne_nil isStop rest) with ⟨head, tail, split⟩
        rw [split, List.modifyHead_cons] at member
        rcases List.mem_cons.mp member with same | later
        · rw [same] at inside
          rcases List.mem_cons.mp inside with here | further
          · rw [here]
            exact Bool.eq_false_iff.mpr stop
          · exact ih head (split ▸ List.mem_cons_self) item further
        · exact ih run (split ▸ List.mem_cons_of_mem head later) item inside

/-! ## The first stop -/

section FirstStop

variable {α : Type} [DecidableEq α] {stop : α} {before : List α}

theorem passes_before (clean : stop ∉ before) :
    forall item, item ∈ before -> decide (item ≠ stop) = true := by
  intro item member
  exact decide_eq_true fun same => clean (same ▸ member)

/-- What stands before the first stop. -/
theorem takeWhile_before (clean : stop ∉ before) (after : List α) :
    (before ++ stop :: after).takeWhile (fun item => item ≠ stop) = before := by
  rw [List.takeWhile_append_of_pos (passes_before clean)]
  simp only [List.takeWhile_cons, ne_eq, not_true_eq_false, decide_false, Bool.false_eq_true,
    if_false, List.append_nil]

/-- The first stop and what stands behind it. -/
theorem dropWhile_before (clean : stop ∉ before) (after : List α) :
    (before ++ stop :: after).dropWhile (fun item => item ≠ stop) = stop :: after := by
  rw [List.dropWhile_append_of_pos (passes_before clean)]
  simp only [List.dropWhile_cons, ne_eq, not_true_eq_false, decide_false, Bool.false_eq_true,
    if_false]

end FirstStop

namespace Blank

/-- A blank between two texts keeps their words apart. -/
theorem words_append_blank {blank : Char} (blanks : isBlank blank = true)
    (left right : List Char) : words (left ++ blank :: right) = words left ++ words right := by
  unfold words
  rw [List.splitOnP_append_cons left right blanks, List.filter_append]

theorem words_blank {blank : Char} (blanks : isBlank blank = true) (text : List Char) :
    words (blank :: text) = words text :=
  words_append_blank blanks [] text

/-- A run without blanks is one word. -/
theorem words_run {run : List Char} (nonempty : run ≠ [])
    (clean : forall c, c ∈ run -> isBlank c = false) : words run = [run] := by
  have shown : (!run.isEmpty) = true := by
    rw [Bool.not_eq_true', List.isEmpty_eq_false_iff]
    exact nonempty
  unfold words
  rw [List.splitOnP_eq_singleton clean]
  simp only [List.filter_cons, List.filter_nil, shown, if_true]

/-- A run without blanks in front of a blank is the first word. -/
theorem words_run_append {blank : Char} (blanks : isBlank blank = true) {run : List Char}
    (nonempty : run ≠ []) (clean : forall c, c ∈ run -> isBlank c = false) (rest : List Char) :
    words (run ++ blank :: rest) = run :: words rest := by
  rw [words_append_blank blanks, words_run nonempty clean, List.singleton_append]

/-! ## Runs -/

/-- The maximal runs of characters that are not blank, in order.  Blanks may
stand in front of each, and after a run there is a blank or nothing. -/
inductive Runs : List Char -> List (List Char) -> Prop where
  | none {gap : List Char} (blanks : forall c, c ∈ gap -> isBlank c = true) : Runs gap []
  | next {gap run rest : List Char} {runs : List (List Char)}
      (blanks : forall c, c ∈ gap -> isBlank c = true) (nonempty : run ≠ [])
      (clean : forall c, c ∈ run -> isBlank c = false)
      (ends : forall c, rest.head? = some c -> isBlank c = true) (more : Runs rest runs) :
      Runs (gap ++ (run ++ rest)) (run :: runs)

theorem words_gap {gap : List Char} (blanks : forall c, c ∈ gap -> isBlank c = true)
    (text : List Char) : words (gap ++ text) = words text := by
  induction gap with
  | nil => rfl
  | cons c gap ih =>
      rw [List.cons_append, words_blank (blanks c List.mem_cons_self)]
      exact ih fun d member => blanks d (List.mem_cons_of_mem c member)

theorem Runs.words_eq {text : List Char} {runs : List (List Char)} (found : Runs text runs) :
    words text = runs := by
  induction found with
  | @none gap blanks =>
      rw [← List.append_nil gap, words_gap blanks]
      rfl
  | @next gap run rest runs blanks nonempty clean ends more ih =>
      rw [words_gap blanks]
      cases rest with
      | nil =>
          rw [List.append_nil, words_run nonempty clean, ← ih]
          rfl
      | cons c rest =>
          have blank : isBlank c = true := ends c rfl
          rw [words_run_append blank nonempty clean, ← ih, words_blank blank]

theorem Runs.first {run rest : List Char} {runs : List (List Char)} (nonempty : run ≠ [])
    (clean : forall c, c ∈ run -> isBlank c = false)
    (ends : forall c, rest.head? = some c -> isBlank c = true) (more : Runs rest runs) :
    Runs (run ++ rest) (run :: runs) :=
  @Runs.next [] run rest runs nofun nonempty clean ends more

/-- Every text is made of runs and the blanks between them. -/
theorem exists_runs (text : List Char) : Exists fun runs => Runs text runs := by
  induction text with
  | nil => exact ⟨[], .none nofun⟩
  | cons c text ih =>
      rcases ih with ⟨runs, found⟩
      cases blank : isBlank c with
      | true =>
          cases found with
          | none blanks => exact ⟨[], .none (List.forall_mem_cons.mpr ⟨blank, blanks⟩)⟩
          | @next gap run rest runs blanks nonempty clean ends more =>
              have wider : forall d, d ∈ c :: gap -> isBlank d = true :=
                List.forall_mem_cons.mpr ⟨blank, blanks⟩
              exact ⟨run :: runs, @Runs.next (c :: gap) run rest runs wider nonempty clean ends more⟩
      | false =>
          have single : forall d, d ∈ [c] -> isBlank d = false :=
            List.forall_mem_singleton.mpr blank
          cases found with
          | none blanks =>
              refine ⟨[[c]], .first (List.cons_ne_nil c []) single (fun d first => ?_) (.none blanks)⟩
              exact blanks d (List.mem_of_mem_head? first)
          | @next gap run rest runs blanks nonempty clean ends more =>
              cases gap with
              | nil =>
                  have longer : forall d, d ∈ c :: run -> isBlank d = false :=
                    List.forall_mem_cons.mpr ⟨blank, clean⟩
                  exact ⟨(c :: run) :: runs, .first (List.cons_ne_nil c run) longer ends more⟩
              | cons b gap =>
                  have further := Runs.next blanks nonempty clean ends more
                  refine ⟨[c] :: run :: runs, .first (List.cons_ne_nil c []) single
                    (fun d first => ?_) further⟩
                  rw [← Option.some.inj first]
                  exact blanks b List.mem_cons_self

/-- The words of a text are its runs. -/
theorem runs_iff (text : List Char) (runs : List (List Char)) :
    Runs text runs <-> runs = words text := by
  constructor
  · intro found
    exact found.words_eq.symm
  · rintro rfl
    rcases exists_runs text with ⟨runs, found⟩
    rw [found.words_eq]
    exact found

/-- The padding of a column holds no words. -/
theorem words_column (width : Nat) (cell rest : List Char) :
    words (Column.right width cell ++ rest) = words (cell ++ rest) := by
  unfold Column.right
  rw [List.append_assoc]
  induction width - cell.length with
  | zero => rfl
  | succ count ih => rw [List.replicate_succ, List.cons_append, words_blank (by decide), ih]

end Blank
end ProcInspection
