import ProcInspection.FileTree.Build
import ProcInspection.Proofs.FileTree.Alike

namespace ProcInspection
namespace FileTree

/-!
Changes below one place.

Files and links may be put there, taken away, closed and opened again, any
number of times.  The tree before and the tree after are then alike but for
that place.
-/

theorem lookup_put (name : Bytes) (tree : FileTree) (entries : Entries) :
    (put name tree entries).lookup name = some tree := by
  induction entries with
  | nil => rw [put, List.lookup_cons_self]
  | cons entry entries ih =>
      rcases entry with ⟨other, child⟩
      rw [put]
      by_cases same : other = name
      · rw [if_pos same, List.lookup_cons_self]
      · rw [if_neg same, List.lookup_cons, beq_false_of_ne fun reverse => same reverse.symm]
        exact ih

theorem lookup_put_of_ne {name other : Bytes} (different : other ≠ name) (tree : FileTree)
    (entries : Entries) : entries.lookup other = (put name tree entries).lookup other := by
  induction entries with
  | nil => rw [put, List.lookup_cons, beq_false_of_ne different]
  | cons entry entries ih =>
      rcases entry with ⟨first, child⟩
      rw [put]
      by_cases same : first = name
      · rw [if_pos same, List.lookup_cons, List.lookup_cons, same, beq_false_of_ne different]
      · rw [if_neg same, List.lookup_cons, List.lookup_cons, ih]

theorem lookup_filter_of_ne {name other : Bytes} (different : other ≠ name) (entries : Entries) :
    entries.lookup other = (entries.filter fun entry => entry.1 ≠ name).lookup other := by
  induction entries with
  | nil => rfl
  | cons entry entries ih =>
      rcases entry with ⟨first, child⟩
      by_cases same : first = name
      · have dropped : ¬ decide ((first, child).1 ≠ name) = true := fun kept =>
          of_decide_eq_true kept same
        rw [List.filter_cons, if_neg dropped, List.lookup_cons, same, beq_false_of_ne different, ih]
      · have kept : decide ((first, child).1 ≠ name) = true := decide_eq_true same
        rw [List.filter_cons, if_pos kept, List.lookup_cons, List.lookup_cons, ih]

/-! ## One directory -/

section ChangeEntries

variable {change : Entries -> Option Entries} {way : List Bytes} {tree changed : FileTree}

theorem changeEntries_nil (done : changeEntries change [] tree = some changed) :
    Exists fun before : Entries => Exists fun after : Entries => Exists fun condition : Condition =>
      tree = .directory before condition ∧ change before = some after ∧
        changed = .directory after condition := by
  cases tree with
  | file content closed => cases done
  | link target closed => cases done
  | directory entries condition =>
      rw [changeEntries] at done
      split at done
      · cases made : change entries with
        | none =>
            rw [made] at done
            cases done
        | some after =>
            rw [made] at done
            exact ⟨entries, after, condition, rfl, made, (Option.some.inj done).symm⟩
      · cases done

theorem changeEntries_cons {name : Bytes}
    (done : changeEntries change (name :: way) tree = some changed) :
    Exists fun entries : Entries => Exists fun condition : Condition =>
      Exists fun child : FileTree => Exists fun after : FileTree =>
        tree = .directory entries condition ∧ entries.lookup name = some child ∧
          changeEntries change way child = some after ∧
          changed = .directory (put name after entries) condition := by
  cases tree with
  | file content closed => cases done
  | link target closed => cases done
  | directory entries condition =>
      rw [changeEntries] at done
      split at done
      · cases found : entries.lookup name with
        | none =>
            rw [found] at done
            cases done
        | some child =>
            rw [found] at done
            simp only at done
            cases made : changeEntries change way child with
            | none =>
                rw [made] at done
                cases done
            | some after =>
                rw [made] at done
                exact ⟨entries, condition, child, after, rfl, found, made,
                  (Option.some.inj done).symm⟩
      · cases done

/-- A change of the last name is one of its entry, in the directory that the
names before it lead to. -/
theorem changeLast_eq_some {edit : Bytes -> Entries -> Option Entries}
    (done : changeLast way edit tree = some changed) :
    Exists fun front : List Bytes => Exists fun last : Bytes =>
      way = front ++ [last] ∧ changeEntries (edit last) front tree = some changed := by
  unfold changeLast at done
  cases ends : way.getLast? with
  | none =>
      rw [ends] at done
      cases done
  | some last =>
      rw [ends] at done
      rcases List.getLast?_eq_some_iff.mp ends with ⟨front, rfl⟩
      rw [List.dropLast_concat] at done
      exact ⟨front, last, rfl, done⟩

end ChangeEntries

namespace AlikeBut

variable {one other : FileTree} {way : List Bytes}

/-- Differences at a place are no more than differences at what it stands in. -/
theorem widen {more : List Bytes} (alike : AlikeBut (way ++ more) one other) (nonempty : way ≠ []) :
    AlikeBut way one other := by
  induction way generalizing one other with
  | nil => exact (nonempty rfl).elim
  | cons name way ih =>
      cases way with
      | nil =>
          cases alike with
          | same => exact .same _ _
          | entry beside => exact .entry beside
          | within beside _ _ _ => exact .entry beside
      | cons second way =>
          cases alike with
          | same => exact .same _ _
          | within beside before behind alike =>
              exact .within beside before behind (ih alike (List.cons_ne_nil second way))

theorem trans {third : FileTree} (alike : AlikeBut way one other)
    (further : AlikeBut way other third) : AlikeBut way one third := by
  induction alike generalizing third with
  | same way tree => exact further
  | entry beside =>
      cases further with
      | same => exact .entry beside
      | entry also => exact .entry fun name apart => (beside name apart).trans (also name apart)
      | within also _ _ _ => exact .entry fun name apart => (beside name apart).trans (also name apart)
  | within beside before behind alike ih =>
      cases further with
      | same => exact .within beside before behind alike
      | entry also => exact .entry fun name apart => (beside name apart).trans (also name apart)
      | within also again after further =>
          rw [behind] at again
          rw [← Option.some.inj again] at further
          exact .within (fun name apart => (beside name apart).trans (also name apart)) before after
            (ih further)

/-- A change of one entry leaves trees that are alike but for it. -/
theorem of_changeEntries {change : Entries -> Option Entries} {last : Bytes} {changed : FileTree}
    (touches : forall before after, change before = some after -> forall other, other ≠ last ->
      before.lookup other = after.lookup other)
    (done : changeEntries change way one = some changed) : AlikeBut (way ++ [last]) one changed := by
  induction way generalizing one changed with
  | nil =>
      rcases changeEntries_nil done with ⟨before, after, condition, rfl, made, rfl⟩
      exact .entry (touches before after made)
  | cons name way ih =>
      rcases changeEntries_cons done with ⟨entries, condition, child, after, rfl, found, made, rfl⟩
      exact .within (fun other different => lookup_put_of_ne different after entries) found
        (lookup_put name after entries) (ih made)

theorem of_changeLast {edit : Bytes -> Entries -> Option Entries} {changed : FileTree}
    (touches : forall name before after, edit name before = some after ->
      forall other, other ≠ name -> before.lookup other = after.lookup other)
    (done : changeLast way edit one = some changed) : AlikeBut way one changed := by
  rcases changeLast_eq_some done with ⟨front, last, rfl, edits⟩
  exact of_changeEntries (touches last) edits

end AlikeBut

/-- A change of what stands at the end of a way. -/
inductive Change where
  | write (content : Bytes)
  | link (target : Bytes)
  | remove
  | close (closed : Bool)

namespace Change

def apply (way : List Bytes) : Change -> FileTree -> Option FileTree
  | .write content => writeFile way content
  | .link target => makeLink way target
  | .remove => FileTree.remove way
  | .close closed => setClosed way closed

/-- Every change touches the entry of its own name alone. -/
theorem alikeBut {way : List Bytes} {change : Change} {tree changed : FileTree}
    (done : change.apply way tree = some changed) : AlikeBut way tree changed := by
  cases change with
  | write content =>
      apply AlikeBut.of_changeLast _ done
      intro name before after made other different
      split at made
      · rw [← Option.some.inj made]
        exact lookup_put_of_ne different _ _
      · rw [← Option.some.inj made]
        exact lookup_put_of_ne different _ _
      · cases made
  | link target =>
      apply AlikeBut.of_changeLast _ done
      intro name before after made other different
      split at made
      · rw [← Option.some.inj made]
        exact lookup_put_of_ne different _ _
      · cases made
  | remove =>
      apply AlikeBut.of_changeLast _ done
      intro name before after made other different
      split at made
      · rw [← Option.some.inj made]
        exact lookup_filter_of_ne different _
      · cases made
  | close closed =>
      apply AlikeBut.of_changeLast _ done
      intro name before after made other different
      split at made
      · rw [← Option.some.inj made]
        exact lookup_put_of_ne different _ _
      · rw [← Option.some.inj made]
        exact lookup_put_of_ne different _ _
      · cases made

/-- However often something at a place or below it is changed, nothing beside
the place is. -/
theorem alikeBut_foldlM {way : List Bytes} (nonempty : way ≠ []) {tree changed : FileTree}
    {changes : List (List Bytes × Change)} (inside : forall change, change ∈ changes -> way <+: change.1)
    (done : changes.foldlM (fun tree change => change.2.apply change.1 tree) tree = some changed) :
    AlikeBut way tree changed := by
  induction changes generalizing tree with
  | nil =>
      rw [← Option.some.inj done]
      exact .same way tree
  | cons change changes ih =>
      rw [List.foldlM_cons] at done
      rcases Option.bind_eq_some_iff.mp done with ⟨next, first, rest⟩
      rcases inside change List.mem_cons_self with ⟨more, whole⟩
      have step : AlikeBut way tree next := by
        have wide := alikeBut first
        rw [← whole] at wide
        exact wide.widen nonempty
      exact step.trans (ih (fun other member => inside other (List.mem_cons_of_mem _ member)) rest)

end Change
end FileTree
end ProcInspection
