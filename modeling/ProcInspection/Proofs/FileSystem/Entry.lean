import ProcInspection.Proofs.FileSystem

namespace ProcInspection
namespace FileSystem

/-!
The entries of a directory.

A path that goes on from a directory with one name finds the entry of that name
in this very directory or nothing at all, wherever the links on its way have
led.  A link under that name is not followed when it is read.  So what is read
under one name depends on the entry of that name alone: whatever happens to
another entry, or below it, cannot be seen there.
-/

open FileTree (Place Arrival)

variable {files : FileSystem} {directory : Path} {entries : List (Bytes × FileTree)}
  {condition : Condition} {name : Bytes}

theorem list_eq_ok_iff {listed : List Bytes} :
    files.list directory = .ok listed <->
      Exists fun entries : List (Bytes × FileTree) => Exists fun condition : Condition =>
        files.find true directory = .ok (.directory entries condition) ∧
          condition.listable = true ∧ listed = entries.map Prod.fst := by
  unfold list
  cases files.find true directory with
  | error failure => simp
  | ok found =>
      cases found with
      | file content closed => simp
      | link target closed => simp
      | directory entries condition =>
          by_cases listable : condition.listable = true
          · simp only [if_pos listable, Except.ok.injEq, FileTree.directory.injEq]
            constructor
            · rintro rfl
              exact ⟨entries, condition, ⟨rfl, rfl⟩, listable, rfl⟩
            · rintro ⟨_, _, ⟨rfl, rfl⟩, _, rfl⟩
              rfl
          · simp only [if_neg listable]
            constructor
            · intro impossible
              cases impossible
            · rintro ⟨_, _, same, shown, _⟩
              cases same
              exact (listable shown).elim

/-- A path into a directory is looked up there, if the system takes it. -/
theorem find_join (found : files.find true directory = .ok (.directory entries condition))
    (plain : Path.IsName name) (taken : pathFault? (directory.join ⟨name⟩) = none) :
    files.find false (directory.join ⟨name⟩) =
      if condition.searchable then
        if Place.longestName < name.length then .error (.ofSystem .nameTooLong)
        else
          match entries.lookup name with
          | some child => .ok child
          | none => .error (.ofSystem .noSuchEntry)
      else .error (.ofSystem .accessDenied) := by
  rcases find_eq_ok found with ⟨here, resolved, inside⟩
  have advanced : here.place.advance [name] =
      (here.place.step name).bind fun next => next.advance [] :=
    Place.advance_cons name [] (Place.isLink_of_directory inside)
  have stepped := Place.step_of_isName inside plain
  rw [find, resolve_under (Path.under_join plain directory) (List.cons_ne_nil _ _) taken resolved]
  rw [stepped] at advanced
  split at advanced
  · rename_i searchable
    rw [if_pos searchable]
    split at advanced
    · rename_i long
      rw [if_pos long, Place.travel_of_failed advanced]
    · rename_i short
      rw [if_neg short]
      cases held : entries.lookup name with
      | none =>
          rw [held] at advanced
          rw [Place.travel_of_failed advanced]
      | some child =>
          rw [held] at advanced
          rw [Place.travel_of_settled advanced (Or.inr ⟨rfl, rfl⟩)]
  · rename_i unsearchable
    rw [if_neg unsearchable, Place.travel_of_failed advanced]

/-- A target that is read under a name is that of the link of this name. -/
theorem lookup_of_readLink (found : files.find true directory = .ok (.directory entries condition))
    (plain : Path.IsName name) {target : Bytes}
    (read : files.readLink (directory.join ⟨name⟩) = .ok target) :
    condition.searchable = true ∧ entries.lookup name = some (.link target false) := by
  unfold readLink at read
  cases seen : files.find false (directory.join ⟨name⟩) with
  | error failure =>
      rw [seen] at read
      cases read
  | ok child =>
      rcases find_eq_ok seen with ⟨arrival, resolved, _⟩
      rw [seen] at read
      rw [find_join found plain (resolve_eq_ok resolved).1] at seen
      split at seen
      · rename_i searchable
        refine ⟨searchable, ?_⟩
        split at seen
        · cases seen
        · cases held : entries.lookup name with
          | none =>
              rw [held] at seen
              cases seen
          | some other =>
              rw [held] at seen
              rw [Except.ok.inj seen]
              cases child with
              | file content closed => cases read
              | directory below condition => cases read
              | link pointed closed =>
                  cases closed with
                  | true => cases read
                  | false => rw [Except.ok.inj read]
      · cases seen

/-- An open link can be read under its name, if the system takes the path. -/
theorem readLink_of_lookup (found : files.find true directory = .ok (.directory entries condition))
    (plain : Path.IsName name) (taken : pathFault? (directory.join ⟨name⟩) = none)
    (short : name.length ≤ Place.longestName) (searchable : condition.searchable = true)
    {target : Bytes} (linked : entries.lookup name = some (.link target false)) :
    files.readLink (directory.join ⟨name⟩) = .ok target := by
  have seen := find_join found plain taken
  rw [if_pos searchable, if_neg (Nat.not_lt_of_le short), linked] at seen
  rw [readLink, seen]
  rfl

/-- Two directories that hold the same under a name read the same there. -/
theorem readLink_congr {other : FileSystem} {changed : List (Bytes × FileTree)}
    (found : files.find true directory = .ok (.directory entries condition))
    (also : other.find true directory = .ok (.directory changed condition))
    (plain : Path.IsName name) (same : entries.lookup name = changed.lookup name) :
    files.readLink (directory.join ⟨name⟩) = other.readLink (directory.join ⟨name⟩) := by
  have alike : files.find false (directory.join ⟨name⟩) =
      other.find false (directory.join ⟨name⟩) := by
    cases fault : pathFault? (directory.join ⟨name⟩) with
    | none => rw [find_join found plain fault, find_join also plain fault, same]
    | some failure =>
        unfold find resolve
        rw [fault]
  rw [readLink, readLink, alike]

/-! ## Names that are read one by one -/

/-- Names that are read one by one give, in order, a result for each name that
can be read. -/
theorem forall₂_filterMap {α β : Type} {read : α -> Option β} {kept : α -> Prop}
    [DecidablePred kept] {shows : α -> β -> Prop}
    (readable : forall item, (read item).isSome = true <-> kept item)
    (shown : forall item result, read item = some result -> shows item result) (items : List α) :
    List.Forall₂ shows (items.filter fun item => kept item) (items.filterMap read) := by
  induction items with
  | nil => exact .nil
  | cons item items ih =>
      cases found : read item with
      | none =>
          have passed : ¬ decide (kept item) = true := by
            rw [decide_eq_true_iff, ← readable, found]
            exact Bool.false_ne_true
          rw [List.filterMap_cons_none found, List.filter_cons, if_neg passed]
          exact ih
      | some result =>
          have taken : decide (kept item) = true := by
            rw [decide_eq_true_iff, ← readable, found]
            rfl
          rw [List.filterMap_cons_some found, List.filter_cons, if_pos taken]
          exact .cons (shown item result found) ih

/-- What gives no result does not count. -/
theorem filterMap_filter_isSome {α β : Type} (read : α -> Option β) (items : List α) :
    (items.filter fun item => (read item).isSome).filterMap read = items.filterMap read := by
  rw [List.filterMap_filter]
  apply List.filterMap_congr
  intro item _
  cases found : read item <;> rfl

end FileSystem
end ProcInspection
