import ProcInspection.Proofs.FileTree.Trail

namespace ProcInspection
namespace FileTree

/-!
Trees that are alike but for one place.

What stands at the end of a way may be added, changed, closed or taken away as
a whole, and so may anything below it; everything beside the way stays as it
is.  A walk then comes to one place in both trees, or fails for the same reason,
if it does not turn to that way.
-/

/-- Two trees that differ in nothing but what a way leads to. -/
inductive AlikeBut : List Bytes -> FileTree -> FileTree -> Prop where
  | same (way : List Bytes) (tree : FileTree) : AlikeBut way tree tree
  | entry {name : Bytes} {entries changed : List (Bytes × FileTree)} {condition : Condition}
      (beside : forall other, other ≠ name -> entries.lookup other = changed.lookup other) :
      AlikeBut [name] (.directory entries condition) (.directory changed condition)
  | within {name : Bytes} {way : List Bytes} {entries changed : List (Bytes × FileTree)}
      {condition : Condition} {child after : FileTree}
      (beside : forall other, other ≠ name -> entries.lookup other = changed.lookup other)
      (before : entries.lookup name = some child) (behind : changed.lookup name = some after)
      (alike : AlikeBut way child after) :
      AlikeBut (name :: way) (.directory entries condition) (.directory changed condition)

namespace AlikeBut

variable {one other : FileTree} {way : List Bytes}

/-- Trees found at one place of both are the same, or they stand on the way
and are alike but for the rest of it. -/
theorem subtree? (alike : AlikeBut way one other) {names : List Bytes} {left right : FileTree}
    (found : one.subtree? names = some left) (also : other.subtree? names = some right)
    (outside : ¬ way <+: names) :
    left = right ∨ Exists fun rest : List Bytes => way = names ++ rest ∧ AlikeBut rest left right := by
  induction alike generalizing names with
  | same way tree => exact Or.inl (Option.some.inj (found.symm.trans also))
  | @entry name entries changed condition beside =>
      cases names with
      | nil =>
          rw [← Option.some.inj found, ← Option.some.inj also]
          exact Or.inr ⟨[name], rfl, .entry beside⟩
      | cons first names =>
          have different : first ≠ name := by
            intro same
            exact outside (same ▸ List.prefix_append [first] names)
          rw [FileTree.subtree?] at found also
          rw [beside first different] at found
          exact Or.inl (Option.some.inj (found.symm.trans also))
  | @within name way entries changed condition child after beside before behind alike ih =>
      cases names with
      | nil =>
          rw [← Option.some.inj found, ← Option.some.inj also]
          exact Or.inr ⟨name :: way, rfl, .within beside before behind alike⟩
      | cons first names =>
          rw [FileTree.subtree?] at found also
          by_cases onward : first = name
          · rw [onward] at found also outside
            rw [before, Option.bind_some] at found
            rw [behind, Option.bind_some] at also
            have further : ¬ way <+: names := by
              intro through
              exact outside (List.cons_prefix_cons.mpr ⟨rfl, through⟩)
            rcases ih found also further with same | ⟨rest, split, alike⟩
            · exact Or.inl same
            · exact Or.inr ⟨rest, by rw [onward, split, List.cons_append], alike⟩
          · rw [beside first onward] at found
            exact Or.inl (Option.some.inj (found.symm.trans also))

/-- Trees that are alike but for a way are the same, or they are directories
that hold the same names but for the end of the way. -/
theorem cases_directory (alike : AlikeBut way one other) :
    one = other ∨ Exists fun entries : List (Bytes × FileTree) =>
      Exists fun changed : List (Bytes × FileTree) => Exists fun condition : Condition =>
        way ≠ [] ∧ one = .directory entries condition ∧ other = .directory changed condition ∧
          forall name, [name] ≠ way ->
            (entries.lookup name).isSome = (changed.lookup name).isSome := by
  cases alike with
  | same => exact Or.inl rfl
  | entry beside =>
      refine Or.inr ⟨_, _, _, List.cons_ne_nil _ _, rfl, rfl, ?_⟩
      intro name apart
      rw [beside name fun same => apart (same ▸ rfl)]
  | @within last way entries changed condition child after beside before behind alike =>
      refine Or.inr ⟨_, _, _, List.cons_ne_nil _ _, rfl, rfl, ?_⟩
      intro name _
      by_cases same : name = last
      · rw [same, before, behind]
        rfl
      · rw [beside name same]

end AlikeBut

/-! ## Two walks -/

/-- Two results that fail alike or are related. -/
inductive Match {α : Type} (related : α -> α -> Prop) : Except IoFailure α -> Except IoFailure α -> Prop where
  | failed (failure : IoFailure) : Match related (.error failure) (.error failure)
  | came {left right : α} (both : related left right) : Match related (.ok left) (.ok right)

/-- Two places that stand at one way of two trees, outside the difference. -/
structure Beside (way : List Bytes) (one other : FileTree) (left right : Place) : Prop where
  first : Place.Within one left
  second : Place.Within other right
  together : left.names = right.names
  outside : ¬ way <+: left.names

/-- Two walks that have come beside each other, with as many links left. -/
structure Abreast (way : List Bytes) (one other : FileTree) (here there : Arrival) : Prop where
  places : Beside way one other here.place there.place
  links : here.links = there.links

section Walks

variable {one other : FileTree} {way : List Bytes} {left right : Place}

namespace Beside

/-- Beside each other stand two trees that are the same, or two directories. -/
theorem trees (alike : AlikeBut way one other) (beside : Beside way one other left right) :
    left.tree = right.tree ∨ Exists fun entries : List (Bytes × FileTree) =>
      Exists fun changed : List (Bytes × FileTree) => Exists fun condition : Condition =>
        left.names <+: way ∧ left.tree = .directory entries condition ∧
          right.tree = .directory changed condition ∧
            forall name, left.names ++ [name] ≠ way ->
              (entries.lookup name).isSome = (changed.lookup name).isSome := by
  rcases alike.subtree? beside.first.subtree? (beside.together ▸ beside.second.subtree?)
    beside.outside with same | ⟨rest, split, alike⟩
  · exact Or.inl same
  · rcases alike.cases_directory with same | ⟨entries, changed, condition, _, inside, also, held⟩
    · exact Or.inl same
    · refine Or.inr ⟨entries, changed, condition, ⟨rest, split.symm⟩, inside, also, ?_⟩
      intro name apart
      exact held name fun same => apart (split ▸ same ▸ rfl)

theorem isLink (alike : AlikeBut way one other) (beside : Beside way one other left right) :
    left.isLink = right.isLink := by
  unfold Place.isLink
  rcases beside.trees alike with same | ⟨entries, changed, condition, _, inside, also, _⟩
  · rw [same]
  · rw [inside, also]

/-- A link that is beside another one has its target. -/
theorem link (alike : AlikeBut way one other) (beside : Beside way one other left right)
    {target : Bytes} {closed : Bool} (inside : left.tree = .link target closed) :
    right.tree = .link target closed := by
  rcases beside.trees alike with same | ⟨entries, changed, condition, _, directory, _⟩
  · exact same.symm.trans inside
  · rw [directory] at inside
    cases inside

/-- Their targets start beside each other. -/
theorem aim (nonempty : way ≠ []) (beside : Beside way one other left right) (target : Path) :
    Beside way one other (left.aim target) (right.aim target) := by
  refine ⟨beside.first.aim target, beside.second.aim target, ?_, ?_⟩
  · unfold Place.aim
    by_cases absolute : target.isAbsolute = true
    · rw [if_pos absolute, if_pos absolute, beside.first.summit, beside.second.summit]
      rfl
    · rw [if_neg absolute, if_neg absolute, Place.names_parent, Place.names_parent, beside.together]
  · unfold Place.aim
    by_cases absolute : target.isAbsolute = true
    · rw [if_pos absolute, beside.first.summit]
      exact fun through => nonempty (List.prefix_nil.mp through)
    · rw [if_neg absolute, Place.names_parent]
      exact fun through => beside.outside (through.trans (List.dropLast_prefix left.names))

end Beside

/-- Whether a step succeeds, and why it fails if it does not. -/
def fate (result : Except IoFailure Place) : Except IoFailure Unit :=
  result.map fun _ => ()

/-- A step out of two directories has one fate if both hold the name or neither
does. -/
theorem step_fate_of_directory {name : Bytes} {entries changed : List (Bytes × FileTree)}
    {condition : Condition} (inside : left.tree = .directory entries condition)
    (also : right.tree = .directory changed condition)
    (held : name ≠ Path.dot -> name ≠ Path.dotDot ->
      (entries.lookup name).isSome = (changed.lookup name).isSome) :
    fate (left.step name) = fate (right.step name) := by
  unfold Place.step fate
  rw [inside, also]
  by_cases searchable : condition.searchable = true
  · simp only [if_pos searchable]
    by_cases stays : name = Path.dot
    · simp only [if_pos stays]
      rfl
    · by_cases up : name = Path.dotDot
      · simp only [if_neg stays, if_pos up]
        rfl
      · simp only [if_neg stays, if_neg up]
        by_cases long : Place.longestName < name.length
        · rw [if_pos long, if_pos long]
        · rw [if_neg long, if_neg long]
          have held := held stays up
          cases before : entries.lookup name with
          | none =>
              rw [before, Option.isSome_none, eq_comm, Option.isSome_eq_false_iff,
                Option.isNone_iff_eq_none] at held
              rw [held]
          | some child =>
              rw [before, Option.isSome_some, eq_comm, Option.isSome_iff_exists] at held
              rcases held with ⟨after, found⟩
              rw [found]
              rfl
  · simp only [if_neg searchable]

theorem step_fate_of_tree (same : left.tree = right.tree) (name : Bytes) :
    fate (left.step name) = fate (right.step name) := by
  cases inside : left.tree with
  | directory entries condition => exact step_fate_of_directory inside (same ▸ inside) fun _ _ => rfl
  | file content closed =>
      unfold Place.step
      rw [← same, inside]
  | link target closed =>
      unfold Place.step
      rw [← same, inside]

variable {name : Bytes} {names : List Bytes}

/-- A step that does not turn to the difference leads to one way in both trees,
or has one reason to fail. -/
theorem step_alike (alike : AlikeBut way one other) (beside : Beside way one other left right)
    (apart : Path.turn left.names name ≠ way) :
    Match (Beside way one other) (left.step name) (right.step name) := by
  have same : fate (left.step name) = fate (right.step name) := by
    rcases beside.trees alike with same | ⟨entries, changed, condition, _, inside, also, held⟩
    · exact step_fate_of_tree same name
    · apply step_fate_of_directory inside also
      intro stays up
      apply held
      rw [Path.turn, if_neg stays, if_neg up] at apart
      exact apart
  cases first : left.step name with
  | error failure =>
      rw [first] at same
      cases second : right.step name with
      | error cause =>
          rw [second] at same
          rw [Except.error.inj same]
          exact .failed cause
      | ok after =>
          rw [second] at same
          cases same
  | ok before =>
      rw [first] at same
      cases second : right.step name with
      | error cause =>
          rw [second] at same
          cases same
      | ok after =>
          have moved := Place.step_within beside.first first
          have also := Place.step_within beside.second second
          refine .came ⟨moved.1, also.1, ?_, ?_⟩
          · rw [moved.2, also.2, beside.together]
          · rw [moved.2]
            intro through
            -- The way is not turned to, so it would have been entered before.
            have further : way <+: left.names := by
              unfold Path.turn at apart through
              split at through
              · exact through
              · split at through
                · exact through.trans (List.dropLast_prefix left.names)
                · rcases List.prefix_concat_iff.mp through with whole | before
                  · rename_i stays up
                    rw [if_neg stays, if_neg up] at apart
                    exact (apart whole.symm).elim
                  · exact before
            exact beside.outside further

/-- An advance that never turns to the difference stops at one place of both
trees. -/
theorem advance_alike (alike : AlikeBut way one other) (beside : Beside way one other left right)
    (apart : way ∉ left.turns names) :
    Match (fun before after => Beside way one other before.1 after.1 ∧ before.2 = after.2)
      (left.advance names) (right.advance names) := by
  induction names generalizing left right with
  | nil => exact .came ⟨beside, rfl⟩
  | cons name names ih =>
      have both := beside.isLink alike
      by_cases link : left.isLink = true
      · rw [Place.advance_of_isLink link, Place.advance_of_isLink (both ▸ link)]
        exact .came ⟨beside, rfl⟩
      · have bare := Bool.eq_false_iff.mpr link
        rw [Place.turns_cons name names bare, List.mem_cons, not_or] at apart
        rw [Place.advance_cons name names bare, Place.advance_cons name names (both ▸ bare)]
        have step := step_alike alike beside fun same => apart.1 same.symm
        generalize left.step name = first, right.step name = second at step apart
        cases step with
        | failed failure => exact .failed failure
        | came beside => exact ih beside apart.2

section Trail

variable {onward : Bool} {links : Nat} (alike : AlikeBut way one other)
  (beside : Beside way one other left right) (apart : way ∉ left.trail onward links names)

include alike beside apart

/-- Where the one advance fails, so does the other. -/
theorem advance_fails_alike {failure : IoFailure} (failed : left.advance names = .error failure) :
    right.advance names = .error failure := by
  have both := advance_alike alike beside fun turned => apart (Place.mem_trail_of_turns turned)
  rw [failed] at both
  generalize right.advance names = result at both ⊢
  cases both
  rfl

/-- Where the one advance stops, so does the other. -/
theorem advance_stops_alike {reached : Place} {rest : List Bytes}
    (advanced : left.advance names = .ok (reached, rest)) :
    Exists fun stopped : Place =>
      right.advance names = .ok (stopped, rest) ∧ Beside way one other reached stopped := by
  have both := advance_alike alike beside fun turned => apart (Place.mem_trail_of_turns turned)
  rw [advanced] at both
  generalize right.advance names = result at both ⊢
  rcases both with _ | ⟨beside, rfl⟩
  exact ⟨_, rfl, beside⟩

end Trail

/-- A walk that never turns to the difference comes to one place of both trees. -/
theorem travel_alike (alike : AlikeBut way one other) (nonempty : way ≠ [])
    (beside : Beside way one other left right) {onward : Bool} {links : Nat}
    (apart : way ∉ left.trail onward links names) :
    Match (Abreast way one other) (left.travel onward links names)
      (right.travel onward links names) := by
  have travels := Place.travels_travel onward links names left
  generalize left.travel onward links names = result at travels ⊢
  induction travels generalizing right with
  | fails failed =>
      rw [Place.travel_of_failed (advance_fails_alike alike beside apart failed)]
      exact .failed _
  | arrives advanced settled =>
      rcases advance_stops_alike alike beside apart advanced with ⟨stopped, also, beside⟩
      rw [Place.travel_of_settled also (beside.isLink alike ▸ settled)]
      exact .came ⟨beside, rfl⟩
  | exhausts advanced link more =>
      rcases advance_stops_alike alike beside apart advanced with ⟨stopped, also, beside⟩
      rcases Place.isLink_iff.mp (beside.isLink alike ▸ link) with ⟨target, closed, inside⟩
      rw [Place.travel_of_link also inside more]
      exact .failed _
  | refused advanced link more =>
      rcases advance_stops_alike alike beside apart advanced with ⟨stopped, also, beside⟩
      rw [Place.travel_of_link also (beside.link alike link) more]
      exact .failed _
  | @follows links names rest left reached target result advanced link more later ih =>
      rcases advance_stops_alike alike beside apart advanced with ⟨stopped, also, beside⟩
      rw [Place.trail_of_link advanced link more, List.mem_append, not_or] at apart
      rw [Place.travel_of_link also (beside.link alike link) more]
      exact ih (beside.aim nonempty ⟨target⟩) apart.2

end Walks

end FileTree
end ProcInspection
