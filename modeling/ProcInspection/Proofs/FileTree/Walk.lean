import Mathlib.Data.List.Basic
import ProcInspection.FileTree
import ProcInspection.Proofs.Path

namespace ProcInspection
namespace FileTree

/-!
Where a walk ends.

A walk that starts at a place of a tree always stands at a place of that tree:
the way it holds is one that leads there, and the tree that it holds is the one
found at the end of this way.  Two dots are no exception, because the
directories that they return to are those that were passed, and neither are
links, because each of them stands somewhere in the tree.

Until it meets a link a walk is an advance from directory to directory.  What
becomes of it then is said once, by one case for each way in which it can go on.
-/

/-- The tree at the end of a way, open or not. -/
def subtree? : List Bytes -> FileTree -> Option FileTree
  | [], tree => some tree
  | name :: way, .directory entries _ => (entries.lookup name).bind (subtree? way)
  | _ :: _, _ => none

theorem subtree?_append (first second : List Bytes) (tree : FileTree) :
    subtree? (first ++ second) tree = (subtree? first tree).bind (subtree? second) := by
  induction first generalizing tree with
  | nil => rfl
  | cons name first ih =>
      cases tree with
      | file content closed => rfl
      | link target closed => rfl
      | directory entries condition =>
          rw [List.cons_append, subtree?, subtree?]
          cases entries.lookup name with
          | none => rfl
          | some child => exact ih child

namespace Place

variable {tree : FileTree} {place next reached : Place} {name : Bytes}

/-- A place that can be reached from the top of a tree. -/
inductive Within (tree : FileTree) : Place -> Prop where
  | top : Within tree (top tree)
  | child {place : Place} {entries : List (Bytes × FileTree)} {condition : Condition} {name : Bytes}
      {child : FileTree} (above : Within tree place)
      (inside : place.tree = .directory entries condition)
      (found : entries.lookup name = some child) :
      Within tree ⟨child, (name, place.tree) :: place.way⟩

theorem names_cons (child above : FileTree) (name : Bytes) (way : List (Bytes × FileTree)) :
    names ⟨child, (name, above) :: way⟩ = names ⟨above, way⟩ ++ [name] := by
  unfold names
  rw [List.map_cons, List.reverse_cons]

theorem names_parent (place : Place) : place.parent.names = place.names.dropLast := by
  rcases place with ⟨tree, _ | ⟨⟨name, above⟩, way⟩⟩
  · rfl
  · rw [names_cons, List.dropLast_concat]
    rfl

theorem Within.parent (within : Within tree place) : Within tree place.parent := by
  cases within with
  | top => exact .top
  | child above inside found => exact above

/-- Every place of a tree leads back to the top of it. -/
theorem Within.summit (within : Within tree place) : place.summit = .top tree := by
  induction within with
  | top => rfl
  | @child place entries condition name child above inside found ih =>
      unfold Place.summit at ih ⊢
      rw [List.getLast?_cons]
      cases last : place.way.getLast? with
      | none =>
          rw [last] at ih
          exact congrArg (fun place => Place.top place.tree) ih
      | some entry =>
          rw [last] at ih
          exact ih

theorem Within.subtree? (within : Within tree place) :
    tree.subtree? place.names = some place.tree := by
  induction within with
  | top => rfl
  | @child place entries condition name child above inside found ih =>
      rw [names_cons, subtree?_append, ih, Option.bind_some, inside]
      simp only [FileTree.subtree?, found, Option.bind_some]

theorem isLink_iff :
    place.isLink = true <-> Exists fun target : Bytes => Exists fun closed : Bool =>
      place.tree = .link target closed := by
  unfold isLink
  cases place.tree <;> simp

theorem isLink_of_directory {entries : List (Bytes × FileTree)} {condition : Condition}
    (inside : place.tree = .directory entries condition) : place.isLink = false := by
  rw [isLink, inside]

/-! ## Steps -/

/-- What a step that succeeds has done. -/
theorem step_eq_ok (stepped : place.step name = .ok next) :
    (name = Path.dot ∧ next = place) ∨ (name = Path.dotDot ∧ next = place.parent) ∨
      (name ≠ Path.dot ∧ name ≠ Path.dotDot ∧
        Exists fun entries : List (Bytes × FileTree) => Exists fun condition : Condition =>
          Exists fun child : FileTree =>
            place.tree = .directory entries condition ∧ entries.lookup name = some child ∧
              next = ⟨child, (name, place.tree) :: place.way⟩) := by
  unfold step at stepped
  cases inside : place.tree with
  | file content closed =>
      rw [inside] at stepped
      cases stepped
  | link target closed =>
      rw [inside] at stepped
      cases stepped
  | directory entries condition =>
      rw [inside] at stepped
      simp only at stepped
      by_cases searchable : condition.searchable = true
      · rw [if_pos searchable] at stepped
        by_cases stays : name = Path.dot
        · rw [if_pos stays] at stepped
          exact Or.inl ⟨stays, (Except.ok.inj stepped).symm⟩
        · rw [if_neg stays] at stepped
          by_cases up : name = Path.dotDot
          · rw [if_pos up] at stepped
            exact Or.inr (Or.inl ⟨up, (Except.ok.inj stepped).symm⟩)
          · rw [if_neg up] at stepped
            by_cases long : longestName < name.length
            · rw [if_pos long] at stepped
              cases stepped
            · rw [if_neg long] at stepped
              cases found : entries.lookup name with
              | none =>
                  rw [found] at stepped
                  cases stepped
              | some child =>
                  rw [found] at stepped
                  exact Or.inr (Or.inr ⟨stays, up, entries, condition, child, rfl, found,
                    (Except.ok.inj stepped).symm⟩)
      · rw [if_neg searchable] at stepped
        cases stepped

/-- A step along a plain name is a lookup. -/
theorem step_of_isName {entries : List (Bytes × FileTree)} {condition : Condition}
    (inside : place.tree = .directory entries condition) (plain : Path.IsName name) :
    place.step name =
      if condition.searchable then
        if longestName < name.length then .error (.ofSystem .nameTooLong)
        else
          match entries.lookup name with
          | some child => .ok ⟨child, (name, place.tree) :: place.way⟩
          | none => .error (.ofSystem .noSuchEntry)
      else .error (.ofSystem .accessDenied) := by
  unfold step
  rw [inside]
  cases found : entries.lookup name with
  | some child => simp only [found, if_neg plain.notDot, if_neg plain.notDotDot]
  | none => simp only [found, if_neg plain.notDot, if_neg plain.notDotDot]

theorem step_within (within : Within tree place) (stepped : place.step name = .ok next) :
    Within tree next ∧ next.names = Path.turn place.names name := by
  unfold Path.turn
  rcases step_eq_ok stepped with ⟨stays, same⟩ | ⟨up, above⟩ |
    ⟨stays, up, entries, condition, child, inside, found, down⟩
  · rw [if_pos stays, same]
    exact ⟨within, rfl⟩
  · rw [if_neg (by rw [up]; decide), if_pos up, above]
    exact ⟨within.parent, names_parent place⟩
  · rw [if_neg stays, if_neg up, down]
    exact ⟨.child within inside found, names_cons _ _ _ _⟩

/-- A dot leads nowhere else. -/
theorem step_dot (stepped : place.step Path.dot = .ok next) : next = place := by
  rcases step_eq_ok stepped with ⟨_, same⟩ | ⟨impossible, _⟩ | ⟨stays, _⟩
  · exact same
  · cases impossible
  · exact (stays rfl).elim

/-! ## Advances -/

variable {names rest : List Bytes}

theorem advance_cons (name : Bytes) (names : List Bytes) (bare : place.isLink = false) :
    place.advance (name :: names) = (place.step name).bind fun next => next.advance names := by
  rw [advance, bare, if_neg Bool.false_ne_true]
  cases place.step name <;> rfl

theorem advance_of_isLink (link : place.isLink = true) (names : List Bytes) :
    place.advance names = .ok (place, names) := by
  cases names with
  | nil => rfl
  | cons name names => rw [advance, if_pos link]

/-- An advance along more names goes on from where the first ones led, or stops
at the link where they stopped. -/
theorem advance_append (first second : List Bytes) (place : Place) :
    place.advance (first ++ second) =
      (place.advance first).bind fun stop =>
        if stop.1.isLink then .ok (stop.1, stop.2 ++ second) else stop.1.advance second := by
  induction first generalizing place with
  | nil =>
      change place.advance second =
        if place.isLink then .ok (place, second) else place.advance second
      by_cases link : place.isLink = true
      · rw [if_pos link, advance_of_isLink link]
      · rw [if_neg link]
  | cons name first ih =>
      by_cases link : place.isLink = true
      · rw [advance_of_isLink link, advance_of_isLink link, Except.bind, if_pos link]
      · have bare := Bool.eq_false_iff.mpr link
        rw [List.cons_append, advance_cons name (first ++ second) bare,
          advance_cons name first bare]
        cases place.step name with
        | error failure => rfl
        | ok next => exact ih next

theorem advance_append_of_link {first : List Bytes} (second : List Bytes)
    (advanced : place.advance first = .ok (reached, rest)) (link : reached.isLink = true) :
    place.advance (first ++ second) = .ok (reached, rest ++ second) := by
  rw [advance_append, advanced, Except.bind, if_pos link]

theorem advance_append_of_bare {first : List Bytes} (second : List Bytes)
    (advanced : place.advance first = .ok (reached, rest)) (bare : reached.isLink = false) :
    place.advance (first ++ second) = reached.advance second := by
  rw [advance_append, advanced, Except.bind, bare, if_neg Bool.false_ne_true]

/-- An advance stays in its tree, and ends where the names say that it took. -/
theorem advance_within (within : Within tree place)
    (advanced : place.advance names = .ok (reached, rest)) :
    Within tree reached ∧ Exists fun front : List Bytes =>
      names = front ++ rest ∧ reached.names = front.foldl Path.turn place.names := by
  induction names generalizing place with
  | nil =>
      rcases Prod.mk.inj (Except.ok.inj advanced) with ⟨rfl, rfl⟩
      exact ⟨within, [], rfl, rfl⟩
  | cons name names ih =>
      by_cases link : place.isLink = true
      · rw [advance_of_isLink link] at advanced
        rcases Prod.mk.inj (Except.ok.inj advanced) with ⟨rfl, rfl⟩
        exact ⟨within, [], rfl, rfl⟩
      · rw [advance_cons name names (Bool.eq_false_iff.mpr link)] at advanced
        cases stepped : place.step name with
        | error failure =>
            rw [stepped] at advanced
            cases advanced
        | ok next =>
            rw [stepped] at advanced
            have moved := step_within within stepped
            rcases ih moved.1 advanced with ⟨inside, front, split, ends⟩
            refine ⟨inside, name :: front, by rw [split, List.cons_append], ?_⟩
            rw [List.foldl_cons, ← moved.2, ends]

/-! ## Travels -/

/-- The target of a link starts in the tree of the link. -/
theorem Within.aim (within : Within tree place) (target : Path) :
    Within tree (place.aim target) := by
  unfold Place.aim
  by_cases absolute : target.isAbsolute = true
  · rw [if_pos absolute, within.summit]
    exact .top
  · rw [if_neg absolute]
    exact within.parent

/-- How a walk goes on from where its names first led: it has failed, it ends
there, or there is a link to follow, and then the links are exhausted, the link
is closed, or the walk goes on along the target. -/
inductive Travels (onward : Bool) :
    Nat -> List Bytes -> Place -> Except IoFailure Arrival -> Prop where
  | fails {links : Nat} {names : List Bytes} {place : Place} {failure : IoFailure}
      (failed : place.advance names = .error failure) :
      Travels onward links names place (.error failure)
  | arrives {links : Nat} {names rest : List Bytes} {place reached : Place}
      (advanced : place.advance names = .ok (reached, rest))
      (settled : reached.isLink = false ∨ (rest = [] ∧ onward = false)) :
      Travels onward links names place (.ok ⟨reached, links⟩)
  | exhausts {names rest : List Bytes} {place reached : Place}
      (advanced : place.advance names = .ok (reached, rest)) (link : reached.isLink = true)
      (more : rest ≠ [] ∨ onward = true) :
      Travels onward 0 names place (.error (.ofSystem .tooManyLinks))
  | refused {links : Nat} {names rest : List Bytes} {place reached : Place} {target : Bytes}
      (advanced : place.advance names = .ok (reached, rest)) (link : reached.tree = .link target true)
      (more : rest ≠ [] ∨ onward = true) :
      Travels onward (links + 1) names place (.error (.ofSystem .accessDenied))
  | follows {links : Nat} {names rest : List Bytes} {place reached : Place} {target : Bytes}
      {result : Except IoFailure Arrival} (advanced : place.advance names = .ok (reached, rest))
      (link : reached.tree = .link target false) (more : rest ≠ [] ∨ onward = true)
      (later : Travels onward links ((Path.mk target).names ++ rest) (reached.aim ⟨target⟩) result) :
      Travels onward (links + 1) names place result

/-- A walk ends where its names have led, or there is a link to follow. -/
theorem settles (onward : Bool) (pair : Place × List Bytes) :
    (pair.1.isLink = false ∨ (pair.2 = [] ∧ onward = false)) ∨
      (pair.1.isLink = true ∧ (pair.2 ≠ [] ∨ onward = true)) := by
  rcases pair with ⟨reached, rest⟩
  cases reached.isLink <;> cases onward <;> cases rest <;> simp

/-- A walk depends on nothing but how far its names lead without a link. -/
theorem travel_congr {other : Place} {others : List Bytes}
    (same : place.advance names = other.advance others) (onward : Bool) (links : Nat) :
    place.travel onward links names = other.travel onward links others := by
  rw [travel.eq_def, travel.eq_def onward links others, same]

theorem not_ended {onward : Bool} (more : rest ≠ [] ∨ onward = true) :
    ¬ (rest.isEmpty && !onward) = true := by
  rcases more with left | on
  · simp [left]
  · simp [on]

section Equations

variable {onward : Bool} {links : Nat}

theorem travel_of_failed {failure : IoFailure} (failed : place.advance names = .error failure) :
    place.travel onward links names = .error failure := by
  rw [travel, failed]

theorem travel_of_settled (advanced : place.advance names = .ok (reached, rest))
    (settled : reached.isLink = false ∨ (rest = [] ∧ onward = false)) :
    place.travel onward links names = .ok ⟨reached, links⟩ := by
  rw [travel, advanced]
  cases inside : reached.tree with
  | file content closed => simp only [inside]
  | directory entries condition => simp only [inside]
  | link target closed =>
      rcases settled with bare | ⟨rfl, rfl⟩
      · rw [isLink_iff.mpr ⟨_, _, inside⟩] at bare
        cases bare
      · simp [inside]

theorem travel_of_link {target : Bytes} {closed : Bool}
    (advanced : place.advance names = .ok (reached, rest)) (link : reached.tree = .link target closed)
    (more : rest ≠ [] ∨ onward = true) :
    place.travel onward links names =
      match links with
      | 0 => .error (.ofSystem .tooManyLinks)
      | left + 1 =>
          if closed then .error (.ofSystem .accessDenied)
          else (reached.aim ⟨target⟩).travel onward left ((Path.mk target).names ++ rest) := by
  have goes := not_ended more
  cases links with
  | zero =>
      rw [travel, advanced]
      simp only [link, if_neg goes]
  | succ left =>
      rw [travel, advanced]
      simp only [link, if_neg goes]

end Equations

/-- Every walk goes on in one of these ways. -/
theorem travels_travel (onward : Bool) (links : Nat) (names : List Bytes) (place : Place) :
    Travels onward links names place (place.travel onward links names) := by
  induction links generalizing names place with
  | zero =>
      cases advanced : place.advance names with
      | error failure =>
          rw [travel_of_failed advanced]
          exact .fails advanced
      | ok pair =>
          rcases settles onward pair with settled | ⟨link, more⟩
          · rw [travel_of_settled advanced settled]
            exact .arrives advanced settled
          · rcases isLink_iff.mp link with ⟨target, closed, inside⟩
            rw [travel_of_link advanced inside more]
            exact .exhausts advanced link more
  | succ links ih =>
      cases advanced : place.advance names with
      | error failure =>
          rw [travel_of_failed advanced]
          exact .fails advanced
      | ok pair =>
          rcases settles onward pair with settled | ⟨link, more⟩
          · rw [travel_of_settled advanced settled]
            exact .arrives advanced settled
          · rcases isLink_iff.mp link with ⟨target, closed, inside⟩
            rw [travel_of_link advanced inside more]
            cases closed with
            | true => exact .refused advanced inside more
            | false => exact .follows advanced inside more (ih _ _)

/-- What a walk comes to is its result. -/
theorem Travels.eq {onward : Bool} {links : Nat} {result : Except IoFailure Arrival}
    (travels : Travels onward links names place result) :
    place.travel onward links names = result := by
  induction travels with
  | fails failed => exact travel_of_failed failed
  | arrives advanced settled => exact travel_of_settled advanced settled
  | exhausts advanced link more =>
      rcases isLink_iff.mp link with ⟨target, closed, inside⟩
      exact travel_of_link advanced inside more
  | refused advanced link more => exact travel_of_link advanced link more
  | follows advanced link more later ih =>
      rw [travel_of_link advanced link more]
      exact ih

theorem travels_within {onward : Bool} {links : Nat} {arrival : Arrival}
    (within : Within tree place) (came : place.travel onward links names = .ok arrival) :
    Within tree arrival.place := by
  have travels := came ▸ travels_travel onward links names place
  generalize shown : Except.ok arrival = result at travels
  induction travels with
  | fails failed => cases shown
  | arrives advanced settled =>
      rw [Except.ok.inj shown]
      exact (advance_within within advanced).1
  | exhausts advanced link more => cases shown
  | refused advanced link more => cases shown
  | follows advanced link more later ih =>
      exact ih ((advance_within within advanced).1.aim _) (later.eq.trans shown.symm) shown

/-- A walk that goes onward does not end at a link. -/
theorem isLink_of_onward {links : Nat} {arrival : Arrival}
    (came : place.travel true links names = .ok arrival) : arrival.place.isLink = false := by
  have travels := came ▸ travels_travel true links names place
  generalize shown : Except.ok arrival = result at travels
  induction travels with
  | fails failed => cases shown
  | arrives advanced settled =>
      rw [Except.ok.inj shown]
      rcases settled with bare | ⟨_, impossible⟩
      · exact bare
      · cases impossible
  | exhausts advanced link more => cases shown
  | refused advanced link more => cases shown
  | follows advanced link more later ih => exact ih (later.eq.trans shown.symm) shown

/-- A walk along more names goes on from where the first ones led, with the
links that are left. -/
theorem travel_append (onward : Bool) (links : Nat) (first : List Bytes) {second : List Bytes}
    (more : second ≠ []) (place : Place) :
    place.travel onward links (first ++ second) =
      (place.travel true links first).bind fun arrival =>
        arrival.place.travel onward arrival.links second := by
  have travels := travels_travel true links first place
  generalize place.travel true links first = result at travels ⊢
  induction travels with
  | @fails links first place failure failed =>
      apply travel_of_failed
      rw [advance_append, failed]
      rfl
  | @arrives links first rest place reached advanced settled =>
      have bare : reached.isLink = false := by
        rcases settled with bare | ⟨_, impossible⟩
        · exact bare
        · cases impossible
      exact travel_congr (advance_append_of_bare second advanced bare) onward links
  | @exhausts first rest place reached advanced link _ =>
      have behind := advance_append_of_link second advanced link
      exact (Travels.exhausts behind link
        (Or.inl (List.append_ne_nil_of_right_ne_nil _ more))).eq
  | @refused links first rest place reached target advanced link _ =>
      have behind := advance_append_of_link second advanced (isLink_iff.mpr ⟨_, _, link⟩)
      exact (Travels.refused behind link (Or.inl (List.append_ne_nil_of_right_ne_nil _ more))).eq
  | @follows links first rest place reached target result advanced link _ later ih =>
      have behind := advance_append_of_link second advanced (isLink_iff.mpr ⟨_, _, link⟩)
      rw [travel_of_link behind link (Or.inl (List.append_ne_nil_of_right_ne_nil _ more)),
        ← List.append_assoc]
      exact ih

end Place
end FileTree
end ProcInspection
