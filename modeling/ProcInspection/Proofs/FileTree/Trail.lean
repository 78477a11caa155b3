import ProcInspection.Proofs.FileTree.Walk

namespace ProcInspection
namespace FileTree

/-!
The trail of a walk.

With each name a walk turns to one way, and asks what stands at the end of it.
It may stand there or not, and the walk may be refused before it knows; in any
case nothing else of the tree has been asked for.  The ways that a walk turns to
are its trail.

As long as no link stands where it would be followed, the trail is what the
names spell.  A link that is followed can take it anywhere.
-/

/-- No link stands on the way of some names where a walk would follow it. -/
def Straight (onward : Bool) (names : List Bytes) (tree : FileTree) : Prop :=
  forall front rest, names = front ++ rest -> (rest ≠ [] ∨ onward = true) ->
    forall target closed, tree.subtree? front ≠ some (.link target closed)

/-- A link at the very end is not followed if it is asked for itself. -/
theorem Straight.concat {names : List Bytes} {tree : FileTree} (straight : Straight true names tree)
    (last : Bytes) : Straight false (names ++ [last]) tree := by
  intro front rest split more target closed
  have nonempty : rest ≠ [] := more.resolve_right Bool.false_ne_true
  have within : front <+: names := by
    have ends : (front ++ rest).dropLast = front ++ rest.dropLast :=
      List.dropLast_append_of_ne_nil nonempty
    rw [← split, List.dropLast_concat] at ends
    exact ⟨rest.dropLast, ends.symm⟩
  rcases within with ⟨others, whole⟩
  exact straight front others whole.symm (Or.inr rfl) target closed

theorem Straight.at_directory {onward : Bool} (entries : List (Bytes × FileTree))
    (condition : Condition) : Straight onward [] (.directory entries condition) := by
  intro front rest split _ target closed found
  rw [(List.append_eq_nil_iff.mp split.symm).1] at found
  cases found

theorem Straight.of_directory {onward : Bool} {name : Bytes} {names : List Bytes}
    {entries : List (Bytes × FileTree)} {condition : Condition}
    (below : forall child, entries.lookup name = some child -> Straight onward names child) :
    Straight onward (name :: names) (.directory entries condition) := by
  intro front rest split more target closed found
  cases front with
  | nil => cases found
  | cons first front =>
      rcases List.cons.inj split with ⟨rfl, others⟩
      rcases Option.bind_eq_some_iff.mp found with ⟨child, held, found⟩
      exact below child held front rest others more target closed found

/-- No link stands anywhere in a tree. -/
inductive Linkless : FileTree -> Prop where
  | file (content : Bytes) (closed : Bool) : Linkless (.file content closed)
  | directory {entries : List (Bytes × FileTree)} {condition : Condition}
      (inside : forall entry, entry ∈ entries -> Linkless entry.2) :
      Linkless (.directory entries condition)

theorem Linkless.subtree {tree child : FileTree} (linkless : Linkless tree) {way : List Bytes}
    (found : tree.subtree? way = some child) : Linkless child := by
  induction way generalizing tree with
  | nil => exact Option.some.inj found ▸ linkless
  | cons name way ih =>
      cases linkless with
      | file content closed => cases found
      | directory inside =>
          rcases Option.bind_eq_some_iff.mp found with ⟨below, held, found⟩
          rcases List.lookup_eq_some_iff.mp held with ⟨before, after, whole, _⟩
          exact ih (inside (name, below) (whole ▸ List.mem_append_right before List.mem_cons_self))
            found

/-- Every way through such a tree is straight. -/
theorem Linkless.straight {tree : FileTree} (linkless : Linkless tree) (onward : Bool)
    (names : List Bytes) : Straight onward names tree := by
  intro front rest _ _ target closed found
  cases linkless.subtree found

namespace Place

/-- The ways that names turn to, up to the first link. -/
def turns : List Bytes -> Place -> List (List Bytes)
  | [], _ => []
  | name :: names, place =>
      if place.isLink then []
      else
        Path.turn place.names name ::
          match place.step name with
          | .ok next => turns names next
          | .error _ => []

/-- The ways that a walk turns to, also behind the links that it follows. -/
def trail (onward : Bool) (links : Nat) (names : List Bytes) (place : Place) : List (List Bytes) :=
  place.turns names ++
    match place.advance names with
    | .error _ => []
    | .ok (reached, rest) =>
        match reached.tree with
        | .link target false =>
            if rest.isEmpty && !onward then []
            else
              match links with
              | 0 => []
              | left + 1 =>
                  trail onward left ((Path.mk target).names ++ rest) (reached.aim ⟨target⟩)
        | _ => []

variable {onward : Bool} {links : Nat} {names rest : List Bytes} {place reached : Place}

theorem turns_cons (name : Bytes) (names : List Bytes) (bare : place.isLink = false) :
    place.turns (name :: names) =
      Path.turn place.names name ::
        match place.step name with
        | .ok next => next.turns names
        | .error _ => [] := by
  rw [turns, bare, if_neg Bool.false_ne_true]

theorem mem_trail_of_turns {way : List Bytes} (turned : way ∈ place.turns names) :
    way ∈ place.trail onward links names := by
  rw [trail]
  exact List.mem_append_left _ turned

/-- A walk that does not go on behind its names has turned only to them. -/
theorem trail_of_settled (advanced : place.advance names = .ok (reached, rest))
    (settled : reached.isLink = false ∨ (rest = [] ∧ onward = false)) :
    place.trail onward links names = place.turns names := by
  rw [trail, advanced]
  cases inside : reached.tree with
  | file content closed => simp only [inside, List.append_nil]
  | directory entries condition => simp only [inside, List.append_nil]
  | link target closed =>
      rcases settled with bare | ⟨rfl, rfl⟩
      · rw [isLink_iff.mpr ⟨_, _, inside⟩] at bare
        cases bare
      · cases closed <;> simp [inside]

theorem trail_of_failed {failure : IoFailure} (failed : place.advance names = .error failure) :
    place.trail onward links names = place.turns names := by
  rw [trail, failed]
  exact List.append_nil _

/-- Behind a link that is followed the trail goes on. -/
theorem trail_of_link {target : Bytes} (advanced : place.advance names = .ok (reached, rest))
    (link : reached.tree = .link target false) (more : rest ≠ [] ∨ onward = true) :
    place.trail onward (links + 1) names =
      place.turns names ++
        (reached.aim ⟨target⟩).trail onward links ((Path.mk target).names ++ rest) := by
  rw [trail, advanced]
  simp only [link, if_neg (not_ended more)]

/-! ## Straight walks -/

theorem isLink_of_straight (straight : Straight onward names place.tree)
    (more : names ≠ [] ∨ onward = true) : place.isLink = false := by
  apply Bool.eq_false_iff.mpr
  intro link
  rcases isLink_iff.mp link with ⟨target, closed, inside⟩
  exact straight [] names rfl more target closed (congrArg some inside)

/-- What is straight stays straight after a step. -/
theorem straight_of_step {name : Bytes} {next : Place} (plain : Path.IsName name)
    (straight : Straight onward (name :: names) place.tree) (stepped : place.step name = .ok next) :
    Straight onward names next.tree ∧
      forall front, next.tree.subtree? front = place.tree.subtree? (name :: front) := by
  rcases step_eq_ok stepped with ⟨stays, _⟩ | ⟨up, _⟩ |
    ⟨_, _, entries, condition, child, inside, found, down⟩
  · exact (plain.notDot stays).elim
  · exact (plain.notDotDot up).elim
  · have below (front : List Bytes) :
        next.tree.subtree? front = place.tree.subtree? (name :: front) := by
      rw [down, inside, FileTree.subtree?, found]
      rfl
    refine ⟨?_, below⟩
    intro front rest split more target closed
    rw [below]
    exact straight (name :: front) rest (by rw [split, List.cons_append]) more target closed

/-- A straight walk leaves no names, and ends at what stands at the end of its
way. -/
theorem advance_of_straight (straight : Straight onward names place.tree)
    (plain : forall name, name ∈ names -> Path.IsName name)
    (advanced : place.advance names = .ok (reached, rest)) :
    rest = [] ∧ place.tree.subtree? names = some reached.tree := by
  induction names generalizing place with
  | nil =>
      rcases Prod.mk.inj (Except.ok.inj advanced) with ⟨rfl, rfl⟩
      exact ⟨rfl, rfl⟩
  | cons name names ih =>
      have bare := isLink_of_straight straight (Or.inl (List.cons_ne_nil name names))
      rw [advance_cons name names bare] at advanced
      cases stepped : place.step name with
      | error failure =>
          rw [stepped] at advanced
          cases advanced
      | ok next =>
          rw [stepped] at advanced
          have after := straight_of_step (plain name List.mem_cons_self) straight stepped
          rw [← after.2]
          exact ih after.1 (fun other member => plain other (List.mem_cons_of_mem name member))
            advanced

theorem settled_of_straight (straight : Straight onward names place.tree)
    (plain : forall name, name ∈ names -> Path.IsName name)
    (advanced : place.advance names = .ok (reached, rest)) :
    reached.isLink = false ∨ (rest = [] ∧ onward = false) := by
  have ends := advance_of_straight straight plain advanced
  cases onward with
  | false => exact Or.inr ⟨ends.1, rfl⟩
  | true =>
      refine Or.inl (Bool.eq_false_iff.mpr fun link => ?_)
      rcases isLink_iff.mp link with ⟨target, closed, inside⟩
      exact straight names [] (List.append_nil names).symm (Or.inr rfl) target closed
        (inside ▸ ends.2)

/-- Where a straight walk comes to. -/
theorem travel_of_straight {arrival : Arrival} (straight : Straight onward names place.tree)
    (plain : forall name, name ∈ names -> Path.IsName name)
    (came : place.travel onward links names = .ok arrival) :
    place.advance names = .ok (arrival.place, []) ∧
      place.tree.subtree? names = some arrival.place.tree := by
  cases advanced : place.advance names with
  | error failure =>
      rw [travel_of_failed advanced] at came
      cases came
  | ok pair =>
      rcases pair with ⟨reached, rest⟩
      rcases advance_of_straight straight plain advanced with ⟨rfl, found⟩
      rw [travel_of_settled advanced (settled_of_straight straight plain advanced)] at came
      rw [← Except.ok.inj came]
      exact ⟨rfl, found⟩

/-- Plain names turn to what they spell. -/
theorem exists_front_of_mem_turns {tree : FileTree} (within : Within tree place)
    (plain : forall name, name ∈ names -> Path.IsName name) {way : List Bytes}
    (turned : way ∈ place.turns names) :
    Exists fun front : List Bytes => front ≠ [] ∧ front <+: names ∧ way = place.names ++ front := by
  induction names generalizing place with
  | nil => cases turned
  | cons name names ih =>
      have turn := Path.turn_of_isName (plain name List.mem_cons_self) place.names
      by_cases link : place.isLink = true
      · rw [turns, if_pos link] at turned
        cases turned
      · rw [turns_cons name names (Bool.eq_false_iff.mpr link)] at turned
        rcases List.mem_cons.mp turned with here | later
        · refine ⟨[name], List.cons_ne_nil name [], ?_, here.trans turn⟩
          exact List.cons_prefix_cons.mpr ⟨rfl, List.nil_prefix⟩
        · cases stepped : place.step name with
          | error failure =>
              rw [stepped] at later
              cases later
          | ok next =>
              rw [stepped] at later
              have moved := step_within within stepped
              rcases ih moved.1 (fun other member => plain other (List.mem_cons_of_mem name member))
                later with ⟨front, _, through, whole⟩
              refine ⟨name :: front, List.cons_ne_nil name front,
                List.cons_prefix_cons.mpr ⟨rfl, through⟩, ?_⟩
              rw [whole, moved.2, turn, List.append_assoc, List.singleton_append]

/-- A straight walk along another name does not turn to an entry of the place
where it starts. -/
theorem not_mem_trail {tree : FileTree} {first last : Bytes} (within : Within tree place)
    (straight : Straight onward (first :: rest) place.tree)
    (plain : forall name, name ∈ first :: rest -> Path.IsName name) (different : first ≠ last) :
    place.names ++ [last] ∉ place.trail onward links (first :: rest) := by
  have same : place.trail onward links (first :: rest) = place.turns (first :: rest) := by
    cases advanced : place.advance (first :: rest) with
    | error failure => exact trail_of_failed advanced
    | ok pair => exact trail_of_settled advanced (settled_of_straight straight plain advanced)
  rw [same]
  intro turned
  rcases exists_front_of_mem_turns within plain turned with ⟨front, nonempty, through, whole⟩
  rw [← List.append_cancel_left whole] at through
  exact different (List.cons_prefix_cons.mp through).1.symm

end Place
end FileTree
end ProcInspection
