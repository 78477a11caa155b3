import ProcInspection.Proofs.FileSystem
import ProcInspection.Proofs.FileTree.Alike

namespace ProcInspection

/-!
What the reads below a path see of two trees.

A path leads to one place in two trees that differ at one way alone, outside of
that place.  A read that goes on from there has the same outcome in both, if its
walk never turns to that way.  A listing must not show a directory on the way
either.

Where no link stands on a path below the place, nothing can lead it back: it
never turns to another entry of the place than the one that its first name says.
-/

namespace FileTree

/-- A walk that goes on from an arrival never turns to a way. -/
def Arrival.Avoids (onward : Bool) (names way : List Bytes) (here : Arrival) : Prop :=
  way ∉ here.place.trail onward here.links names

instance (onward : Bool) (names way : List Bytes) (here : Arrival) :
    Decidable (here.Avoids onward names way) :=
  inferInstanceAs (Decidable (_ ∉ _))

/-- Neither does it, nor does it come to a directory on that way. -/
structure Arrival.Overlooks (names way : List Bytes) (here : Arrival) : Prop where
  avoids : here.Avoids true names way
  beside : forall arrival, here.place.travel true here.links names = .ok arrival ->
    ¬ arrival.place.names <+: way

instance (names way : List Bytes) (here : Arrival) : Decidable (here.Overlooks names way) :=
  match came : here.place.travel true here.links names with
  | .error _ =>
      decidable_of_iff (here.Avoids true names way)
        ⟨fun avoids => ⟨avoids, fun _ other => nomatch came.symm.trans other⟩,
          fun overlooks => overlooks.avoids⟩
  | .ok arrival =>
      decidable_of_iff (here.Avoids true names way ∧ ¬ arrival.place.names <+: way)
        ⟨fun both => ⟨both.1, fun _ other => Except.ok.inj (came.symm.trans other) ▸ both.2⟩,
          fun overlooks => ⟨overlooks.avoids, overlooks.beside arrival came⟩⟩

/-- Nothing stands inside one of its own entries. -/
theorem Arrival.not_below_entry (here : Arrival) (name : Bytes) :
    ¬ here.place.names ++ [name] <+: here.place.names := by
  intro through
  have short := through.length_le
  rw [List.length_append, List.length_singleton] at short
  exact Nat.not_succ_le_self _ short

section Straight

variable {tree : FileTree} {here : Arrival} {first last : Bytes} {rest : List Bytes}
  (within : Place.Within tree here.place)
  (plain : forall name, name ∈ first :: rest -> Path.IsName name) (different : first ≠ last)

include within plain different

theorem Arrival.avoids_of_straight {onward : Bool}
    (straight : Straight onward (first :: rest) here.place.tree) :
    here.Avoids onward (first :: rest) (here.place.names ++ [last]) :=
  Place.not_mem_trail within straight plain different

theorem Arrival.overlooks_of_straight (straight : Straight true (first :: rest) here.place.tree) :
    here.Overlooks (first :: rest) (here.place.names ++ [last]) where
  avoids := here.avoids_of_straight within plain different straight
  beside := by
    intro arrival came through
    have advanced := (Place.travel_of_straight straight plain came).1
    rcases (Place.advance_within within advanced).2 with ⟨front, whole, ends⟩
    rw [List.append_nil] at whole
    rw [ends, ← whole, Path.foldl_turn_of_isName plain, List.prefix_append_right_inj,
      List.cons_prefix_cons] at through
    exact different through.1

end Straight

end FileTree

namespace FileSystem

open FileTree (Place Arrival AlikeBut Match Abreast)

/-- A path leads to one place in two file systems, along as many links. -/
structure Meets (path : Path) (one other : FileSystem) (here there : Arrival) : Prop where
  first : one.resolve true path = .ok here
  second : other.resolve true path = .ok there
  names : here.place.names = there.place.names
  links : here.links = there.links

variable {one other : FileSystem} {way : List Bytes} {path : Path}

/-! ## Reads of what was come to -/

section Reads

variable (alike : AlikeBut way one.tree other.tree) {onward : Bool}
  (both : Match (Abreast way one.tree other.tree) (one.resolve onward path)
    (other.resolve onward path))

include alike both

/-- What is found is the same, or directories that are called and closed alike. -/
theorem find_alike :
    one.find onward path = other.find onward path ∨
      Exists fun arrival : Arrival => one.resolve onward path = .ok arrival ∧
        arrival.place.names <+: way ∧
          Exists fun entries : List (Bytes × FileTree) =>
            Exists fun changed : List (Bytes × FileTree) => Exists fun condition : Condition =>
              one.find onward path = .ok (.directory entries condition) ∧
                other.find onward path = .ok (.directory changed condition) := by
  unfold find
  generalize one.resolve onward path = left, other.resolve onward path = right at both ⊢
  cases both with
  | failed failure => exact Or.inl rfl
  | @came here there both =>
      rcases both.places.trees alike with
        same | ⟨entries, changed, condition, through, inside, also, _⟩
      · exact Or.inl (congrArg Except.ok same)
      · exact Or.inr ⟨here, rfl, through, entries, changed, condition, congrArg Except.ok inside,
          congrArg Except.ok also⟩

end Reads

section Below

variable {base : Path} {here there : Arrival} {names : List Bytes} {onward : Bool}
  (meets : Meets base one other here there) (alike : AlikeBut way one.tree other.tree)
  (outside : ¬ way <+: here.place.names) (under : base.Under path names) (more : names ≠ [])

include meets alike outside under more

theorem resolve_alike (avoids : here.Avoids onward names way) :
    Match (Abreast way one.tree other.tree) (one.resolve onward path)
      (other.resolve onward path) := by
  cases fault : pathFault? path with
  | some failure =>
      unfold resolve
      rw [fault]
      exact .failed failure
  | none =>
      have nonempty : way ≠ [] := fun empty => outside (empty ▸ List.nil_prefix)
      rw [resolve_under under more fault meets.first, resolve_under under more fault meets.second,
        ← meets.links]
      exact FileTree.travel_alike alike nonempty
        ⟨resolve_within meets.first, resolve_within meets.second, meets.names, outside⟩ avoids

theorem read_alike (avoids : here.Avoids true names way) : one.read path = other.read path := by
  have both := resolve_alike meets alike outside under more avoids
  unfold read
  rcases find_alike alike both with same | ⟨_, _, _, entries, changed, condition, inside, also⟩
  · rw [same]
  · rw [inside, also]

theorem readLink_alike (avoids : here.Avoids false names way) :
    one.readLink path = other.readLink path := by
  have both := resolve_alike meets alike outside under more avoids
  unfold readLink
  rcases find_alike alike both with same | ⟨_, _, _, entries, changed, condition, inside, also⟩
  · rw [same]
  · rw [inside, also]

theorem list_alike (overlooks : here.Overlooks names way) : one.list path = other.list path := by
  have both := resolve_alike meets alike outside under more overlooks.avoids
  unfold list
  rcases find_alike alike both with same | ⟨arrival, resolved, through, _⟩
  · rw [same]
  · have taken := (resolve_eq_ok resolved).1
    rw [resolve_under under more taken meets.first] at resolved
    exact (overlooks.beside arrival resolved through).elim

end Below

end FileSystem
end ProcInspection
