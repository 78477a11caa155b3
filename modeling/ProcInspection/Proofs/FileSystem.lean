import ProcInspection.FileSystem
import ProcInspection.Proofs.FileTree.Walk
import ProcInspection.Proofs.Text.Utf8

namespace ProcInspection
namespace FileSystem

/-!
What a path leads to, and reading a file as text.

A path that goes on from another one is walked from where that one leads, with
the links that are left.  So once it is known where the root leads, the reads
below it can be told from there.

A file is readable text exactly when its content is what some text is written
as, and then it is that text.
-/

open FileTree (Place Arrival)

variable {files : FileSystem} {path : Path}

/-! ## Paths -/

section Paths

variable {onward : Bool} {start here : Place}

theorem resolve_of_origin (taken : pathFault? path = none) (begins : files.origin? path = some start) :
    files.resolve onward path = start.travel onward linkLimit path.names := by
  rw [resolve, taken, begins]

/-- A path that leads anywhere is taken, and it has a place to start at. -/
theorem resolve_eq_ok {arrival : Arrival} (resolved : files.resolve onward path = .ok arrival) :
    pathFault? path = none ∧ Exists fun start : Place => files.origin? path = some start ∧
      start.travel onward linkLimit path.names = .ok arrival := by
  unfold resolve at resolved
  cases fault : pathFault? path with
  | some failure =>
      rw [fault] at resolved
      cases resolved
  | none =>
      cases begins : files.origin? path with
      | none =>
          rw [fault, begins] at resolved
          cases resolved
      | some start =>
          rw [fault, begins] at resolved
          exact ⟨rfl, start, rfl, resolved⟩

theorem find_eq_ok {found : FileTree} (seen : files.find onward path = .ok found) :
    Exists fun arrival : Arrival =>
      files.resolve onward path = .ok arrival ∧ arrival.place.tree = found := by
  unfold find at seen
  cases resolved : files.resolve onward path with
  | error failure =>
      rw [resolved] at seen
      cases seen
  | ok arrival =>
      rw [resolved] at seen
      exact ⟨arrival, rfl, Except.ok.inj seen⟩

theorem descend?_within {tree : FileTree} {way : List Bytes} (within : Place.Within tree start)
    (down : start.descend? way = some here) : Place.Within tree here := by
  induction way generalizing start with
  | nil => exact Option.some.inj down ▸ within
  | cons name way ih =>
      unfold Place.descend? at down
      cases inside : start.tree with
      | file content closed =>
          rw [inside] at down
          cases down
      | link target closed =>
          rw [inside] at down
          cases down
      | directory entries condition =>
          rw [inside] at down
          rcases Option.bind_eq_some_iff.mp down with ⟨child, found, down⟩
          rw [← inside] at down
          exact ih (.child within inside found) down

theorem origin?_within (begins : files.origin? path = some start) :
    Place.Within files.tree start := by
  unfold origin? at begins
  by_cases absolute : path.isAbsolute = true
  · rw [if_pos absolute] at begins
    exact Option.some.inj begins ▸ .top
  · rw [if_neg absolute] at begins
    rcases Option.bind_eq_some_iff.mp begins with ⟨way, _, down⟩
    exact descend?_within .top down

theorem resolve_within {arrival : Arrival} (resolved : files.resolve onward path = .ok arrival) :
    Place.Within files.tree arrival.place := by
  rcases (resolve_eq_ok resolved).2 with ⟨start, begins, came⟩
  exact Place.travels_within (origin?_within begins) came

/-- A dot behind the parts of a path leads nowhere else. -/
theorem travel_parts {links : Nat} {arrival : Arrival}
    (came : start.travel true links path.names = .ok arrival) :
    start.travel true links path.parts = .ok arrival := by
  unfold Path.names at came
  split at came
  · rw [Place.travel_append true links path.parts (List.cons_ne_nil _ _)] at came
    cases before : start.travel true links path.parts with
    | error failure =>
        rw [before] at came
        cases came
    | ok reached =>
        rw [before, Except.bind] at came
        have bare := Place.isLink_of_onward before
        have advanced : reached.place.advance [Path.dot] =
            (reached.place.step Path.dot).bind fun next => next.advance [] :=
          Place.advance_cons Path.dot [] bare
        cases stepped : reached.place.step Path.dot with
        | error failure =>
            rw [stepped] at advanced
            rw [Place.travel_of_failed advanced] at came
            cases came
        | ok next =>
            rw [stepped, Place.step_dot stepped] at advanced
            rw [Place.travel_of_settled advanced (Or.inl bare)] at came
            exact congrArg Except.ok (Except.ok.inj came)
  · exact came

/-- What is joined to a path is walked from where the path leads. -/
theorem resolve_under {base : Path} {names : List Bytes} {arrival : Arrival}
    (under : base.Under path names) (more : names ≠ []) (taken : pathFault? path = none)
    (resolved : files.resolve true base = .ok arrival) :
    files.resolve onward path = arrival.place.travel onward arrival.links names := by
  rcases (resolve_eq_ok resolved).2 with ⟨start, begins, came⟩
  have same : files.origin? path = some start := by
    rw [← begins, origin?, origin?, under.start]
  rw [resolve_of_origin taken same, under.names, Place.travel_append onward linkLimit base.parts more,
    travel_parts came]
  rfl

end Paths

/-! ## Text -/

theorem readText_of_text {content : Bytes} {text : String}
    (found : files.read path = .ok content) (decoded : Utf8.decode? content = some text) :
    files.readText path = .ok text := by
  simp only [readText, found, decoded]

theorem readText_of_broken {content : Bytes} (found : files.read path = .ok content)
    (undecoded : Utf8.decode? content = none) : files.readText path = .error .notText := by
  simp only [readText, found, undecoded]

theorem readText_of_unread {cause : IoFailure} (refused : files.read path = .error cause) :
    files.readText path = .error cause := by
  simp only [readText, refused]

theorem readText_eq_ok_iff {text : String} :
    files.readText path = .ok text <-> files.read path = .ok (Utf8.encode text) := by
  constructor
  · intro shown
    cases found : files.read path with
    | error cause => cases shown.symm.trans (readText_of_unread found)
    | ok content =>
        cases decoded : Utf8.decode? content with
        | none => cases shown.symm.trans (readText_of_broken found decoded)
        | some other =>
            have same := Except.ok.inj (shown.symm.trans (readText_of_text found decoded))
            rw [Utf8.decode?_eq_some_iff.mp decoded, same]
  · intro found
    exact readText_of_text found (Utf8.decode?_eq_some_iff.mpr rfl)

end FileSystem
end ProcInspection
