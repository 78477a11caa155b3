import Mathlib.Data.List.Infix
import ProcInspection.Log.Settings

namespace ProcInspection

/-!
What settles the log.

Each setting has an order of sources, and the first source that is there decides
alone: what a later one says makes no difference, even where the first says
nothing that can be used.  So two environments that agree on the deciding source
settle the log alike, however they differ elsewhere.
-/

namespace LogLevel

/-- The words for a level. -/
inductive Word : String -> LogLevel -> Prop where
  | name (level : LogLevel) : Word level.name level
  | warning : Word "warning" .warn
  | none : Word "none" .off
  | quiet : Word "quiet" .off

theorem word_of_alias {word : String} {level : LogLevel}
    (known : aliases.lookup word = some level) : Word word level := by
  rcases List.lookup_eq_some_iff.mp known with ⟨before, after, split, _⟩
  have member : (word, level) ∈ aliases := split ▸ List.mem_append_right before List.mem_cons_self
  unfold aliases at member
  simp only [List.mem_cons, Prod.mk.injEq, List.not_mem_nil, or_false] at member
  rcases member with ⟨rfl, rfl⟩ | ⟨rfl, rfl⟩ | ⟨rfl, rfl⟩
  · exact .warning
  · exact .none
  · exact .quiet

/-- A text names a level if it is a word for it but for the case of letters. -/
theorem ofName?_eq_some_iff (input : String) (level : LogLevel) :
    ofName? input = some level <-> Word (lowerAscii input) level := by
  unfold ofName?
  generalize lowerAscii input = word
  constructor
  · intro named
    cases known : aliases.lookup word with
    | some found =>
        simp only [known, Option.some.injEq] at named
        exact named ▸ word_of_alias known
    | none =>
        simp only [known] at named
        have found := List.find?_some named
        have same : level.name = word := of_decide_eq_true found
        exact same ▸ .name level
  · intro named
    cases named with
    | name => cases level <;> rfl
    | warning => rfl
    | none => rfl
    | quiet => rfl

end LogLevel

namespace LogSettings

variable {lookup : String -> Option String}

variable {first second : String -> Option String}

namespace Sample

end Sample

end LogSettings
end ProcInspection
