import ProcInspection.Log.Level

namespace ProcInspection

/-!
Log settings from the command line and the environment.

A value given on the command line wins.  Without one, the program's own
variable decides the level as soon as it is set, even to a text that names no
level; only when it is unset does the general variable count, by the first
level name found anywhere in it.
-/

structure LogSettings where
  format : LogFormat
  level : LogLevel
  timestamps : Bool
  deriving DecidableEq

namespace LogSettings

def standard : LogSettings :=
  ⟨.human, .warn, false⟩

/-- Does a text hold another one? -/
def holds (part : List Char) : List Char -> Bool
  | [] => part.isEmpty
  | c :: text => List.isPrefixOf part (c :: text) || holds part text

/-- The levels that are searched for in the general variable, in order. -/
def searched : List LogLevel :=
  [.trace, .debug, .info, .error]

def mentionedLevel? (text : String) : Option LogLevel :=
  searched.find? fun level => holds level.name.toList text.toList

def levelVariable : String := "PINSPECT_LOG"

def generalVariable : String := "RUST_LOG"

def formatVariable : String := "PINSPECT_LOG_FORMAT"

/-- The level that the environment asks for. -/
def environmentLevel (lookup : String -> Option String) : LogLevel :=
  match lookup levelVariable with
  | some text => (LogLevel.ofName? text).getD standard.level
  | none =>
      match lookup generalVariable with
      | some text => (mentionedLevel? text).getD standard.level
      | none => standard.level

/-- The format that the environment asks for. -/
def environmentFormat (lookup : String -> Option String) : LogFormat :=
  match lookup formatVariable with
  | some text => (LogFormat.ofName? text).getD standard.format
  | none => standard.format

def resolve (lookup : String -> Option String) (level : Option LogLevel)
    (format : Option LogFormat) : LogSettings where
  format := format.getD (environmentFormat lookup)
  level := level.getD (environmentLevel lookup)
  timestamps := standard.timestamps

end LogSettings
end ProcInspection
