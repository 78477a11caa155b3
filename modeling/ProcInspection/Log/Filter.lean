import ProcInspection.Log.Directive

namespace ProcInspection

/-!
Which log events are shown.

A filter is a list of directives.  Of those that cover an event the one that
says most decides, the later of two that say the same; an event that none
covers stays silent.
-/

abbrev LogFilter := List LogDirective

namespace LogFilter

/-- One threshold for the sources below a name. -/
def only (source : String) (threshold : LogLevel) : LogFilter :=
  [⟨source, none, none, threshold⟩]

/-- Directives separated by commas.  Without any, only errors are shown. -/
def ofText? (text : String) : Option LogFilter :=
  let parts := (text.toList.splitOnP fun c => c == ',').filter fun part => !part.isEmpty
  if parts.isEmpty then some (only "" .error)
  else parts.mapM fun part => LogDirective.ofText? (String.ofList part)

/-- Of two directives for an event, the one that says more. -/
def preferred (found : Option LogDirective) (next : LogDirective) : Option LogDirective :=
  match found with
  | some directive => if next.saysAsMuchAs directive then some next else some directive
  | none => some next

def threshold (filter : LogFilter) (event : LogEvent) : LogLevel :=
  match (filter.filter fun directive => directive.covers event).foldl preferred none with
  | some directive => directive.threshold
  | none => .off

def shows (filter : LogFilter) (event : LogEvent) : Bool :=
  (filter.threshold event).lets event.level

end LogFilter
end ProcInspection
