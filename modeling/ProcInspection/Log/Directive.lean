import ProcInspection.Log.Event
import ProcInspection.Log.FieldTest
import ProcInspection.Text.Blank

namespace ProcInspection

/-!
One directive of a log filter.

A directive sets a threshold.  It may name a source, in brackets a span, and
in braces a field, which may have to have some value:
`source[span{field=value}]=threshold`.  A word alone is a threshold if it can
be read as one, and otherwise a source that is shown whole.

Blanks at the two ends are passed over when a directive is read, yet they
count in what is cut out of it: the cuts are taken from the whole text at the
offsets where the signs stand in the text without its blanks.  So a threshold
behind a blank is a source, and blanks in front shorten a name.
-/

/-- The empty source stands for every source. -/
structure LogDirective where
  source : String
  span : Option String
  field : Option FieldTest
  threshold : LogLevel
  deriving DecidableEq

namespace LogDirective

/-- Everything is shown, from every source. -/
def everything : LogDirective :=
  ⟨"", none, none, .trace⟩

/-- The names and numbers of thresholds. -/
def threshold? (text : String) : Option LogLevel :=
  match Decimal.value? (Decimal.withoutPlus text.toList) with
  | some number => LogLevel.all.find? fun level => level.verbosity = number
  | none => LogLevel.all.find? fun level => level.name = lowerAscii text

/-- The part of a directive that is being read, with the offset at which it
begins where that is needed. -/
inductive Part where
  | start
  | word
  | span (first : Nat)
  | field (first : Nat)
  | fieldEnd
  | spanEnd
  | threshold (first : Nat)
  deriving DecidableEq

structure Draft where
  directive : LogDirective
  part : Part

/-- The bytes between two offsets.  A cut inside a character yields no text. -/
def cut? (raw : Bytes) (first stop : Nat) : Option String :=
  Utf8.decode? ((raw.take stop).drop first)

def startsWord (c : Char) : Bool :=
  c = '-' || c = ':' || c = '_' || Alphanumeric.isAlphanumeric c

/-- The draft with the source that ends at an offset. -/
def Draft.sourceEnds (draft : Draft) (raw : Bytes) (stop : Nat) (next : Part) : Option Draft :=
  (cut? raw 0 stop).map fun source => ⟨{ draft.directive with source := source }, next⟩

/-- The draft with a span, which is named even if the brackets are empty. -/
def Draft.spanEnds (draft : Draft) (raw : Bytes) (first stop : Nat) : Option Draft :=
  (cut? raw first stop).map fun span => ⟨{ draft.directive with span := some span }, .spanEnd⟩

/-- The draft with a span whose fields begin.  In front of a field, an empty
name stands for no span. -/
def Draft.fieldBegins (draft : Draft) (raw : Bytes) (first stop : Nat) : Option Draft :=
  (cut? raw first stop).map fun span =>
    ⟨{ draft.directive with span := if span.isEmpty then none else some span },
      .field (stop + 1)⟩

/-- The draft with the field that ends at an offset. -/
def Draft.fieldEnds (draft : Draft) (raw : Bytes) (first stop : Nat) : Option Draft :=
  match cut? raw first stop with
  | some text =>
      if text.isEmpty then none
      else (FieldTest.ofText? text).map fun field =>
        ⟨{ draft.directive with field := some field }, .fieldEnd⟩
  | none => none

/-- The draft after one more character, which stands at an offset. -/
def Draft.next? (raw : Bytes) (draft : Draft) (offset : Nat) (c : Char) : Option Draft :=
  match draft.part with
  | .start =>
      if c = '[' then some { draft with part := .span (offset + 1) }
      else if startsWord c then some { draft with part := .word }
      else none
  | .word =>
      if c = '=' then draft.sourceEnds raw offset (.threshold (offset + 1))
      else if c = '[' then draft.sourceEnds raw offset (.span (offset + 1))
      else some draft
  | .span first =>
      if c = ']' then draft.spanEnds raw first offset
      else if c = '{' then draft.fieldBegins raw first offset
      else some draft
  | .field first => if c = '}' then draft.fieldEnds raw first offset else some draft
  | .fieldEnd => if c = ']' then some { draft with part := .spanEnd } else none
  | .spanEnd => if c = '=' then some { draft with part := .threshold (offset + 1) } else none
  | .threshold _ => some draft

/-- The draft after the characters from an offset on. -/
def Draft.read? (raw : Bytes) : (offset : Nat) -> List Char -> Draft -> Option Draft
  | _, [], draft => some draft
  | offset, c :: text, draft =>
      match draft.next? raw offset c with
      | some next => next.read? raw (offset + c.utf8Size) text
      | none => none

/-- The directive at the end of its text.  Without a threshold, or with an
empty one, everything is shown. -/
def Draft.finish? (raw : Bytes) (draft : Draft) : Option LogDirective :=
  match draft.part with
  | .word =>
      (cut? raw 0 raw.length).map fun text =>
        match threshold? text with
        | some threshold => { draft.directive with threshold := threshold }
        | none => { draft.directive with source := text }
  | .threshold first =>
      match cut? raw first raw.length with
      | some text =>
          if text.isEmpty then some draft.directive
          else (threshold? text).map fun threshold =>
            { draft.directive with threshold := threshold }
      | none => none
  | .spanEnd => some draft.directive
  | _ => none

def ofText? (text : String) : Option LogDirective :=
  let raw := Utf8.encode text
  (Draft.read? raw 0 (Blank.trim text.toList) ⟨everything, .start⟩).bind fun draft =>
    draft.finish? raw

/-- Does a directive decide about an event?  The event's source has to begin
with the directive's, and its fields have to include the one that is named.
No event lies in a span, so a directive for a span decides nothing, and one for
the value of a field is for spans as well. -/
def covers (directive : LogDirective) (event : LogEvent) : Bool :=
  directive.span.isNone && List.isPrefixOf directive.source.toList event.source.toList &&
    match directive.field with
    | some field => field.value.isNone && event.fieldNames.contains field.name
    | none => true

def fieldName? (directive : LogDirective) : Option String :=
  directive.field.map FieldTest.name

/-- Does a directive say at least as much as another?  The longer source says
more, then having a field, then the later field name. -/
def saysAsMuchAs (directive other : LogDirective) : Bool :=
  if directive.source.length = other.source.length then
    match directive.fieldName?, other.fieldName? with
    | _, none => true
    | none, some _ => false
    | some name, some otherName => decide (otherName ≤ name)
  else decide (other.source.length < directive.source.length)

end LogDirective
end ProcInspection
