import ProcInspection.Log.Level
import ProcInspection.Path
import ProcInspection.Report.Format

namespace ProcInspection
namespace CommandLine

/-!
The arguments of the command.

Arguments are read from left to right, and the first that is wrong or asks for
help decides.  Short options may stand together, a value may be attached or
follow as the next argument, and two dashes end the options.  A value that
follows may not itself look like an option.  No option is given twice.
-/

/-- What an inspection is asked for. -/
structure Request where
  pid : String
  verbose : Bool
  network : Bool
  quiet : Bool
  format : OutputFormat
  procRoot : Option Path
  logFormat : Option LogFormat
  deriving DecidableEq

inductive Invocation where
  | inspect (request : Request)
  | shortHelp
  | longHelp
  | version
  deriving DecidableEq

inductive UsageError where
  | missingPid
  | secondPid
  | pidNotText
  | unknownOption
  | repeatedOption
  | missingValue
  | invalidValue
  | unexpectedValue
  deriving DecidableEq

/-- What is wrong with the arguments, in a few words. -/
def UsageError.message : UsageError -> String
  | .missingPid => "a process ID is required"
  | .secondPid => "there is more than one process ID"
  | .pidNotText => "the process ID is not text"
  | .unknownOption => "there is no such option"
  | .repeatedOption => "an option is given twice"
  | .missingValue => "an option lacks its value"
  | .invalidValue => "an option has a value it does not take"
  | .unexpectedValue => "an option has a value and takes none"

inductive Flag where
  | verbose
  | network
  | quiet
  deriving DecidableEq

inductive Valued where
  | format
  | procRoot
  | logFormat
  deriving DecidableEq

inductive OptionName where
  | flag (flag : Flag)
  | valued (valued : Valued)
  | help
  | version
  deriving DecidableEq

namespace OptionName

def longNames : List (String × OptionName) :=
  [("verbose", .flag .verbose), ("network", .flag .network), ("quiet", .flag .quiet),
    ("format", .valued .format), ("proc-root", .valued .procRoot),
    ("log-format", .valued .logFormat), ("help", .help), ("version", .version)]

def shortNames : List (Char × OptionName) :=
  [('v', .flag .verbose), ('n', .flag .network), ('q', .flag .quiet),
    ('f', .valued .format), ('h', .help), ('V', .version)]

def ofLong? (name : Bytes) : Option OptionName :=
  (longNames.find? fun entry => Utf8.encode entry.1 = name).map Prod.snd

/-- Every short name is one ASCII character, so it is one byte. -/
def ofShort? (byte : UInt8) : Option OptionName :=
  shortNames.lookup (Char.ofNat byte.toNat)

end OptionName

/-- What the arguments read so far have said. -/
structure Draft where
  pid : Option String
  verbose : Bool
  network : Bool
  quiet : Bool
  format : Option OutputFormat
  procRoot : Option Path
  logFormat : Option LogFormat

namespace Draft

def blank : Draft :=
  ⟨none, false, false, false, none, none, none⟩

def setPid (draft : Draft) (value : Bytes) : Except UsageError Draft :=
  match draft.pid, Utf8.decode? value with
  | some _, _ => .error .secondPid
  | none, some text => .ok { draft with pid := some text }
  | none, none => .error .pidNotText

def setFlag (draft : Draft) : Flag -> Except UsageError Draft
  | .verbose =>
      if draft.verbose then .error .repeatedOption else .ok { draft with verbose := true }
  | .network =>
      if draft.network then .error .repeatedOption else .ok { draft with network := true }
  | .quiet =>
      if draft.quiet then .error .repeatedOption else .ok { draft with quiet := true }

def setFormat (draft : Draft) (value : Bytes) : Except UsageError Draft :=
  match draft.format, Choice.ofBytes? OutputFormat.name OutputFormat.all value with
  | some _, _ => .error .repeatedOption
  | none, some format => .ok { draft with format := some format }
  | none, none => .error .invalidValue

def setProcRoot (draft : Draft) (value : Bytes) : Except UsageError Draft :=
  match draft.procRoot with
  | some _ => .error .repeatedOption
  | none =>
      if value.isEmpty then .error .invalidValue
      else .ok { draft with procRoot := some ⟨value⟩ }

def setLogFormat (draft : Draft) (value : Bytes) : Except UsageError Draft :=
  match draft.logFormat, Choice.ofBytes? LogFormat.name LogFormat.all value with
  | some _, _ => .error .repeatedOption
  | none, some format => .ok { draft with logFormat := some format }
  | none, none => .error .invalidValue

def setValue (draft : Draft) : Valued -> Bytes -> Except UsageError Draft
  | .format => draft.setFormat
  | .procRoot => draft.setProcRoot
  | .logFormat => draft.setLogFormat

def finish (draft : Draft) : Except UsageError Invocation :=
  match draft.pid with
  | some pid =>
      .ok (.inspect
        { pid := pid
          verbose := draft.verbose
          network := draft.network
          quiet := draft.quiet
          format := draft.format.getD .human
          procRoot := draft.procRoot
          logFormat := draft.logFormat })
  | none => .error .missingPid

end Draft

/-- The shape of an argument. -/
inductive Shape where
  | endOfOptions
  | long (name : Bytes) (value : Option Bytes)
  | short (cluster : Bytes)
  | plain

def dash : UInt8 := 0x2D

def equals : UInt8 := 0x3D

/-- Split a long option at its first equals sign. -/
def splitLong (text : Bytes) : Shape :=
  match text.dropWhile fun byte => byte ≠ equals with
  | _ :: value => .long (text.takeWhile fun byte => byte ≠ equals) (some value)
  | [] => .long text none

/-- A single dash is a plain argument. -/
def shapeOf (argument : Bytes) : Shape :=
  match argument with
  | [] => .plain
  | first :: rest =>
      if first ≠ dash then .plain
      else
        match rest with
        | [] => .plain
        | second :: name =>
            if second ≠ dash then .short rest
            else if name.isEmpty then .endOfOptions
            else splitLong name

/-- Can an argument be the value of the option before it? -/
def isPlain (argument : Bytes) : Bool :=
  match shapeOf argument with
  | .plain => true
  | _ => false

/-- How far a cluster of short options brings the reading. -/
inductive ClusterEnd where
  | complete (draft : Draft)
  | awaiting (draft : Draft) (valued : Valued)
  | answer (invocation : Invocation)

/-- Read a cluster of short options.  What follows an option with a value is
its value, after an equals sign that may stand between. -/
def readCluster (draft : Draft) : Bytes -> Except UsageError ClusterEnd
  | [] => .ok (.complete draft)
  | byte :: rest =>
      match OptionName.ofShort? byte with
      | none => .error .unknownOption
      | some .help => .ok (.answer .shortHelp)
      | some .version => .ok (.answer .version)
      | some (.flag flag) =>
          match draft.setFlag flag with
          | .ok next => readCluster next rest
          | .error problem => .error problem
      | some (.valued valued) =>
          match rest with
          | [] => .ok (.awaiting draft valued)
          | next :: attached =>
              (draft.setValue valued (if next = equals then attached else next :: attached)).map
                ClusterEnd.complete

/-- Read arguments after the end of the options. -/
def readPlain (draft : Draft) : List Bytes -> Except UsageError Invocation
  | [] => draft.finish
  | argument :: arguments =>
      match draft.setPid argument with
      | .ok next => readPlain next arguments
      | .error problem => .error problem

def readFrom (draft : Draft) : List Bytes -> Except UsageError Invocation
  | [] => draft.finish
  | argument :: arguments =>
      match shapeOf argument with
      | .endOfOptions => readPlain draft arguments
      | .plain =>
          match draft.setPid argument with
          | .ok next => readFrom next arguments
          | .error problem => .error problem
      | .long name attached =>
          match OptionName.ofLong? name, attached with
          | none, _ => .error .unknownOption
          | some .help, none => .ok .longHelp
          | some .version, none => .ok .version
          | some (.flag flag), none =>
              match draft.setFlag flag with
              | .ok next => readFrom next arguments
              | .error problem => .error problem
          | some (.valued valued), some value =>
              match draft.setValue valued value with
              | .ok next => readFrom next arguments
              | .error problem => .error problem
          | some (.valued valued), none =>
              match arguments with
              | [] => .error .missingValue
              | value :: others =>
                  if isPlain value then
                    match draft.setValue valued value with
                    | .ok next => readFrom next others
                    | .error problem => .error problem
                  else .error .missingValue
          | some _, some _ => .error .unexpectedValue
      | .short cluster =>
          match readCluster draft cluster with
          | .ok (.complete next) => readFrom next arguments
          | .ok (.answer invocation) => .ok invocation
          | .ok (.awaiting next valued) =>
              match arguments with
              | [] => .error .missingValue
              | value :: others =>
                  if isPlain value then
                    match next.setValue valued value with
                    | .ok filled => readFrom filled others
                    | .error problem => .error problem
                  else .error .missingValue
          | .error problem => .error problem

def parse (arguments : List Bytes) : Except UsageError Invocation :=
  readFrom .blank arguments

end CommandLine
end ProcInspection
