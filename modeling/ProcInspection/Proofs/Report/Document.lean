import ProcInspection.Proofs.Connection.RoundTrip
import ProcInspection.Proofs.Json.Indented
import ProcInspection.Proofs.Json.Reader
import ProcInspection.Proofs.Report.Write

namespace ProcInspection

/-!
The document of a report holds all of the report.

Each record is read back from its fields, and the report from its sections: a
section without a field is one that is absent, whereas an empty one has a field
without items.  The text of the document has no other reading, so two reports
that are written alike are the same.
-/

namespace Address

def octet? (digits : List Char) : Option UInt8 :=
  (Decimal.below? UInt8.size digits).map UInt8.ofNat

/-- Four octets in decimal with dots between them. -/
def ofJson? (document : Json) : Option Address := do
  let text ← document.text?
  match text.toList.splitOnP fun c => c == '.' with
  | [first, second, third, fourth] =>
      return ⟨← octet? first, ← octet? second, ← octet? third, ← octet? fourth⟩
  | _ => none

theorem octet?_digits (octet : UInt8) : octet? (Decimal.digits octet.toNat) = some octet := by
  have read : Decimal.below? UInt8.size (Decimal.digits octet.toNat) = some octet.toNat :=
    (Decimal.below?_eq_some_iff _ _ _).mpr ⟨Decimal.denotes_digits octet.toNat, octet.toNat_lt⟩
  rw [octet?, read, Option.map_some, UInt8.ofNat_toNat]

theorem splitOnP_dotted (address : Address) :
    (address.dotted.splitOnP fun c => c == '.') =
      [Decimal.digits address.first.toNat, Decimal.digits address.second.toNat,
        Decimal.digits address.third.toNat, Decimal.digits address.fourth.toNat] := by
  have clean : forall value : Nat, forall c, c ∈ Decimal.digits value -> (c == '.') = false := by
    intro value c member
    apply beq_eq_false_iff_ne.mpr
    rintro rfl
    exact Decimal.not_mem_digits rfl value member
  have dot : ('.' == '.') = true := rfl
  rw [dotted, List.append_assoc, List.append_assoc, List.cons_append, List.cons_append,
    List.splitOnP_append_cons_of_forall_mem (clean _) '.' dot,
    List.splitOnP_append_cons_of_forall_mem (clean _) '.' dot,
    List.splitOnP_append_cons_of_forall_mem (clean _) '.' dot,
    List.splitOnP_eq_singleton (clean _)]

theorem recovers : Json.Recovers (fun address : Address => .text address.text) ofJson? := by
  intro address
  simp [ofJson?, Json.text?, text, splitOnP_dotted, octet?_digits]

end Address

/-! ## Choices -/

theorem RunState.recovers :
    Json.Recovers (fun state : RunState => .text state.name) (Json.choice? name all) :=
  Json.choice?_recovers (by decide) fun state => by cases state <;> decide

theorem DescriptorKind.recovers :
    Json.Recovers (fun kind : DescriptorKind => .text kind.name) (Json.choice? name all) :=
  Json.choice?_recovers (by decide) fun kind => by cases kind <;> decide

theorem Protocol.recovers :
    Json.Recovers (fun protocol : Protocol => .text protocol.name) (Json.choice? name all) :=
  Json.choice?_recovers (by decide) fun protocol => by cases protocol <;> decide

theorem ConnectionState.recovers :
    Json.Recovers (fun state : ConnectionState => .text state.text) (Json.choice? text all) :=
  Json.choice?_recovers (by decide) fun state => by cases state <;> decide

/-! ## Records -/

namespace Status

def ofJson? (document : Json) : Option Status := do
  return {
    pid := ⟨← document.field? "pid" Json.word32?⟩
    name := ← document.field? "name" Json.text?
    state := ← document.field? "state" (Json.choice? RunState.name RunState.all)
    realUser := ← document.field? "uid_real" Json.word32?
    effectiveUser := ← document.field? "uid_effective" Json.word32?
    realGroup := ← document.field? "gid_real" Json.word32?
    effectiveGroup := ← document.field? "gid_effective" Json.word32?
    virtualSize := ← document.field? "vm_size_kb" Json.word64?
    residentSize := ← document.field? "vm_rss_kb" Json.word64?
    peakSize := ← document.field? "vm_peak_kb" Json.word64?
    threadCount := ← document.field? "thread_count" Json.word32? }

theorem recovers : Json.Recovers json ofJson? := by
  intro status
  simp [ofJson?, json, Json.field?, List.lookup_cons, RunState.recovers status.state]

end Status

namespace Descriptor

def ofJson? (document : Json) : Option Descriptor := do
  return {
    number := ← document.field? "fd" Json.word32?
    target := ← document.field? "target" Json.text?
    kind := ← document.field? "kind" (Json.choice? DescriptorKind.name DescriptorKind.all)
    inode := ← document.optional? "socket_inode" Json.word64? }

theorem recovers : Json.Recovers json ofJson? := by
  intro descriptor
  have inode : descriptor.json.optional? "socket_inode" Json.word64? = some descriptor.inode := by
    apply Json.optional?_recovers Json.word64?_recovers
    simp [json, List.lookup_cons, Json.lookup_optionalField]
  rw [ofJson?, inode]
  simp [json, Json.field?, List.lookup_cons, DescriptorKind.recovers descriptor.kind]

end Descriptor

namespace Thread

def ofJson? (document : Json) : Option Thread := do
  return {
    tid := ⟨← document.field? "tid" Json.word32?⟩
    name := ← document.field? "name" Json.text?
    state := ← document.field? "state" (Json.choice? RunState.name RunState.all) }

theorem recovers : Json.Recovers json ofJson? := by
  intro thread
  simp [ofJson?, json, Json.field?, List.lookup_cons, RunState.recovers thread.state]

end Thread

namespace Connection

def ofJson? (document : Json) : Option Connection := do
  return {
    protocol := ← document.field? "protocol" (Json.choice? Protocol.name Protocol.all)
    localEnd := {
      address := ← document.field? "local_addr" Address.ofJson?
      port := ← document.field? "local_port" Json.word16? }
    remoteEnd := {
      address := ← document.field? "remote_addr" Address.ofJson?
      port := ← document.field? "remote_port" Json.word16? }
    state := ← document.field? "state" (Json.choice? ConnectionState.text ConnectionState.all)
    owner := ← document.field? "uid" Json.word32?
    inode := ← document.field? "inode" Json.word64? }

theorem recovers : Json.Recovers json ofJson? := by
  intro connection
  simp [ofJson?, json, Json.field?, List.lookup_cons,
    Address.recovers connection.localEnd.address, Address.recovers connection.remoteEnd.address,
    Protocol.recovers connection.protocol, ConnectionState.recovers connection.state]

end Connection

namespace FailureCategory

def all : List FailureCategory :=
  [.arguments, .notFound, .permissionDenied, .resourceExhausted, .malformedInput, .io]

theorem recovers :
    Json.Recovers (fun category : FailureCategory => .text category.name) (Json.choice? name all) :=
  Json.choice?_recovers (by decide) fun category => by cases category <;> decide

end FailureCategory

namespace FailureContext

/-- A process number, or the text of a path. -/
def ofJson? (document : Json) : Option FailureContext :=
  match document.field? "pid" Json.word32? with
  | some number => some (.pid number)
  | none => (document.field? "path" Json.text?).map .path

theorem recovers : Json.Recovers json ofJson? := by
  intro context
  cases context with
  | pid number => simp [ofJson?, json, Json.field?]
  | path text => simp [ofJson?, json, Json.field?, List.lookup_cons]

end FailureContext

namespace FailureReport

def ofJson? (document : Json) : Option FailureReport := do
  return {
    code := ← document.field? "code" Json.number?
    category := ← document.field? "category" (Json.choice? FailureCategory.name FailureCategory.all)
    message := ← document.field? "message" Json.text?
    recoverable := ← document.field? "recoverable" Json.truth?
    context := ← document.optional? "context" FailureContext.ofJson? }

theorem recovers : Json.Recovers json ofJson? := by
  intro report
  have context : report.json.optional? "context" FailureContext.ofJson? = some report.context := by
    apply Json.optional?_recovers FailureContext.recovers
    simp [json, List.lookup_cons, Json.lookup_optionalField]
  rw [ofJson?, context]
  simp [json, Json.field?, List.lookup_cons, FailureCategory.recovers report.category]

end FailureReport

namespace SectionFailures

def ofJson? (document : Json) : Option SectionFailures := do
  return {
    descriptors := ← document.optional? ReportSection.descriptors.name FailureReport.ofJson?
    threads := ← document.optional? ReportSection.threads.name FailureReport.ofJson?
    sockets := ← document.optional? ReportSection.sockets.name FailureReport.ofJson? }

/-- Under the name of a section stands its failure, if it failed. -/
theorem lookup_toList (failures : SectionFailures) (reportSection : ReportSection) :
    (failures.toList.map fun entry => (entry.1.name, entry.2.json)).lookup reportSection.name =
      (failures.get reportSection).map FailureReport.json := by
  rcases failures with ⟨descriptors, threads, sockets⟩
  cases reportSection <;> cases descriptors <;> cases threads <;> cases sockets <;> rfl

theorem ofJson?_toList (failures : SectionFailures) :
    ofJson? (.object (failures.toList.map fun entry => (entry.1.name, entry.2.json))) =
      some failures := by
  have each (reportSection : ReportSection) :=
    Json.optional?_recovers FailureReport.recovers
      ((Json.find?_object _ _).trans (failures.lookup_toList reportSection))
  simp only [ofJson?, each]
  rfl

theorem eq_empty_of_toList {failures : SectionFailures} (clean : failures.toList = []) :
    failures = empty := by
  have get (reportSection : ReportSection) : failures.get reportSection = none := by
    have missing := failures.lookup_toList reportSection
    rw [clean] at missing
    exact Option.map_eq_none_iff.mp missing.symm
  rcases failures with ⟨descriptors, threads, sockets⟩
  exact congr (congr (congrArg SectionFailures.mk (get .descriptors)) (get .threads)) (get .sockets)

end SectionFailures

namespace Report

def ofJson? (document : Json) : Option Report := do
  return {
    pid := ⟨← document.field? "pid" Json.word32?⟩
    status := ← document.field? "status" Status.ofJson?
    descriptors := ← document.optional? "fds" (Json.list? Descriptor.ofJson?)
    threads := ← document.optional? "threads" (Json.list? Thread.ofJson?)
    sockets := ← document.optional? "sockets" (Json.list? Connection.ofJson?)
    failures := (← document.optional? "errors" SectionFailures.ofJson?).getD .empty }

/-- Failures are recovered from their object, and none from a missing one. -/
theorem optional?_failures (document : Json) (failures : SectionFailures)
    (found : document.find? "errors" = failuresJson failures) :
    (document.optional? "errors" SectionFailures.ofJson?).map (fun read => read.getD .empty) =
      some failures := by
  unfold failuresJson at found
  split at found
  · next clean => simp [Json.optional?, found, SectionFailures.eq_empty_of_toList clean]
  · simp [Json.optional?, found, SectionFailures.ofJson?_toList]

theorem recovers : Json.Recovers json ofJson? := by
  intro report
  have found (name : String) : report.json.find? name = _ := Json.find?_object name _
  have descriptors : report.json.optional? "fds" (Json.list? Descriptor.ofJson?) =
      some report.descriptors :=
    Json.optional?_recovers Descriptor.recovers.list
      (by simp [found, List.lookup_cons, List.lookup_append, Json.lookup_optionalField])
  have threads : report.json.optional? "threads" (Json.list? Thread.ofJson?) =
      some report.threads :=
    Json.optional?_recovers Thread.recovers.list
      (by simp [found, List.lookup_cons, List.lookup_append, Json.lookup_optionalField])
  have sockets : report.json.optional? "sockets" (Json.list? Connection.ofJson?) =
      some report.sockets :=
    Json.optional?_recovers Connection.recovers.list
      (by simp [found, List.lookup_cons, List.lookup_append, Json.lookup_optionalField])
  have failures := optional?_failures report.json report.failures
    (by simp [found, List.lookup_cons, List.lookup_append, Json.lookup_optionalField])
  rcases Option.map_eq_some_iff.mp failures with ⟨read, errors, same⟩
  rw [ofJson?, descriptors, threads, sockets, errors]
  simp [Json.field?, found, List.lookup_cons, same, Status.recovers report.status]

/-- The document on lines of its own. -/
def documentText (report : Report) : List Char :=
  Json.indented 0 report.json ++ ['\n']

theorem write_document (report : Report) (verbose : Bool) :
    report.write .unlimited .json verbose =
      (⟨Utf8.encodeChars report.documentText, none, false⟩, .ok ()) := by
  rw [write_unlimited, fullText, documentText, Utf8.encodeChars_append, Utf8.encode,
    Json.indentedText, String.toList_ofList]
  rfl

theorem reads_documentText_iff (report : Report) (document : Json) (rest : List Char) :
    Json.Reads .value document report.documentText rest <->
      document = report.json ∧ rest = ['\n'] := by
  have reads := Json.reads_indented 0 report.json (Json.endsNumber_cons rfl [] (c := '\n'))
  constructor
  · intro again
    exact again.unique reads
  · rintro ⟨rfl, rfl⟩
    exact reads

/-- Two reports with one text have one document, so they are the same. -/
theorem eq_of_documentText {report other : Report}
    (same : other.documentText = report.documentText) : other = report := by
  have reads := (other.reads_documentText_iff other.json ['\n']).mpr ⟨rfl, rfl⟩
  rw [same] at reads
  have document := ((report.reads_documentText_iff other.json ['\n']).mp reads).1
  apply Option.some.inj
  rw [← recovers other, document, recovers report]

/-- Nothing of a report is lost when it is written as a document: what is
written has one reading, the document up to the new line behind it, and all of
the report is recovered from that.  Hence no other report is written so. -/
theorem json_lossless (report : Report) (verbose : Bool) :
    Exists fun written : List Char =>
      report.write .unlimited .json verbose =
        (⟨Utf8.encodeChars written, none, false⟩, .ok ()) ∧
      (forall (document : Json) (rest : List Char), Json.Reads .value document written rest <->
        document = report.json ∧ rest = ['\n']) ∧
      ofJson? report.json = some report ∧
      forall (other : Report) (otherVerbose : Bool),
        other.write .unlimited .json otherVerbose = report.write .unlimited .json verbose ->
          other = report := by
  refine ⟨report.documentText, report.write_document verbose, report.reads_documentText_iff,
    recovers report, ?_⟩
  intro other otherVerbose same
  rw [write_document, write_document] at same
  have bytes := congrArg (fun result => result.1.written) same
  exact eq_of_documentText (Utf8.encodeChars_injective bytes)

end Report
end ProcInspection
