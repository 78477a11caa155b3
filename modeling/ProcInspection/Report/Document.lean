import ProcInspection.Inspection

namespace ProcInspection
namespace Report

/-!
The report as a document.

A section that is absent leaves no field, which tells it apart from a section
that is there and empty.  The failures come last, and only if there are any.
-/

def failuresJson (failures : SectionFailures) : Option Json :=
  match failures.toList with
  | [] => none
  | failed => some (.object (failed.map fun entry => (entry.1.name, entry.2.json)))

def json (report : Report) : Json :=
  .object (
    [("pid", .number report.pid.number.toNat), ("status", report.status.json)]
      ++ Json.optionalField "fds"
        (report.descriptors.map fun descriptors => .list (descriptors.map Descriptor.json))
      ++ Json.optionalField "threads"
        (report.threads.map fun threads => .list (threads.map Thread.json))
      ++ Json.optionalField "sockets"
        (report.sockets.map fun sockets => .list (sockets.map Connection.json))
      ++ Json.optionalField "errors" (failuresJson report.failures))

end Report
end ProcInspection
