import DocModel.Model.Codec
import DocModel.Validation.Report

/-!
# DocModel.Validation.Codec

Findings and reports as JSON values.
-/

namespace DocModel
namespace Validation

/-- A finding as a JSON value. -/
def Finding.toJson (f : Finding) : Json :=
  .object [("attribute", .optional f.property), ("error_type", .string f.kind.name),
    ("location", .string f.location), ("message", .string f.message),
    ("object", .optional f.definition), ("positions", .array (f.positions.map (·.toJson)))]

/-- A report as a JSON value. -/
def Report.toJson (r : Report) : Json :=
  .object [("is_valid", .bool r.isValid), ("errors", .array (r.findings.map (·.toJson)))]

end Validation
end DocModel
