import DocModel.Dialect.Reading
import DocModel.Target.Registry
import DocModel.Validation.Report

/-!
# DocModel.Conversion

A document as text in another format. Only a document without findings is converted.
-/

namespace DocModel

/-- The model of a document without findings. -/
def validModel (source : String) : Except ConversionError DataModel :=
  match Dialect.parse source with
  | .error e => .error (.parse e)
  | .ok reading =>
    let report := Validation.reportOf reading
    if report.isValid then .ok reading.model else .error (.invalidModel report.findings)

/-- A document in a format, with parameters. -/
def convert (source : String) (target : Target) (options : Options) :
    Except ConversionError String := do
  Registry.complete.render target.name options (← validModel source)

/-- The JSON Schema of a document for a request. -/
def jsonSchema (source : String) (request : Target.JsonSchema.Request) :
    Except ConversionError String := do
  Target.JsonSchema.renderRequest (← validModel source) request

end DocModel
