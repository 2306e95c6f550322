import DocModel.Validation.Rules

/-!
# DocModel.Validation.Report

All findings about a document, in the order of their lines; findings of one line keep the order of
the rules. A document without definitions has exactly one finding, that it is empty.
-/

namespace DocModel
namespace Validation

/-- The findings about a document. -/
structure Report where
  /-- The findings in the order of their lines. -/
  findings : List Finding

namespace Report

/-- The report of findings in any order. -/
def ofFindings (findings : List Finding) : Report :=
  { findings := findings.mergeSort fun a b => a.line ≤ b.line }

/-- Whether there is nothing to report. -/
def isValid (r : Report) : Bool := r.findings.isEmpty

/-- Whether the only finding is that the document is empty. -/
def isEmptyDocument (r : Report) : Bool :=
  match r.findings with
  | [f] => f.isEmptyDocument
  | _ => false

/-- The report without the finding that the document is empty. -/
def withoutEmptyNotice (r : Report) : Report :=
  ofFindings (r.findings.filter (!·.isEmptyDocument))

end Report

/-- Everything that is wrong with a model that is not empty. -/
def allFindings (reading : Dialect.Reading) : List Finding :=
  let m := reading.model
  diagnosticRule reading.diagnostics ++ duplicateRule m ++ nameRule m ++ typeRule m ++ termRule m
    ++ xmlRule m ++ enumerationRule m

/-- The report about a document that has been read. -/
def reportOf (reading : Dialect.Reading) : Report :=
  if reading.model.isEmpty && reading.diagnostics.isEmpty then
    .ofFindings [Finding.emptyDocument]
  else .ofFindings (allFindings reading)

/-- That a document cannot be read. -/
def parseFinding (source : String) (error : Dialect.FrontMatterError) : Finding :=
  { kind := .parseError, message := error.message
    positions := [(LineTable.ofSource source.toList).positionOf error.line] }

def validate (source : String) : Report :=
  match Dialect.parse source with
  | .ok reading => reportOf reading
  | .error error => .ofFindings [parseFinding source error]

end Validation
end DocModel
