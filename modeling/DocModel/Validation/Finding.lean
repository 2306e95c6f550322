import DocModel.Source.Position
import DocModel.Text.Basic

/-!
# DocModel.Validation.Finding

Something that is wrong with a model, with its place in the document.

One finding is special: that nothing is defined at all. It tells a document that is still empty
from one that is wrong.
-/

namespace DocModel

open Text

/-- The words for a place: its line and its first column. -/
def SourcePosition.phrase (p : SourcePosition) : String :=
  "Line " ++ natText p.line ++ ", Column " ++ natText p.column.start

namespace Validation

/-- What a finding is about. -/
inductive FindingKind where
  | nameError
  /-- The types of an attribute. -/
  | typeError
  /-- A name that occurs more than once. -/
  | duplicateError
  /-- A definition or the model as a whole. -/
  | globalError
  | xmlError
  /-- A term of a vocabulary. -/
  | termError
  /-- Something that cannot be read. -/
  | parseError
  deriving DecidableEq, Repr

namespace FindingKind

def all : List FindingKind :=
  [nameError, typeError, duplicateError, globalError, xmlError, termError, parseError]

def name : FindingKind → String
  | nameError => "NameError"
  | typeError => "TypeError"
  | duplicateError => "DuplicateError"
  | globalError => "GlobalError"
  | xmlError => "XMLError"
  | termError => "TermError"
  | parseError => "ParseError"

def ofName? (tag : String) : Option FindingKind := all.find? (·.name == tag)

end FindingKind

/-- Something that is wrong. -/
structure Finding where
  kind : FindingKind
  message : String
  definition : Option String := none
  property : Option String := none
  /-- The places; none if it is about the document as a whole. -/
  positions : List SourcePosition := []
  deriving DecidableEq

/-- What is said of a document that defines nothing. -/
def emptyMessage : String := "This model has no definitions."

namespace Finding

/-- A finding about the document as a whole. -/
def global (message : String) : Finding := { kind := .globalError, message }

def emptyDocument : Finding := global emptyMessage

/-- The words for the first place; empty for the document as a whole. -/
def location (f : Finding) : String :=
  match f.positions with
  | p :: _ => p.phrase
  | [] => ""

/-- The line of the first place; zero for the document as a whole. -/
def line (f : Finding) : Nat :=
  match f.positions with
  | p :: _ => p.line
  | [] => 0

/-- Whether a finding says that nothing is defined. -/
def isEmptyDocument (f : Finding) : Bool := f.kind == .globalError && f.message == emptyMessage

def display (f : Finding) : String :=
  let place := if f.location.isEmpty then "" else f.location ++ ": "
  "[" ++ f.kind.name ++ "] " ++ place ++ f.message

end Finding
end Validation
end DocModel
