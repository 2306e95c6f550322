import DocModel.Text.Basic

/-!
# DocModel.CommandLine.Parameter

Parameters for templates among the arguments of the program: after `--extra-` comes the name of a
parameter. The next argument is its value, unless it starts with a hyphen; then the value is `true`.
-/

namespace DocModel
namespace CommandLine

open Text

/-- The arguments of the program in two parts. -/
structure Separated where
  /-- The arguments that are no parameters, in order. -/
  kept : List String := []
  /-- The parameters with their values, in order. -/
  parameters : List (String × String) := []
  deriving DecidableEq, Repr

/-- What stands before the name of a parameter. -/
def parameterMark : String := "--extra-"

def parameterName? (argument : String) : Option String :=
  (dropPrefix? parameterMark.toList argument.toList).map String.ofList

def startsWithHyphen (argument : String) : Bool := argument.toList.head? == some '-'

/-- The value of a parameter without one. -/
def impliedValue : String := "true"

/-- The parts with one more argument in front. -/
def Separated.keep (s : Separated) (argument : String) : Separated :=
  { s with kept := argument :: s.kept }

/-- The parts with one more parameter in front. -/
def Separated.give (s : Separated) (name value : String) : Separated :=
  { s with parameters := (name, value) :: s.parameters }

/-- The arguments of the program, taken apart. -/
def separate : List String → Separated
  | [] => {}
  | argument :: rest =>
    match parameterName? argument with
    | none => (separate rest).keep argument
    | some name =>
      match rest with
      | [] => (separate []).give name impliedValue
      | next :: more =>
        if startsWithHyphen next then (separate (next :: more)).give name impliedValue
        else (separate more).give name next

end CommandLine
end DocModel
