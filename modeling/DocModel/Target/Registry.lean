import DocModel.Files.Path
import DocModel.Target.Catalog
import DocModel.Text.Dictionary

/-!
# DocModel.Target.Registry

Templates by the names of their formats. A format has at most one template: the one registered last.
-/

namespace DocModel

/-- Templates by name. -/
structure Registry where
  /-- The templates with the names of their formats. -/
  entries : List (String × Template) := []
  ascending : Ascending entries := by exact List.Pairwise.nil
  /-- Every template stands under the name of its format. -/
  named : ∀ entry ∈ entries, entry.1 = entry.2.target.name := by simp

namespace Registry

def empty : Registry := {}

/-- The registry with one more template; one for the same format is replaced. -/
def register (r : Registry) (t : Template) : Registry where
  entries := insertEntry t.target.name t r.entries
  ascending := r.ascending.insertEntry t.target.name t
  named := by
    intro entry mem
    rcases mem_insertEntry mem with rfl | mem
    · rfl
    · exact r.named entry mem

def complete : Registry := Target.all.foldl (fun r target => r.register target.template) empty

def get? (r : Registry) (name : String) : Option Template := r.entries.lookup name

/-- The template of a name, or the error that there is none. -/
def get (r : Registry) (name : String) : Except ConversionError Template :=
  match r.get? name with
  | some t => .ok t
  | none => .error (.templateNotFound name)

/-- Whether a name has a template. -/
def has (r : Registry) (name : String) : Bool := (r.get? name).isSome

def names (r : Registry) : List String := r.entries.map (·.1)

/-- The first format, in the order of all formats, whose template writes files like this one. -/
def detect? (r : Registry) (fileName : String) : Option Target :=
  match Path.extension? fileName with
  | none => none
  | some extension =>
    Target.all.find? fun target =>
      match r.get? target.name with
      | some t => t.extension == extension
      | none => false

/-- A model rendered with parameters by the template of a name. -/
def render (r : Registry) (name : String) (options : Options) (m : DataModel) :
    Except ConversionError String := do
  (← r.get name).render options m

end Registry
end DocModel
