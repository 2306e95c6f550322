import DocModel.Target.TypeScript.Declaration

/-!
# DocModel.Target.TypeScript.Zod

Schemas of zod beside the static types. The schema of an object is lazy, so that the order of the
definitions does not matter.
-/

namespace DocModel
namespace Target.TypeScript.Zod

open Text

/-- The schema for a primitive type. -/
def primitiveSchema : Primitive → String
  | .string | .identifier | .bytes => "z.string()"
  | .integer => "z.number().int()"
  | .float | .number => "z.number()"
  | .boolean => "z.boolean()"
  | .date => "z.string().date()"
  | .dateTime => "z.string().datetime()"

def enumerationSchema (e : Enumeration) : String :=
  let values := literals e
  if values.isEmpty then "z.never()" else "z.enum([" ++ String.intercalate ", " values ++ "])"

def valueSchema (m : DataModel) (a : Attribute) : String :=
  match a.dtypes.map (m.typeName primitiveSchema (· ++ "Schema")) with
  | [] => "z.unknown()"
  | [schema] => schema
  | schemas => "z.union([" ++ String.intercalate ", " schemas ++ "])"

def attributeSchema (m : DataModel) (a : Attribute) : String :=
  let value := valueSchema m a
  (if a.multiple then "z.array(" ++ value ++ ")" else value)
    ++ (if a.docstring.isEmpty then "" else ".describe(" ++ quoted a.docstring ++ ")")
    ++ if a.isRequired then "" else ".optional()"

def objectSchema (m : DataModel) (o : Object) : String :=
  "z.lazy(() =>\n"
    ++ unlines
      ("  z.object(\x7b" ::
        (o.attributes.map fun a => "    " ++ a.name ++ ": " ++ attributeSchema m a ++ ",")
        ++ ["  \x7d)"])
    ++ ")"

def renderObject (m : DataModel) (o : Object) : String :=
  renderInterface m o ++ "\n" ++ renderChecker o.name "Schema" "z.ZodType" (objectSchema m o)

def renderEnumeration (e : Enumeration) : String :=
  renderLiterals e ++ renderChecker e.name "Schema" "z.ZodType" (enumerationSchema e)

def render (m : DataModel) : String :=
  withDefinitions "import \x7b z \x7d from \"zod\";\n"
    (m.enums.map renderEnumeration ++ m.objects.map (renderObject m))

end Target.TypeScript.Zod
end DocModel
