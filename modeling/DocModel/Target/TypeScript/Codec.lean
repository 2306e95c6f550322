import DocModel.Target.TypeScript.Declaration

/-!
# DocModel.Target.TypeScript.Codec

Codecs of io-ts beside the static types. The codec of an object is lazy, so that the order of the
definitions does not matter.
-/

namespace DocModel
namespace Target.TypeScript.Codec

open Text

/-- A union of codecs, which one codec is by itself. -/
def union : List String → String
  | [codec] => codec
  | codecs => "t.union([" ++ String.intercalate ", " codecs ++ "])"

def enumerationCodec (e : Enumeration) : String :=
  let codecs := (literals e).map fun value => "t.literal(" ++ value ++ ")"
  if codecs.isEmpty then "t.never" else union codecs

def attributeCodec (m : DataModel) (a : Attribute) : String :=
  let codecs := unique (a.dtypes.map (m.typeName (fun p => "t." ++ primitiveType p) (· ++ "Codec")))
  let value := if codecs.isEmpty then "t.unknown" else union codecs
  if a.multiple then "t.array(" ++ value ++ ")" else value

/-- The part of a codec with these attributes. -/
def partLines (m : DataModel) (constructor : String) (as : List Attribute) : List String :=
  if as.isEmpty then ["    " ++ constructor ++ "(\x7b\x7d),"]
  else
    ("    " ++ constructor ++ "(\x7b") ::
      (as.map fun a => "      " ++ a.name ++ ": " ++ attributeCodec m a ++ ",") ++ ["    \x7d),"]

/-- The codec of an object: what is never missing, then what may be. -/
def objectCodec (m : DataModel) (o : Object) : String :=
  "t.recursion(\"" ++ o.name ++ "\", () =>\n"
    ++ unlines
      ("  t.intersection([" ::
        (partLines m "t.type" (o.attributes.filter (·.isRequired))
          ++ partLines m "t.partial" (o.attributes.filter (!·.isRequired)) ++ ["  ])"]))
    ++ ")"

def renderObject (m : DataModel) (o : Object) : String :=
  renderInterface m o ++ "\n" ++ renderChecker o.name "Codec" "t.Type" (objectCodec m o)

def renderEnumeration (e : Enumeration) : String :=
  renderLiterals e ++ renderChecker e.name "Codec" "t.Type" (enumerationCodec e)

def render (m : DataModel) : String :=
  withDefinitions "import * as t from \"io-ts\";\n"
    (m.enums.map renderEnumeration ++ m.objects.map (renderObject m))

end Target.TypeScript.Codec
end DocModel
