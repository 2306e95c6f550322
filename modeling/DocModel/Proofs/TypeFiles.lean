import DocModel.Target.Golang
import DocModel.Target.Protobuf
import DocModel.Target.Rust

/-!
# DocModel.Proofs.TypeFiles

The files of the formats that define a type for every object and every enumeration, as trees of
what they define. How a tree is printed is spelled out here, down to the places where the names and
the types of fields and members stand. Printing the tree of a model gives the text of the format
(`printFile_file`), so that what is shown of names and types in the tree holds of the names and
types in the text.
-/

namespace DocModel
namespace Target

open Text

/-- A definition in a file: a type with fields, or a type with members. -/
inductive Definition (Field Member : Type) where
  | record (docstring name : String) (fields : List Field)
  | enumeration (docstring name : String) (members : List Member)

def Definition.name {Field Member : Type} : Definition Field Member → String
  | record _ name _ => name
  | enumeration _ name _ => name

/-- The fields of a type that has some. -/
def Definition.fields? {Field Member : Type} : Definition Field Member → Option (List Field)
  | record _ _ fields => some fields
  | enumeration _ _ _ => none

/-- The members of a type that has some. -/
def Definition.members? {Field Member : Type} : Definition Field Member → Option (List Member)
  | record _ _ _ => none
  | enumeration _ _ members => some members

/-- A file: what stands at its head, and what it defines. -/
structure TypeFile (Head Field Member : Type) where
  /-- What stands at its head. -/
  head : Head
  definitions : List (Definition Field Member)

namespace TypeFile

variable {Head Field Member : Type}

/-- A file as it is printed: an empty line stands before every definition. -/
def print (head : Head → String) (definition : Definition Field Member → String)
    (f : TypeFile Head Field Member) : String :=
  head f.head ++ String.join (f.definitions.map fun d => "\n" ++ definition d)

def typeNames (f : TypeFile Head Field Member) : List String := f.definitions.map (·.name)

/-- The fields of its types, one list for each type that has some. -/
def fieldLists (f : TypeFile Head Field Member) : List (List Field) :=
  f.definitions.filterMap (·.fields?)

/-- The members of its types, one list for each type that has some. -/
def memberLists (f : TypeFile Head Field Member) : List (List Member) :=
  f.definitions.filterMap (·.members?)

/-- The file for a model: its objects, then its enumerations. -/
def ofModel (head : Head) (m : DataModel) (fields : Object → List Field)
    (members : Enumeration → List Member) : TypeFile Head Field Member where
  head := head
  definitions :=
    m.objects.map (fun o => .record o.docstring (pascalCase o.name) (fields o))
      ++ m.enums.map fun e => .enumeration e.docstring (pascalCase e.name) (members e)

variable (head : Head) (m : DataModel) (fields : Object → List Field)
  (members : Enumeration → List Member)

theorem typeNames_ofModel :
    (ofModel head m fields members).typeNames = m.typeNames.map pascalCase := by
  rw [typeNames, ofModel, List.map_append, List.map_map, List.map_map, DataModel.typeNames,
    List.map_append, List.map_map, List.map_map]
  rfl

theorem fieldLists_ofModel :
    (ofModel head m fields members).fieldLists = m.objects.map fields := by
  rw [fieldLists, ofModel, List.filterMap_append, List.filterMap_map, List.filterMap_map]
  have records : m.objects.filterMap (some ∘ fields) = m.objects.map fields :=
    List.filterMap_eq_map ▸ rfl
  have others : m.enums.filterMap (fun _ => (none : Option (List Field))) = [] :=
    List.filterMap_eq_nil_iff.2 fun _ _ => rfl
  calc m.objects.filterMap (some ∘ fields) ++ m.enums.filterMap (fun _ => none)
    _ = m.objects.map fields ++ [] := by rw [records, others]
    _ = m.objects.map fields := List.append_nil _

theorem memberLists_ofModel :
    (ofModel head m fields members).memberLists = m.enums.map members := by
  rw [memberLists, ofModel, List.filterMap_append, List.filterMap_map, List.filterMap_map]
  have records : m.objects.filterMap (fun _ => (none : Option (List Member))) = [] :=
    List.filterMap_eq_nil_iff.2 fun _ _ => rfl
  have others : m.enums.filterMap (some ∘ members) = m.enums.map members :=
    List.filterMap_eq_map ▸ rfl
  calc m.objects.filterMap (fun _ => none) ++ m.enums.filterMap (some ∘ members)
    _ = [] ++ m.enums.map members := by rw [records, others]
    _ = m.enums.map members := List.nil_append _

/-- Printing the file for a model prints its objects and its enumerations. -/
theorem print_ofModel (printHead : Head → String) (definition : Definition Field Member → String) :
    (ofModel head m fields members).print printHead definition =
      withDefinitions (printHead head)
        (m.objects.map (fun o => definition (.record o.docstring (pascalCase o.name) (fields o)))
          ++ m.enums.map fun e =>
            definition (.enumeration e.docstring (pascalCase e.name) (members e))) := by
  rw [print, ofModel, withDefinitions, List.map_append, List.map_append, List.map_map,
    List.map_map, List.map_map, List.map_map]
  rfl

end TypeFile

/-! ## Rust -/

namespace Rust

/-- A member of an enumeration. -/
structure Variant where
  name : String
  /-- The text that it stands for. -/
  value : String

def printVariant (v : Variant) : String :=
  "    #[serde(rename = \"" ++ valueText v.value ++ "\")]\n    " ++ v.name ++ ",\n"

/-- What is said about the data of a field: its name there, and when it is left out. -/
def printArguments (f : Field) : List String :=
  (match f.rename with
    | some name => ["rename = \"" ++ name ++ "\""]
    | none => [])
    ++ match f.omission with
      | .never => []
      | .ofEmptyList => ["default", "skip_serializing_if = \"Vec::is_empty\""]
      | .ofMissingValue => ["default", "skip_serializing_if = \"Option::is_none\""]

def printField (f : Field) : String :=
  commentLines f.docstring "/// " "    "
    ++ (if (printArguments f).isEmpty then ""
        else "    #[serde(" ++ String.intercalate ", " (printArguments f) ++ ")]\n")
    ++ "    pub " ++ f.name ++ ": " ++ f.type ++ ",\n"

theorem printArguments_eq (f : Field) : printArguments f = f.arguments := by
  rw [printArguments, Field.arguments]
  cases f.rename <;> cases f.omission <;> rfl

theorem printField_eq (f : Field) : printField f = f.render := by
  rw [printField, printArguments_eq]
  rfl

def printDefinition : Definition Field Variant → String
  | .record docstring name fields =>
    commentLines docstring "/// " ""
      ++ "#[derive(Debug, Clone, PartialEq, Serialize, Deserialize)]\n"
      ++ "pub struct " ++ name ++ " \x7b\n" ++ String.join (fields.map printField) ++ "\x7d\n"
  | .enumeration docstring name variants =>
    commentLines docstring "/// " ""
      ++ "#[derive(Debug, Clone, Copy, PartialEq, Eq, Hash, Serialize, Deserialize)]\n"
      ++ "pub enum " ++ name ++ " \x7b\n" ++ String.join (variants.map printVariant) ++ "\x7d\n"

def fields (m : DataModel) (o : Object) : List Field := o.attributes.map (field m)

def variants (e : Enumeration) : List Variant :=
  e.mappings.entries.map fun entry => { name := pascalCase entry.1, value := entry.2 }

def file (m : DataModel) : TypeFile Unit Field Variant := .ofModel () m (fields m) variants

def printFile : TypeFile Unit Field Variant → String :=
  TypeFile.print (fun _ => "use serde::\x7bDeserialize, Serialize\x7d;\n") printDefinition

theorem printFile_file (m : DataModel) : printFile (file m) = render m := by
  rw [printFile, file, TypeFile.print_ofModel, render]
  simp only [printDefinition, fields, variants, List.map_map, funext printField_eq]
  rfl

end Rust

/-! ## Go -/

namespace Golang

/-- What stands at the head of a file. -/
structure Head where
  /-- The name of the package. -/
  package : String
  /-- The packages that it imports. -/
  imports : List String

def Head.print (h : Head) : String :=
  "package " ++ h.package ++ "\n"
    ++ String.join (h.imports.map fun name => "\nimport \"" ++ name ++ "\"\n")

/-- What is left of a column behind a text. -/
def printGap (width : Nat) (text : String) : String :=
  String.ofList (List.replicate (width - text.length) ' ')

/-- A field in a structure whose columns of names and types are so wide. -/
def printField (names types : Nat) (f : Field) : String :=
  "\t" ++ (f.name ++ printGap names f.name) ++ " " ++ (f.type ++ printGap types f.type) ++ " "
    ++ f.tag

/-- A constant of a type, in a block whose column of names is so wide. -/
def printConstant (names : Nat) (type : String) (c : Constant) : String :=
  "\t" ++ (c.name ++ printGap names c.name) ++ " " ++ type ++ " = " ++ quoted c.value

def printComment (name docstring : String) : String :=
  commentLines (name ++ " " ++ docstring) "// " ""

def printDefinition : Definition Field Constant → String
  | .record docstring name fields =>
    (if docstring.isEmpty then "// " ++ name ++ " is generated from the data model.\n"
      else printComment name docstring)
      ++ unlines (("type " ++ name ++ " struct \x7b")
        :: fields.map (printField (columnWidth (fields.map (·.name)))
            (columnWidth (fields.map (·.type))))
        ++ ["\x7d"])
  | .enumeration docstring name constants =>
    (if docstring.isEmpty then "" else printComment name docstring)
      ++ unlines (("type " ++ name ++ " string")
        :: if constants.isEmpty then []
          else ["", "const ("]
            ++ constants.map (printConstant (columnWidth (constants.map (·.name))) name)
            ++ [")"])

def file (m : DataModel) : TypeFile Head Field Constant :=
  .ofModel { package := packageName m, imports := if importsTime m then ["time"] else [] } m
    (fields m) constants

def printFile : TypeFile Head Field Constant → String := TypeFile.print Head.print printDefinition

theorem printFile_file (m : DataModel) : printFile (file m) = render m := by
  rw [printFile, file, TypeFile.print_ofModel, render, Head.print]
  cases importsTime m <;> rfl

end Golang

/-! ## Protocol buffers -/

namespace Protobuf

def printField (f : Field) : String :=
  commentLines f.docstring "// " "  "
    ++ "  " ++ f.label ++ f.type ++ " " ++ f.name ++ " = " ++ natText f.number ++ ";\n"

/-- A value of an enumeration, followed by the text that it stands for. -/
def printValue (v : EnumValue) : String :=
  "  " ++ v.name ++ " = " ++ natText v.number ++ ";" ++
    match v.text with
    | some text => " // " ++ text
    | none => ""

def printDefinition : Definition Field EnumValue → String
  | .record docstring name fields =>
    commentLines docstring "// " ""
      ++ "message " ++ name ++ " \x7b\n" ++ String.join (fields.map printField) ++ "\x7d\n"
  | .enumeration docstring name values =>
    commentLines docstring "// " ""
      ++ unlines (("enum " ++ name ++ " \x7b") :: values.map printValue ++ ["\x7d"])

/-- The file for a model; its head is the name of the package. -/
def file (m : DataModel) : TypeFile String Field EnumValue :=
  .ofModel m.slug m (fields m) enumValues

def printFile : TypeFile String Field EnumValue → String :=
  TypeFile.print (fun package => "syntax = \"proto3\";\n\npackage " ++ package ++ ";\n")
    printDefinition

theorem printFile_file (m : DataModel) : printFile (file m) = render m := by
  rw [printFile, file, TypeFile.print_ofModel, render]
  rfl

end Protobuf

end Target
end DocModel
