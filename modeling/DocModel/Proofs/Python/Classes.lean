import DocModel.Target.Python

/-!
# DocModel.Proofs.Python.Classes

Modules of Python as trees, in all three styles.

* What a field is declared with is a literal or a call, and a call has its arguments by name. What
  readers of the classes ask for (the default of a field, its alias) is found among them;
* `print_moduleOf` says that the text of the tree is what is written for the model;
* whatever the order of the fields, every attribute has its own (`fieldOrder_perm`).
-/

namespace DocModel
namespace Target.Python

open Text

/-! ## Trees -/

/-- An argument of a call, with its name or without. -/
inductive Argument where
  | plain (value : String)
  | named (key value : String)

/-- What a field is declared with. -/
inductive Declared where
  | literal (text : String)
  | call (function : String) (arguments : List Argument)

/-- The declaration of a field. -/
structure Declaration where
  name : String
  annotation : String
  declared? : Option Declared

/-- The class of an object. -/
structure Class where
  name : String
  docstring : String
  fields : List Declaration

/-- The class of an enumeration: its members have literals. -/
structure EnumClass where
  name : String
  docstring : String
  members : List (String × String)

/-- A module of a style. -/
structure Module where
  style : ClassStyle
  imports : List String
  enums : List EnumClass
  classes : List Class
  closing : List String

/-! ## Texts of trees -/

def Argument.print : Argument → String
  | plain value => value
  | named key value => key ++ "=" ++ value

def Declared.print : Declared → String
  | literal text => text
  | call function arguments => Python.call function (arguments.map (·.print))

def Declaration.print (d : Declaration) : String :=
  d.name ++ ": " ++ d.annotation ++
    match d.declared? with
    | some value => " = " ++ value.print
    | none => ""

/-- The lines of a class behind those that begin it. -/
def Class.bodyLines (style : ClassStyle) (c : Class) : List String :=
  (if c.docstring.isEmpty then [] else ["    " ++ docText c.docstring, ""])
    ++ (if style = .pydantic then
          ["    model_config = ConfigDict(populate_by_name=True)", ""]
        else [])
    ++ c.fields.map ("    " ++ ·.print)

def Class.print (style : ClassStyle) (c : Class) : String :=
  let body := c.bodyLines style
  unlines (classLines style c.name)
    ++ (if body.isEmpty then "    pass"
        else onChars (dropEndWhile (· == '\n')) (unlines body))
    ++ "\n"

def EnumClass.print (c : EnumClass) : String :=
  unlines
    (("class " ++ c.name ++ "(str, Enum):")
      :: (if c.docstring.isEmpty then [] else ["    " ++ docText c.docstring, ""])
      ++ (if c.members.isEmpty then ["    pass"] else [])
      ++ c.members.map fun member => "    " ++ member.1 ++ " = " ++ member.2)

def Module.print (f : Module) : String :=
  unlines f.imports
    ++ String.join
      ((f.enums.map (·.print) ++ f.classes.map (·.print f.style)).map ("\n\n" ++ ·))
    ++ unlines f.closing

/-! ## What readers of a class ask for -/

/-- The value of an argument with a name. -/
def Argument.value? (key : String) : Argument → Option String
  | plain _ => none
  | named k value => if k = key then some value else none

/-- The argument with a name in the call that a field is declared with. -/
def Declaration.argument? (key : String) (d : Declaration) : Option String :=
  match d.declared? with
  | some (.call _ arguments) => arguments.findSome? (Argument.value? key)
  | _ => none

/-- The default of a field that is written as one value. -/
def Declaration.default? (d : Declaration) : Option String :=
  match d.declared? with
  | some (.literal text) => some text
  | _ => d.argument? "default"

/-! ## Trees of models -/

def Default.arguments : Default → List Argument
  | missing => []
  | emptyList => [.named "default_factory" "list"]
  | value literal => [.named "default" literal]

/-- A text between quotes as it is. -/
def inQuotes (text : String) : String := "\"" ++ text ++ "\""

def extraArgument (term : String) : Argument :=
  .named "json_schema_extra" ("\x7b\"term\": " ++ inQuotes (escapeString term) ++ "\x7d")

def checkedArguments (m : DataModel) (a : Attribute) : List Argument :=
  (if default m a = .missing then [.plain "..."] else (default m a).arguments)
    ++ (otherName? a).toList.map (fun name => .named "alias" (inQuotes name))
    ++ (if a.docstring.isEmpty then []
        else [.named "description" (inQuotes (escapeString a.docstring))])
    ++ a.term.toList.map fun term => extraArgument term

def xmlCall (m : DataModel) (a : Attribute) : Declared :=
  if isXmlAttribute m a then
    .call "attr" (.named "name" (inQuotes a.xml.name) :: (default m a).arguments)
  else .call "element" (.named "tag" (inQuotes a.xml.name) :: (default m a).arguments)

/-- What the field of a class of data is declared with. -/
def Default.dataDeclared? : Default → Option Declared
  | missing => none
  | emptyList => some (.call "field" (arguments emptyList))
  | value text => some (.literal text)

/-- What the field for an attribute is declared with. -/
def declaredFor? (style : ClassStyle) (m : DataModel) (a : Attribute) : Option Declared :=
  match style with
  | .pydantic => some (.call "Field" (checkedArguments m a))
  | .pydanticXml => some (xmlCall m a)
  | .dataclass => (default m a).dataDeclared?

def declarationOf (style : ClassStyle) (m : DataModel) (a : Attribute) : Declaration where
  name := identifier a.name
  annotation := annotation m a
  declared? := declaredFor? style m a

def classOf (style : ClassStyle) (m : DataModel) (o : Object) : Class where
  name := o.name
  docstring := o.docstring
  fields := (fieldOrder style o.attributes).map (declarationOf style m)

def enumClassOf (e : Enumeration) : EnumClass where
  name := e.name
  docstring := e.docstring
  members := e.mappings.entries.map fun entry => (identifier entry.1, textLiteral entry.2)

def moduleOf (style : ClassStyle) (m : DataModel) : Module where
  style := style
  imports := importLines style m
  enums := m.enums.map enumClassOf
  classes := m.objects.map (classOf style m)
  closing := closingLines style m

/-! ## Their texts -/

theorem print_arguments (d : Default) : d.arguments.map (·.print) = d.argument?.toList := by
  cases d <;> rfl

theorem print_quoted (key text : String) :
    (Argument.named key (inQuotes text)).print = textArgument key text := by
  have signs : "=\"" = "=" ++ "\"" := rfl
  rw [Argument.print, inQuotes, textArgument, signs]
  simp only [String.append_assoc]

theorem print_extraArgument (term : String) :
    (extraArgument term).print =
      "json_schema_extra=\x7b\"term\": \"" ++ escapeString term ++ "\"\x7d" := by
  have front : "json_schema_extra=\x7b\"term\": \"" =
      "json_schema_extra" ++ "=" ++ "\x7b\"term\": " ++ "\"" := rfl
  have back : "\"\x7d" = "\"" ++ "\x7d" := rfl
  rw [extraArgument, Argument.print, inQuotes, front, back]
  simp only [String.append_assoc]

theorem print_checkedArguments (m : DataModel) (a : Attribute) :
    Python.call "Field" ((checkedArguments m a).map (·.print)) = checkedValue m a := by
  -- the four sorts of arguments, each for itself
  have first : (if default m a = .missing then [Argument.plain "..."]
        else (default m a).arguments).map (·.print) =
      [(default m a).argument?.getD "..."] := by
    cases default m a <;> rfl
  have renamed : ((otherName? a).toList.map fun name =>
        Argument.named "alias" (inQuotes name)).map (·.print) =
      (otherName? a).toList.map (textArgument "alias") := by
    rw [List.map_map]
    exact List.map_congr_left fun name _ => print_quoted "alias" name
  have description : (if a.docstring.isEmpty then []
        else [Argument.named "description" (inQuotes (escapeString a.docstring))]).map (·.print) =
      if a.docstring.isEmpty then []
        else [textArgument "description" (escapeString a.docstring)] := by
    split
    · rfl
    · exact congrArg ([·]) (print_quoted "description" _)
  have extra : (a.term.toList.map fun term => extraArgument term).map (·.print) =
      a.term.toList.map fun term =>
        "json_schema_extra=\x7b\"term\": \"" ++ escapeString term ++ "\"\x7d" := by
    rw [List.map_map]
    exact List.map_congr_left fun term _ => print_extraArgument term
  rw [checkedArguments, checkedValue, List.map_append, List.map_append, List.map_append, first,
    renamed, description, extra]
  simp only [List.append_assoc, List.cons_append, List.nil_append]

theorem print_xmlCall (m : DataModel) (a : Attribute) : (xmlCall m a).print = xmlValue m a := by
  rw [xmlCall, xmlValue]
  split <;> rw [Declared.print, List.map_cons, print_quoted, print_arguments]

theorem print_dataDeclared? (d : Default) :
    d.dataDeclared?.map (·.print) = d.dataclassValue? := by
  cases d <;> rfl

theorem print_declaredFor? (style : ClassStyle) (m : DataModel) (a : Attribute) :
    (declaredFor? style m a).map (·.print) = declaredValue? style m a := by
  cases style with
  | pydantic => exact congrArg some (print_checkedArguments m a)
  | pydanticXml => exact congrArg some (print_xmlCall m a)
  | dataclass => exact print_dataDeclared? (default m a)

theorem print_declarationOf (style : ClassStyle) (m : DataModel) (a : Attribute) :
    (declarationOf style m a).print = fieldLine style m a := by
  rw [fieldLine, ← print_declaredFor?, Declaration.print, declarationOf]
  cases declaredFor? style m a <;> rfl

theorem print_classOf (style : ClassStyle) (m : DataModel) (o : Object) :
    (classOf style m o).print style = renderObject style m o := by
  have body : (classOf style m o).bodyLines style = bodyLines style m o := by
    have fields : (classOf style m o).fields.map ("    " ++ ·.print) =
        (fieldOrder style o.attributes).map fun a => "    " ++ fieldLine style m a := by
      rw [classOf, List.map_map]
      exact List.map_congr_left fun a _ => congrArg _ (print_declarationOf style m a)
    rw [Class.bodyLines, fields]
    rfl
  rw [Class.print, body]
  rfl

theorem print_enumClassOf (e : Enumeration) : (enumClassOf e).print = renderEnumeration e := by
  have members :
      (enumClassOf e).members.map (fun member => "    " ++ member.1 ++ " = " ++ member.2) =
        e.mappings.entries.map fun entry =>
          "    " ++ identifier entry.1 ++ " = " ++ textLiteral entry.2 := by
    rw [enumClassOf, List.map_map]
    rfl
  have empty : (enumClassOf e).members.isEmpty = e.mappings.isEmpty := List.isEmpty_map
  rw [EnumClass.print, members, empty]
  rfl

theorem print_moduleOf (style : ClassStyle) (m : DataModel) :
    (moduleOf style m).print = render style m := by
  have enums : (moduleOf style m).enums.map (·.print) = m.enums.map renderEnumeration := by
    rw [moduleOf, List.map_map]
    exact List.map_congr_left fun e _ => print_enumClassOf e
  have classes : (moduleOf style m).classes.map (·.print (moduleOf style m).style) =
      m.objects.map (renderObject style m) := by
    rw [moduleOf, List.map_map]
    exact List.map_congr_left fun o _ => print_classOf style m o
  rw [Module.print, enums, classes]
  rfl

theorem fieldOrder_perm (style : ClassStyle) (as : List Attribute) :
    (fieldOrder style as).Perm as := by
  cases style with
  | pydantic => exact .refl _
  | pydanticXml => exact .refl _
  | dataclass => exact List.filter_append_perm needsValue as

end Target.Python
end DocModel
