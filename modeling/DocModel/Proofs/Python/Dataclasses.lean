import DocModel.Target.Python
import Mathlib.Data.List.Pairwise

/-!
# DocModel.Proofs.Python.Dataclasses

The classes of data of Python as trees, and the order of their fields.

* Python takes no field without a default behind a field that has one. Whether an attribute is
  moved to the front is decided apart from what is written for it: `needsValue_iff` says that both
  agree;
* so the fields are arranged as Python needs them, and otherwise as the attributes are
  (`dataclass_fields_arranged`).
-/

namespace DocModel
namespace Target.Python

open Text

/-! ## Classes as trees -/

def Field.bareLine (f : Field) : String := f.name ++ ": " ++ f.annotation

/-- A field of a class of data as text. -/
def Field.dataLine (f : Field) : String :=
  f.bareLine ++
    match f.default.dataclassValue? with
    | some value => " = " ++ value
    | none => ""

/-- A class of data. -/
structure DataClass where
  name : String
  docstring : String
  fields : List Field

namespace DataClass

def bodyLines (c : DataClass) : List String :=
  (if c.docstring.isEmpty then [] else ["    " ++ docText c.docstring, ""])
    ++ c.fields.map ("    " ++ ·.dataLine)

def print (c : DataClass) : String :=
  let body := c.bodyLines
  unlines ["@dataclass", "class " ++ c.name ++ ":"]
    ++ (if body.isEmpty then "    pass"
        else onChars (dropEndWhile (· == '\n')) (unlines body))
    ++ "\n"

def ofObject (m : DataModel) (o : Object) : DataClass where
  name := o.name
  docstring := o.docstring
  fields := (fieldOrder .dataclass o.attributes).map (field m)

theorem bodyLines_ofObject (m : DataModel) (o : Object) :
    (ofObject m o).bodyLines = Python.bodyLines .dataclass m o := by
  rw [bodyLines, ofObject, List.map_map, Python.bodyLines]
  exact congrArg (· ++ _) (List.append_nil _).symm

theorem print_ofObject (m : DataModel) (o : Object) :
    (ofObject m o).print = renderObject .dataclass m o := by
  rw [print, bodyLines_ofObject]
  rfl

end DataClass

/-- A model as classes of data. -/
def printDataClasses (m : DataModel) (classes : List DataClass) : String :=
  unlines (importLines .dataclass m)
    ++ String.join
      ((m.enums.map renderEnumeration ++ classes.map (·.print)).map ("\n\n" ++ ·))

theorem printDataClasses_eq_render (m : DataModel) :
    printDataClasses m (m.objects.map (DataClass.ofObject m)) = render .dataclass m := by
  have printed : (m.objects.map (DataClass.ofObject m)).map (·.print) =
      m.objects.map (renderObject .dataclass m) := by
    rw [List.map_map]
    exact List.map_congr_left fun o _ => DataClass.print_ofObject m o
  rw [printDataClasses, printed, render]
  exact (String.append_empty).symm

/-! ## Defaults -/

def Field.HasDefault (f : Field) : Prop := ∃ value, f.dataLine = f.bareLine ++ " = " ++ value

theorem Field.hasDefault_iff (f : Field) : f.HasDefault ↔ f.default ≠ .missing := by
  rw [HasDefault, dataLine]
  cases f.default with
  | missing =>
    refine iff_of_false ?_ (not_not_intro rfl)
    rintro ⟨value, same⟩
    have lengths : (f.bareLine ++ "").length = (f.bareLine ++ " = " ++ value).length :=
      congrArg String.length same
    have sign : " = ".length = 3 := rfl
    rw [String.length_append, String.length_append, String.length_append, String.length_empty,
      sign] at lengths
    omega
  | emptyList => exact iff_of_true ⟨_, String.append_assoc.symm⟩ Default.noConfusion
  | value literal => exact iff_of_true ⟨_, String.append_assoc.symm⟩ Default.noConfusion

theorem Field.dataLine_cases (f : Field) : f.HasDefault ∨ f.dataLine = f.bareLine := by
  rw [hasDefault_iff]
  by_cases missing : f.default = .missing
  · refine .inr ?_
    rw [dataLine, missing]
    exact String.append_empty
  · exact .inl missing

instance : DecidablePred Field.HasDefault := fun f =>
  decidable_of_iff (f.default ≠ .missing) f.hasDefault_iff.symm

/-- The attributes that are moved to the front are those whose fields have no default. -/
theorem needsValue_iff (m : DataModel) (a : Attribute) :
    needsValue a = true ↔ ¬ (field m a).HasDefault := by
  rw [Field.hasDefault_iff, not_not, field, default, needsValue]
  -- lists come first here as they do in `default`: an option counts only if there is no list
  cases a.multiple with
  | true => simp
  | false =>
    cases a.default? with
    | some value => simp
    | none => cases a.isRequired <;> simp

/-! ## The order of fields -/

/-- Fields in an order that Python takes: those with a default are last, and otherwise the order is
the one that they come in. -/
structure Arranged (source arranged : List Field) : Prop where
  /-- No field is lost or repeated. -/
  perm : arranged.Perm source
  /-- Behind a field with a default all have one. -/
  defaultsLast : arranged.Pairwise fun f g => f.HasDefault → g.HasDefault
  /-- The fields with a default keep their order. -/
  defaults : arranged.filter (·.HasDefault) = source.filter (·.HasDefault)
  /-- The fields without a default keep their order. -/
  bare : arranged.filter (¬ ·.HasDefault) = source.filter (¬ ·.HasDefault)

/-- Fields are arranged by putting those without a default to the front. -/
theorem arranged_filter_append (fs : List Field) :
    Arranged fs (fs.filter (¬ ·.HasDefault) ++ fs.filter (·.HasDefault)) where
  perm := by
    have parts := List.filter_append_perm (fun f => decide f.HasDefault) fs
    simp only [← decide_not] at parts
    exact List.perm_append_comm.trans parts
  defaultsLast := by
    have front : ∀ f ∈ fs.filter (¬ ·.HasDefault), ¬ f.HasDefault := fun f hf => by
      simpa using (List.mem_filter.1 hf).2
    have back : ∀ f ∈ fs.filter (·.HasDefault), f.HasDefault := fun f hf => by
      simpa using (List.mem_filter.1 hf).2
    refine List.pairwise_append.2 ⟨?_, ?_, fun f _ g hg _ => back g hg⟩
    · exact List.pairwise_of_forall_mem_list fun f hf g _ given => absurd given (front f hf)
    · exact List.pairwise_of_forall_mem_list fun f _ g hg _ => back g hg
  defaults := by simp [List.filter_append, List.filter_filter]
  bare := by simp [List.filter_append, List.filter_filter]

/-- Moving attributes to the front moves their fields to the front. -/
theorem fields_ofObject (m : DataModel) (o : Object) :
    (DataClass.ofObject m o).fields =
      (o.attributes.map (field m)).filter (¬ ·.HasDefault)
        ++ (o.attributes.map (field m)).filter (·.HasDefault) := by
  have front : needsValue = fun a => decide ¬ (field m a).HasDefault :=
    funext fun a => Bool.eq_iff_iff.2 ((needsValue_iff m a).trans decide_eq_true_iff.symm)
  have back : (!needsValue ·) = fun a => decide (field m a).HasDefault := by
    funext a
    rw [congrFun front a, decide_not, Bool.not_not]
  rw [DataClass.ofObject, fieldOrder, back, front, List.map_append, List.filter_map,
    List.filter_map]
  rfl

/-- In every class the fields without a default stand in front of those with one, no field of an
attribute is lost or repeated, and among fields of the same sort the order is that of the
attributes. -/
theorem dataclass_fields_arranged (m : DataModel) :
    printDataClasses m (m.objects.map (DataClass.ofObject m)) = render .dataclass m ∧
    ∀ o : Object, (DataClass.ofObject m o).print = renderObject .dataclass m o ∧
      (∀ f ∈ (DataClass.ofObject m o).fields, f.HasDefault ∨ f.dataLine = f.bareLine) ∧
      Arranged (o.attributes.map (field m)) (DataClass.ofObject m o).fields := by
  refine ⟨printDataClasses_eq_render m, fun o => ⟨DataClass.print_ofObject m o, ?_, ?_⟩⟩
  · exact fun f _ => f.dataLine_cases
  · rw [fields_ofObject]
    exact arranged_filter_append _

example : (DataClass.ofObject {} { attributes := [{ name := "x", dtypes := ["integer"] },
    { name := "id", dtypes := ["string"], isId := true }] }).fields.map (·.dataLine) =
      ["id: str", "x: Optional[int] = None"] := by
  decide

end Target.Python
end DocModel
