import DocModel.Dialect.Reading
import DocModel.Proofs.Passages
import DocModel.Target.TypeScript.Codec
import DocModel.Target.TypeScript.Zod
import DocModel.Validation.Report

/-!
# DocModel.Proofs.TypeScript.DocComments

Where the comments end that stand over the declarations of TypeScript.

* `afterComment?` passes over a comment as the language does, up to the first `*/`;
* a comment ends with the terminator written for it exactly if there is none in its text
  (`afterComment?_docComment_iff`), as neither what stands around the lines nor the joints complete
  one;
* `docComments_closed_iff` says so of all the comments of a file, and `description_escapes` gives a
  document whose description ends its comment.
-/

namespace DocModel
namespace Target.TypeScript

open Text

/-! ## Comments of the language -/

def terminator : List Char := ['*', '/']

theorem terminator_ne_nil : terminator ≠ [] := List.cons_ne_nil _ _

/-- What follows the first terminator of a text. -/
def behindTerminator? : List Char → Option (List Char)
  | [] => none
  | '*' :: '/' :: rest => some rest
  | _ :: rest => behindTerminator? rest

/-- What follows the comment that stands first in a text, behind its indentation. -/
def afterComment? (text : List Char) : Option (List Char) :=
  match text.dropWhile (· == ' ') with
  | '/' :: '*' :: rest => behindTerminator? rest
  | _ => none

/-- A terminator is the first one exactly if there is none in the text before it: neither does
its star complete one. -/
theorem behindTerminator?_append_iff {body rest : List Char} :
    behindTerminator? (body ++ (terminator ++ rest)) = some rest ↔ ¬ terminator <:+: body := by
  induction body with
  | nil => exact iff_of_true rfl (by decide)
  | cons c more ih =>
    rw [List.infix_cons_iff, not_or, List.cons_append]
    by_cases early : terminator <+: c :: more
    · obtain ⟨behind, same⟩ := early
      obtain ⟨rfl, rfl⟩ := List.cons.inj same
      -- what follows is longer than what follows the last terminator
      have longer : behind ++ (terminator ++ rest) ≠ rest := fun h => by
        have lengths := congrArg List.length h
        simp only [List.length_append, terminator, List.length_cons, List.length_nil] at lengths
        omega
      refine iff_of_false (fun h => longer (Option.some.inj h)) fun none => none.1 ⟨behind, same⟩
    · have later : behindTerminator? (c :: (more ++ (terminator ++ rest))) =
          behindTerminator? (more ++ (terminator ++ rest)) := by
        refine behindTerminator?.eq_3 _ _ ?_
        rintro behind rfl same
        cases more with
        | nil => cases same
        | cons d later =>
          obtain ⟨rfl, -⟩ := List.cons.inj same
          exact early ⟨later, rfl⟩
      rw [later, ih, and_iff_right early]

/-! ## Comments over declarations -/

section

variable {docstring indent : String}

theorem infix_terminator_line_iff (blank : ∀ c ∈ indent.toList, c = ' ') (line : List Char) :
    terminator <:+: (if (trimEnd line).isEmpty then indent ++ onChars trimEnd " * "
        else indent ++ " * " ++ String.ofList (trimEnd line)).toList ↔
      terminator <:+: trimEnd line := by
  have outside : ∀ c ∈ indent.toList, c ∉ terminator := fun c mem => blank c mem ▸ by decide
  split
  · next empty =>
    have leader : onChars trimEnd " * " = " *" := by decide
    rw [List.isEmpty_iff.1 empty, leader, String.toList_append,
      infix_append_right_iff terminator_ne_nil outside]
    decide
  · have leader : " * ".toList = [' ', '*', ' '] := rfl
    have star : ¬ terminator <:+: [' ', '*'] := by decide
    have cut : terminator <:+: [' ', '*'] ++ ' ' :: trimEnd line ↔
        terminator <:+: [' ', '*'] ∨ terminator <:+: trimEnd line :=
      infix_append_cons_iff terminator_ne_nil (by decide)
    rw [String.toList_append, String.toList_append, leader, List.append_assoc,
      infix_append_right_iff terminator_ne_nil outside, String.toList_ofList]
    exact cut.trans (or_iff_right star)

theorem infix_terminator_commentLines_iff (blank : ∀ c ∈ indent.toList, c = ' ') :
    terminator <:+: (commentLines docstring " * " indent).toList ↔
      terminator <:+: docstring.toList := by
  have solid : ∀ c ∈ terminator, Unicode.isWhiteSpace c = false := forall_mem_of_all (by decide)
  rw [commentLines, toList_unlines, infix_terminated_iff terminator_ne_nil (by decide),
    ← infix_lines_iff terminator_ne_nil solid]
  simp only [List.mem_map, exists_exists_and_eq_and, infix_terminator_line_iff blank]

/-- The text between the delimiters of a comment, with the second star of the opening one. -/
def body (docstring indent : String) : List Char :=
  if '\n' ∈ docstring.toList then
    '*' :: '\n' :: ((commentLines docstring " * " indent).toList ++ (indent.toList ++ [' ']))
  else '*' :: ' ' :: (docstring.toList ++ [' '])

theorem toList_docComment (some : docstring ≠ "") : (docComment docstring indent).toList =
    indent.toList ++ ('/' :: '*' :: (body docstring indent ++ (terminator ++ ['\n']))) := by
  have opening : "/**\n".toList = ['/', '*', '*', '\n'] := rfl
  have line : "/** ".toList = ['/', '*', '*', ' '] := rfl
  have ending : " */\n".toList = [' ', '*', '/', '\n'] := rfl
  rw [docComment, if_neg (by simpa using some), body]
  by_cases feed : '\n' ∈ docstring.toList
  · rw [if_pos (by simpa using feed), if_pos feed]
    simp only [String.toList_append, opening, ending, terminator, List.append_assoc,
      List.cons_append, List.nil_append]
  · rw [if_neg (by simpa using feed), if_neg feed]
    simp only [String.toList_append, line, ending, terminator, List.append_assoc,
      List.cons_append, List.nil_append]

theorem infix_terminator_body_iff (blank : ∀ c ∈ indent.toList, c = ' ') :
    terminator <:+: body docstring indent ↔ terminator <:+: docstring.toList := by
  have star : ¬ terminator <:+: ['*'] := by decide
  have cut {c : Char} (bare : c ∉ terminator) (text : List Char) :
      terminator <:+: '*' :: c :: text ↔ terminator <:+: text := by
    have apart : terminator <:+: ['*'] ++ c :: text ↔
        terminator <:+: ['*'] ∨ terminator <:+: text := infix_append_cons_iff terminator_ne_nil bare
    exact apart.trans (or_iff_right star)
  have behind : ∀ c ∈ indent.toList ++ [' '], c ∉ terminator := by
    intro c mem
    rcases List.mem_append.1 mem with mem | mem
    · exact blank c mem ▸ by decide
    · exact List.mem_singleton.1 mem ▸ by decide
  rw [body]
  split
  · rw [cut (by decide), infix_append_left_iff terminator_ne_nil behind,
      infix_terminator_commentLines_iff blank]
  · have blankEnd : ∀ c ∈ [' '], c ∉ terminator := List.forall_mem_singleton.2 (by decide)
    rw [cut (by decide), infix_append_left_iff terminator_ne_nil blankEnd]

/-- A comment ends where it was made to end exactly if there is no terminator in its text. -/
theorem afterComment?_docComment_iff (some : docstring ≠ "")
    (blank : ∀ c ∈ indent.toList, c = ' ') (rest : List Char) :
    afterComment? ((docComment docstring indent).toList ++ rest) = .some ('\n' :: rest) ↔
      ¬ terminator <:+: docstring.toList := by
  have white : ∀ c ∈ indent.toList, (c == ' ') = true := fun c mem => beq_iff_eq.2 (blank c mem)
  have opened : afterComment? ((docComment docstring indent).toList ++ rest) =
      behindTerminator? (body docstring indent ++ (terminator ++ '\n' :: rest)) := by
    rw [toList_docComment some, afterComment?, List.append_assoc,
      List.dropWhile_append_of_pos white]
    simp only [List.cons_append, List.append_assoc, List.nil_append]
    rfl
  rw [opened, behindTerminator?_append_iff, infix_terminator_body_iff blank]

end

/-! ## Comments of a file -/

/-- A docstring of a model, the indentation of its comment, and what the declaration under the
comment begins with. -/
inductive Documented (m : DataModel) : String → String → String → Prop
  | object {o : Object} (mem : o ∈ m.objects) :
      Documented m o.docstring "" ("export interface " ++ o.name)
  | field {o : Object} {a : Attribute} (mem : o ∈ m.objects) (held : a ∈ o.attributes) :
      Documented m a.docstring "  " ("  " ++ a.name)
  | enumeration {e : Enumeration} (mem : e ∈ m.enums) :
      Documented m e.docstring "" ("export type " ++ e.name)

section

variable {m : DataModel} {docstring indent declared : String}

theorem Documented.blank (h : Documented m docstring indent declared) :
    ∀ c ∈ indent.toList, c = ' ' := by
  cases h <;> simp

/-- Every docstring is the comment over its declaration, in the static types of an object or an
enumeration. -/
theorem Documented.infix_static (h : Documented m docstring indent declared) :
    (∃ o ∈ m.objects, (docComment docstring indent ++ declared).toList <:+:
        (renderInterface m o).toList) ∨
      ∃ e ∈ m.enums, (docComment docstring indent ++ declared).toList <:+:
        (renderLiterals e).toList := by
  cases h with
  | object mem =>
    exact .inl ⟨_, mem, infix_of_eq_append
      (by simp only [renderInterface, String.append_assoc]; rfl)⟩
  | @field o a mem held =>
    have one : (docComment a.docstring "  " ++ ("  " ++ a.name)).toList <:+:
        (renderField m a).toList :=
      infix_of_eq_append
        (by simp only [renderField, String.append_assoc]; rfl)
    have all : (String.join (o.attributes.map (renderField m))).toList <:+:
        (renderInterface m o).toList := by
      rw [renderInterface, String.toList_append, String.toList_append]
      exact List.infix_append _ _ _
    exact .inl ⟨o, mem, one.trans ((infix_join (List.mem_map_of_mem held)).trans all)⟩
  | enumeration mem =>
    exact .inr ⟨_, mem, infix_of_eq_append
      (by simp only [renderLiterals, String.append_assoc]; rfl)⟩

/-- So it is in a file that has the static types in its definitions. -/
theorem Documented.infix_definitions (h : Documented m docstring indent declared)
    {header : String} {ofEnumeration : Enumeration → String} {ofObject : Object → String}
    (enums : ∀ e, (renderLiterals e).toList <:+: (ofEnumeration e).toList)
    (objects : ∀ o, (renderInterface m o).toList <:+: (ofObject o).toList) :
    (docComment docstring indent ++ declared).toList <:+:
      (withDefinitions header (m.enums.map ofEnumeration ++ m.objects.map ofObject)).toList := by
  rcases h.infix_static with ⟨o, mem, inside⟩ | ⟨e, mem, inside⟩
  · exact (inside.trans (objects o)).trans
      (infix_withDefinitions (List.mem_append_right _ (List.mem_map_of_mem mem)))
  · exact (inside.trans (enums e)).trans
      (infix_withDefinitions (List.mem_append_left _ (List.mem_map_of_mem mem)))

theorem Documented.infix_file (h : Documented m docstring indent declared) {file : String}
    (either : file = Codec.render m ∨ file = Zod.render m) :
    (docComment docstring indent ++ declared).toList <:+: file.toList := by
  rcases either with rfl | rfl
  · exact h.infix_definitions (fun e => infix_of_eq_append rfl) fun o =>
      infix_of_eq_append (by rw [Codec.renderObject, String.append_assoc])
  · exact h.infix_definitions (fun e => infix_of_eq_append rfl) fun o =>
      infix_of_eq_append (by rw [Zod.renderObject, String.append_assoc])

/-- Every docstring of a model is the comment over its declaration in both files, and whatever comes
behind, the comment ends with the terminator written for it exactly if there is none in the
docstring. -/
theorem docComments_closed_iff (h : Documented m docstring indent declared)
    (some : docstring ≠ "") {file : String} (either : file = Codec.render m ∨ file = Zod.render m) :
    (docComment docstring indent ++ declared).toList <:+: file.toList ∧ ∀ more : List Char,
      (afterComment? ((docComment docstring indent).toList ++ (declared.toList ++ more)) =
        .some ('\n' :: (declared.toList ++ more)) ↔ ¬ terminator <:+: docstring.toList) :=
  ⟨h.infix_file either, fun _ => afterComment?_docComment_iff some h.blank _⟩

end

/-- An object whose docstring has stars and slashes, but no terminator. -/
def ratioModel : DataModel where
  objects := [{ name := "Ratio", docstring := "part / whole *\n\n/ of *" }]

theorem ratioModel_docComment_closed :
    Documented ratioModel "part / whole *\n\n/ of *" "" "export interface Ratio" ∧
      "part / whole *\n\n/ of *" ≠ "" ∧
      ∀ more : List Char, afterComment? ((docComment "part / whole *\n\n/ of *" "").toList ++
          ("export interface Ratio".toList ++ more)) =
        some ('\n' :: ("export interface Ratio".toList ++ more)) :=
  have documented := Documented.object (m := ratioModel) List.mem_cons_self
  ⟨documented, by decide, fun more =>
    ((docComments_closed_iff documented (by decide) (.inl rfl)).2 more).2 (by decide +kernel)⟩

/-- A document that describes an attribute with a terminator. -/
def closingDocument : String := "### A\n- x\n  - Type: string\n  - Description: a */ b\n"

/-- The document is valid, and its description ends its comment in both files: the rest of it is
code. -/
theorem description_escapes : ∃ reading, Dialect.parse closingDocument = .ok reading ∧
    (Validation.reportOf reading).isValid = true ∧
    (∀ file, file = Codec.render reading.model ∨ file = Zod.render reading.model →
      "  /** a */ b */\n  x".toList <:+: file.toList) ∧
    ∀ more, afterComment? ("  /** a */ b */\n  x".toList ++ more) =
      some (" b */\n  x".toList ++ more) := by
  have read : (Dialect.parse closingDocument).map (fun reading =>
      ((Validation.reportOf reading).isValid,
        reading.model.objects.map fun o => o.attributes.map fun a => (a.name, a.docstring))) =
      .ok (true, [[("x", "a */ b")]]) := by decide +kernel
  cases parsed : Dialect.parse closingDocument with
  | error fault =>
    rw [parsed] at read
    cases read
  | ok reading =>
    rw [parsed] at read
    obtain ⟨valid, attributes⟩ := Prod.mk.inj (Except.ok.inj read)
    obtain ⟨o, mem, held⟩ := List.mem_map.1 (attributes ▸ List.mem_singleton_self _)
    obtain ⟨a, among, same⟩ := List.mem_map.1 (held ▸ List.mem_singleton_self _)
    obtain ⟨name, docstring⟩ := Prod.mk.inj same
    have documented := Documented.field mem among
    rw [name, docstring] at documented
    exact ⟨reading, rfl, valid, fun _ either => documented.infix_file either, fun _ => rfl⟩

end Target.TypeScript
end DocModel
