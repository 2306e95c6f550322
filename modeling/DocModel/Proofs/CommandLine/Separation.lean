import DocModel.CommandLine.Run
import DocModel.Proofs.Entries
import DocModel.Proofs.Splitting
import Mathlib.Data.List.Basic

/-!
# DocModel.Proofs.CommandLine.Separation

Taking the parameters for templates out of the arguments loses none of them. The arguments are cut
into pieces, in one way only: an argument that is kept, a parameter alone, or a parameter and the
argument behind it as its value (`Dissected`, `Dissected.unique`).

* `separate_flatMap`: what `separate` gives is read off the pieces.
* `turn_keeps`, `turns_from`: a loop with an index that moves on by one or two places has the same
  result and ends behind the last argument.
* `find?_dictionary_iff`: of several pieces for one parameter the last one counts.
* `separate_accounts` puts these together.
-/

namespace DocModel
namespace CommandLine

open Text

/-- The parameters as the formats get them. -/
def Separated.dictionary (s : Separated) : Dictionary := .ofList s.parameters

/-! ## Arguments one by one -/

theorem parameterName?_eq_some_iff {argument name : String} :
    parameterName? argument = some name ↔ argument = parameterMark ++ name := by
  simp only [parameterName?, Option.map_eq_some_iff, dropPrefix?_eq_some_iff, ← String.toList_inj,
    String.toList_append]
  constructor
  · rintro ⟨rest, whole, same⟩
    rw [whole, ← same, String.toList_ofList]
  · intro whole
    exact ⟨name.toList, whole, String.toList_ofList⟩

theorem parameterName?_mark (name : String) : parameterName? (parameterMark ++ name) = some name :=
  parameterName?_eq_some_iff.2 rfl

/-- An argument begins as the parameters do. -/
def Marked (argument : String) : Prop := parameterMark.toList <+: argument.toList

theorem marked_iff {argument : String} : Marked argument ↔ (parameterName? argument).isSome := by
  rw [Option.isSome_iff_exists]
  simp only [parameterName?_eq_some_iff, ← String.toList_inj, String.toList_append]
  constructor
  · rintro ⟨rest, whole⟩
    exact ⟨String.ofList rest, by rw [String.toList_ofList, whole]⟩
  · rintro ⟨name, whole⟩
    exact ⟨name.toList, whole.symm⟩

theorem not_marked_iff {argument : String} :
    ¬ Marked argument ↔ parameterName? argument = none := by
  rw [marked_iff, Option.not_isSome_iff_eq_none]

theorem marked_mark (name : String) : Marked (parameterMark ++ name) :=
  ⟨name.toList, (String.toList_append ..).symm⟩

section

variable {argument name value : String} {rest : List String}

theorem separate_kept (h : parameterName? argument = none) :
    separate (argument :: rest) = (separate rest).keep argument := by
  rw [separate, h]

theorem separate_bare (h : ∀ next ∈ rest.head?, startsWithHyphen next = true) :
    separate ((parameterMark ++ name) :: rest) = (separate rest).give name impliedValue := by
  cases rest with
  | nil => simp only [separate, parameterName?_mark]
  | cons next more =>
    have hyphen : startsWithHyphen next = true := h next rfl
    rw [separate]
    simp only [parameterName?_mark, hyphen, if_true]

theorem separate_valued (h : startsWithHyphen value = false) :
    separate ((parameterMark ++ name) :: value :: rest) = (separate rest).give name value := by
  rw [separate]
  simp only [parameterName?_mark, h, Bool.false_eq_true, if_false]

end

theorem separate_of_unmarked {arguments : List String} (h : ∀ a ∈ arguments, ¬ Marked a) :
    separate arguments = { kept := arguments } := by
  induction arguments with
  | nil => rfl
  | cons a rest ih =>
    obtain ⟨first, later⟩ := List.forall_mem_cons.1 h
    rw [separate_kept (not_marked_iff.1 first), ih later]
    rfl

/-! ## Pieces -/

/-- Arguments that belong together. -/
inductive Piece where
  | kept (argument : String)
  | bare (name : String)
  | valued (name value : String)
  deriving DecidableEq

namespace Piece

def arguments : Piece → List String
  | kept argument => [argument]
  | bare name => [parameterMark ++ name]
  | valued name value => [parameterMark ++ name, value]

def kept? : Piece → Option String
  | kept argument => some argument
  | _ => none

def parameter? : Piece → Option (String × String)
  | kept _ => none
  | bare name => some (name, impliedValue)
  | valued name value => some (name, value)

/-- A piece gives a parameter a value: the one that follows, or `true`. -/
def Gives (p : Piece) (name value : String) : Prop :=
  p = valued name value ∨ p = bare name ∧ value = "true"

/-- The value that a piece gives to a parameter, if it is for this one. -/
def value? (key : String) (p : Piece) : Option String :=
  p.parameter?.bind fun given => if key = given.1 then some given.2 else none

theorem gives_iff {p : Piece} {key value : String} :
    p.Gives key value ↔ p.value? key = some value := by
  cases p with
  | kept argument => simp [Gives, value?, parameter?]
  | bare name => simp [Gives, value?, parameter?, impliedValue, eq_comm]
  | valued name given => simp [Gives, value?, parameter?, eq_comm]

theorem not_gives_iff {p : Piece} {key : String} :
    (∀ value, ¬ p.Gives key value) ↔ p.value? key = none := by
  simp only [gives_iff, Option.eq_none_iff_forall_ne_some, ne_eq]

end Piece

section

variable (argument name value : String) (pieces : List Piece)

theorem flatMap_kept : (Piece.kept argument :: pieces).flatMap Piece.arguments =
    argument :: pieces.flatMap Piece.arguments := rfl

theorem flatMap_bare : (Piece.bare name :: pieces).flatMap Piece.arguments =
    (parameterMark ++ name) :: pieces.flatMap Piece.arguments := rfl

theorem flatMap_valued : (Piece.valued name value :: pieces).flatMap Piece.arguments =
    (parameterMark ++ name) :: value :: pieces.flatMap Piece.arguments := rfl

end

/-- Pieces as arguments are cut: nothing that is kept is a parameter, no value starts with a hyphen,
and a parameter without a value has none behind it. -/
inductive Dissected : List Piece → Prop where
  | nil : Dissected []
  | kept {argument : String} {pieces : List Piece} :
      ¬ Marked argument → Dissected pieces → Dissected (.kept argument :: pieces)
  | bare {name : String} {pieces : List Piece} :
      (∀ next ∈ (pieces.flatMap Piece.arguments).head?, startsWithHyphen next = true) →
        Dissected pieces → Dissected (.bare name :: pieces)
  | valued {name value : String} {pieces : List Piece} :
      startsWithHyphen value = false → Dissected pieces → Dissected (.valued name value :: pieces)

theorem exists_dissected (arguments : List String) :
    ∃ pieces, Dissected pieces ∧ pieces.flatMap Piece.arguments = arguments := by
  fun_induction separate arguments with
  | case1 => exact ⟨[], .nil, rfl⟩
  | case2 argument rest plain ih =>
    obtain ⟨pieces, cut, whole⟩ := ih
    exact ⟨.kept argument :: pieces, .kept (not_marked_iff.2 plain) cut,
      by rw [flatMap_kept, whole]⟩
  | case3 argument name own =>
    obtain rfl := parameterName?_eq_some_iff.1 own
    exact ⟨[.bare name], .bare (fun _ none => by cases none) .nil, rfl⟩
  | case4 argument name own next more hyphen ih =>
    obtain rfl := parameterName?_eq_some_iff.1 own
    obtain ⟨pieces, cut, whole⟩ := ih
    refine ⟨.bare name :: pieces, .bare ?_ cut, by rw [flatMap_bare, whole]⟩
    rw [whole]
    intro first own
    cases own
    exact hyphen
  | case5 argument name own next more plain ih =>
    obtain rfl := parameterName?_eq_some_iff.1 own
    obtain ⟨pieces, cut, whole⟩ := ih
    exact ⟨.valued name next :: pieces, .valued (by simpa using plain) cut,
      by rw [flatMap_valued, whole]⟩

/-- They can be cut in one way only: the first argument tells what the first piece is, and for a
parameter the second one does. -/
theorem Dissected.unique {pieces others : List Piece} (h : Dissected pieces) (h' : Dissected others)
    (same : pieces.flatMap Piece.arguments = others.flatMap Piece.arguments) : pieces = others := by
  -- two first pieces of different kinds cannot begin one list of arguments
  induction h generalizing others with
  | nil =>
    cases h' with
    | nil => rfl
    | kept | bare | valued => cases same
  | kept plain _ ih =>
    cases h' with
    | nil => cases same
    | kept _ rest =>
      simp only [flatMap_kept, List.cons.injEq] at same
      rw [same.1, ih rest same.2]
    | bare | valued =>
      simp only [flatMap_kept, flatMap_bare, flatMap_valued, List.cons.injEq] at same
      exact absurd (same.1 ▸ marked_mark _) plain
  | bare alone _ ih =>
    cases h' with
    | nil => cases same
    | kept plain _ =>
      simp only [flatMap_kept, flatMap_bare, List.cons.injEq] at same
      exact absurd (same.1 ▸ marked_mark _) plain
    | bare _ rest =>
      simp only [flatMap_bare, List.cons.injEq, String.append_right_inj] at same
      rw [same.1, ih rest same.2]
    | valued plain _ =>
      simp only [flatMap_bare, flatMap_valued, List.cons.injEq] at same
      simp [same.2, plain] at alone
  | valued plain _ ih =>
    cases h' with
    | nil => cases same
    | kept unmarked _ =>
      simp only [flatMap_kept, flatMap_valued, List.cons.injEq] at same
      exact absurd (same.1 ▸ marked_mark _) unmarked
    | bare alone _ =>
      simp only [flatMap_bare, flatMap_valued, List.cons.injEq] at same
      simp [← same.2, plain] at alone
    | valued _ rest =>
      simp only [flatMap_valued, List.cons.injEq, String.append_right_inj] at same
      rw [same.1, same.2.1, ih rest same.2.2]

theorem separate_flatMap {pieces : List Piece} (h : Dissected pieces) :
    separate (pieces.flatMap Piece.arguments) =
      { kept := pieces.filterMap Piece.kept?
        parameters := pieces.filterMap Piece.parameter? } := by
  induction h with
  | nil => rfl
  | kept plain _ ih =>
    rw [flatMap_kept, separate_kept (not_marked_iff.1 plain), ih]
    rfl
  | bare alone _ ih =>
    rw [flatMap_bare, separate_bare alone, ih]
    rfl
  | valued plain _ ih =>
    rw [flatMap_valued, separate_valued plain, ih]
    rfl

theorem Dissected.unmarked {pieces : List Piece} (h : Dissected pieces) :
    ∀ a ∈ pieces.filterMap Piece.kept?, ¬ Marked a := by
  induction h with
  | nil => exact List.forall_mem_nil _
  | kept plain _ ih => exact List.forall_mem_cons.2 ⟨plain, ih⟩
  | bare _ _ ih => exact ih
  | valued _ _ ih => exact ih

theorem sublist_kept (pieces : List Piece) :
    (pieces.filterMap Piece.kept?).Sublist (pieces.flatMap Piece.arguments) := by
  induction pieces with
  | nil => exact .slnil
  | cons p rest ih =>
    cases p with
    | kept a => exact ih.cons_cons a
    | bare name => exact ih.cons _
    | valued name value => exact (ih.cons _).cons _

theorem lookup_parameters (pieces : List Piece) (key : String) :
    (pieces.filterMap Piece.parameter?).lookup key = pieces.findSome? (Piece.value? key) := by
  induction pieces with
  | nil => rfl
  | cons p rest ih =>
    cases own : p.parameter? with
    | none =>
      have none : p.value? key = none := by rw [Piece.value?, own]; rfl
      rw [List.filterMap_cons_none own, List.findSome?_cons, none, ih]
    | some given =>
      have value : p.value? key = if key = given.1 then some given.2 else none := by
        rw [Piece.value?, own]; rfl
      rw [List.filterMap_cons_some own, List.findSome?_cons, value, lookup_entry, ih]
      split <;> rfl

/-- What is found of a parameter is what the last piece for it gives. -/
theorem find?_dictionary_iff {s : Separated} {pieces : List Piece}
    (h : s.parameters = pieces.filterMap Piece.parameter?) {key value : String} :
    s.dictionary.find? key = some value ↔ ∃ before p after, pieces = before ++ p :: after ∧
      p.Gives key value ∧ ∀ later ∈ after, ∀ other, ¬ later.Gives key other := by
  simp only [Piece.not_gives_iff]
  simp only [Piece.gives_iff]
  -- the dictionary has what the first piece from behind gives
  rw [Separated.dictionary, find?_ofList, h, ← List.filterMap_reverse, lookup_parameters,
    List.findSome?_eq_some_iff]
  constructor
  · rintro ⟨after, p, before, cut, gives, none⟩
    refine ⟨before.reverse, p, after.reverse, ?_, gives, ?_⟩
    · rw [← List.reverse_reverse pieces, cut]
      simp
    · intro later behind
      exact none later (List.mem_reverse.1 behind)
  · rintro ⟨before, p, after, rfl, gives, none⟩
    refine ⟨after.reverse, p, before.reverse, by simp, gives, ?_⟩
    intro later behind
    exact none later (List.mem_reverse.1 behind)

/-! ## A loop over the arguments -/

/-- How far a loop over the arguments has come. -/
structure Walk where
  next : Nat := 0
  done : Separated := {}

/-- One turn of the loop looks at the next argument, and at the one behind it if it may be a value.
There is none behind the last argument. -/
def turn (arguments : List String) (p : Walk) : Option Walk :=
  arguments[p.next]?.map fun argument =>
    match parameterName? argument with
    | none => { next := p.next + 1, done := { p.done with kept := p.done.kept ++ [argument] } }
    | some name =>
      match arguments[p.next + 1]?.filter (!startsWithHyphen ·) with
      | some value =>
        { next := p.next + 2
          done := { p.done with parameters := p.done.parameters ++ [(name, value)] } }
      | none =>
        { next := p.next + 1
          done := { p.done with parameters := p.done.parameters ++ [(name, impliedValue)] } }

inductive Turns (arguments : List String) : Nat → Walk → Walk → Prop where
  | refl {p : Walk} : Turns arguments 0 p p
  | cons {n : Nat} {p q r : Walk} :
      turn arguments p = some q → Turns arguments n q r → Turns arguments (n + 1) p r

/-- Two parts of arguments that follow each other. -/
def Separated.append (s t : Separated) : Separated :=
  { kept := s.kept ++ t.kept, parameters := s.parameters ++ t.parameters }

section

variable {arguments : List String} {p q : Walk}

theorem turn_eq_none_iff : turn arguments p = none ↔ arguments.length ≤ p.next := by
  rw [turn, Option.map_eq_none_iff, List.getElem?_eq_none_iff]

theorem drop_of_getElem? {i : Nat} {a : String} (h : arguments[i]? = some a) :
    arguments.drop i = a :: arguments.drop (i + 1) := by
  obtain ⟨inside, own⟩ := List.getElem?_eq_some_iff.1 h
  rw [List.drop_eq_getElem_cons inside, own]

/-- A turn moves on inside the arguments, and what it takes is what `separate` takes first. -/
theorem turn_keeps (h : turn arguments p = some q) :
    p.next < q.next ∧ q.next ≤ arguments.length ∧
      q.done.append (separate (arguments.drop q.next)) =
        p.done.append (separate (arguments.drop p.next)) := by
  obtain ⟨argument, here, rfl⟩ := Option.map_eq_some_iff.1 h
  have inside := (List.getElem?_eq_some_iff.1 here).1
  rw [drop_of_getElem? here]
  cases own : parameterName? argument with
  | none =>
    refine ⟨Nat.lt_succ_self _, inside, ?_⟩
    rw [separate_kept own]
    simp [Separated.append, Separated.keep]
  | some name =>
    obtain rfl := parameterName?_eq_some_iff.1 own
    cases behind : arguments[p.next + 1]?.filter (!startsWithHyphen ·) with
    | some value =>
      obtain ⟨found, plain⟩ := Option.filter_eq_some_iff.1 behind
      have inside := (List.getElem?_eq_some_iff.1 found).1
      refine ⟨Nat.lt_add_of_pos_right (Nat.succ_pos 1), inside, ?_⟩
      rw [drop_of_getElem? found, separate_valued (by simpa using plain)]
      simp [Separated.append, Separated.give]
    | none =>
      have alone : ∀ next ∈ (arguments.drop (p.next + 1)).head?, startsWithHyphen next = true := by
        intro next found
        rw [List.head?_drop] at found
        simpa using Option.filter_eq_none_iff.1 behind next found
      refine ⟨Nat.lt_succ_self _, inside, ?_⟩
      rw [separate_bare alone]
      simp [Separated.append, Separated.give]

/-- From anywhere the loop reaches the end, in no more turns than there are arguments left. -/
theorem turns_from (p : Walk) (h : p.next ≤ arguments.length) :
    ∃ n ≤ arguments.length - p.next, Turns arguments n p
      ⟨arguments.length, p.done.append (separate (arguments.drop p.next))⟩ := by
  -- on the arguments that are left: a turn takes one of them at least
  induction left : arguments.length - p.next using Nat.strong_induction_on generalizing p with
  | _ left' ih =>
    cases taken : turn arguments p with
    | none =>
      have last : p.next = arguments.length := Nat.le_antisymm h (turn_eq_none_iff.1 taken)
      obtain ⟨next, done⟩ := p
      subst last
      refine ⟨0, Nat.zero_le _, ?_⟩
      simpa [separate, Separated.append] using Turns.refl
    | some q =>
      obtain ⟨further, inside, same⟩ := turn_keeps taken
      obtain ⟨n, bound, rest⟩ := ih (arguments.length - q.next) (by omega) q inside rfl
      rw [same] at rest
      exact ⟨n + 1, by omega, .cons taken rest⟩

end

/-! ## The parts of all arguments -/

/-- A format gets the parameters, whatever else it is asked for. -/
theorem lookup_chooseOptions {target : Target} {root : Option String} {inline strict : Bool}
    {s : Separated} {settings : Settings} {options : Options} {key value : String}
    (h : chooseOptions target root inline strict s.parameters settings = .ok options)
    (given : s.dictionary.find? key = some value) : options.lookup key = some value := by
  rw [Separated.dictionary, find?_ofList] at given
  have last (front : List (String × String)) :
      (Dictionary.ofList (front ++ s.parameters)).entries.lookup key = some value := by
    have found := find?_ofList (front ++ s.parameters) key
    rwa [List.reverse_append, List.lookup_append, given, Option.some_or] at found
  unfold chooseOptions at h
  split at h
  · cases h
    rw [← List.append_assoc]
    exact last _
  · split at h
    · cases h
    · cases h
      exact last _

/-- The pieces of some arguments and the parts that are read off them. -/
structure PiecesOf (arguments : List String) (s : Separated) (pieces : List Piece) : Prop where
  dissected : Dissected pieces
  /-- Every argument is in one piece. -/
  whole : pieces.flatMap Piece.arguments = arguments
  unique : ∀ others, Dissected others → others.flatMap Piece.arguments = arguments → others = pieces
  kept : s.kept = pieces.filterMap Piece.kept?
  /-- Of the pieces for one parameter the last one counts. -/
  given : ∀ key value, s.dictionary.find? key = some value ↔
    ∃ before p after, pieces = before ++ p :: after ∧ p.Gives key value ∧
      ∀ later ∈ after, ∀ other, ¬ later.Gives key other

/-- How arguments are accounted for. -/
structure Accounted (arguments : List String) (s : Separated) : Prop where
  /-- A loop over them ends with these parts, behind the last argument. -/
  loop : ∃ n ≤ arguments.length, Turns arguments n {} ⟨arguments.length, s⟩ ∧
    turn arguments ⟨arguments.length, s⟩ = none
  pieces : ∃ pieces, PiecesOf arguments s pieces
  sublist : s.kept.Sublist arguments
  unmarked : ∀ a ∈ s.kept, ¬ Marked a
  again : (separate s.kept).kept = s.kept ∧ (separate s.kept).dictionary = .empty
  passed : ∀ target root inline strict settings options,
    chooseOptions target root inline strict s.parameters settings = .ok options →
      ∀ key value, s.dictionary.find? key = some value → options.lookup key = some value

/-- No argument is lost, whatever the arguments are. -/
theorem separate_accounts (arguments : List String) : Accounted arguments (separate arguments) := by
  obtain ⟨pieces, cut, whole⟩ := exists_dissected arguments
  have parts := separate_flatMap cut
  rw [whole] at parts
  have unmarked : ∀ a ∈ (separate arguments).kept, ¬ Marked a := by
    rw [parts]
    exact cut.unmarked
  refine ⟨?loop, ⟨pieces, cut, whole, ?unique, ?kept, ?given⟩, ?sublist, unmarked, ?again, ?passed⟩
  case loop =>
    obtain ⟨n, bound, turns⟩ := @turns_from arguments {} (Nat.zero_le _)
    refine ⟨n, bound, ?_, turn_eq_none_iff.2 (Nat.le_refl _)⟩
    simpa [Separated.append] using turns
  case unique =>
    intro others cut' whole'
    exact cut'.unique cut (whole'.trans whole.symm)
  case kept => rw [parts]
  case given =>
    intro key value
    exact find?_dictionary_iff (by rw [parts])
  case sublist =>
    rw [parts, ← whole]
    exact sublist_kept pieces
  case again =>
    rw [separate_of_unmarked unmarked]
    exact ⟨rfl, rfl⟩
  case passed =>
    intro target root inline strict settings options chosen key value
    exact lookup_chooseOptions chosen

/-- Two parameters in a row, a value that would be a number below zero, a parameter again, and one
at the end. -/
example : separate ["m.md", "--extra-a", "--extra-b", "-1", "--extra-a", "x", "y", "--extra-"] =
    { kept := ["m.md", "-1", "y"]
      parameters := [("a", "true"), ("b", "true"), ("a", "x"), ("", "true")] } := by
  decide

end CommandLine
end DocModel
