import DocModel.Files.Path
import DocModel.Proofs.Splitting

/-!
# DocModel.Proofs.Files.Paths

The path around a path, read off its characters from behind, is the path without its last move.

* `movesOf`: the steps of a text that lead anywhere, piece by piece;
* `exists_parted`: the characters that the path around a path leaves out;
* `exists_move_of_parent?`: the move that it leaves out;
* `ancestors_eq`, `ancestors_induction`: a path and all those around it.
-/

namespace DocModel
namespace Path

open Text

/-! ## Moves -/

/-- The steps of a text that lead anywhere. -/
def movesOf (cs : List Char) : List Step :=
  (((splitOn '/' cs).filter (!·.isEmpty)).map Step.ofText).filter (· ≠ .stay)

/-- The steps of a path that lead anywhere. -/
def moves (path : String) : List Step := movesOf path.toList

theorem moves_eq (path : String) : moves path = (steps path).filter (· ≠ .stay) := rfl

theorem movesOf_append (before after : List Char) :
    movesOf (before ++ '/' :: after) = movesOf before ++ movesOf after := by
  simp only [movesOf, splitOn_append_cons, List.filter_append, List.map_append]

/-- A piece of a text is a move, unless it is empty or a dot. -/
theorem movesOf_piece {cs : List Char} (h : '/' ∉ cs) (hne : cs ≠ []) (hdot : cs ≠ ['.']) :
    movesOf cs = [Step.ofText cs] := by
  have one : splitOn '/' cs = [cs] :=
    splitWhere_of_forall fun c mem => beq_eq_false_iff_ne.2 fun same => h (same ▸ mem)
  have goes : Step.ofText cs ≠ .stay := by
    rw [Step.ofText, if_neg hdot]
    split <;> exact Step.noConfusion
  simp [movesOf, one, hne, goes]

/-- Slashes and dots at the end of a text are no moves. -/
theorem movesOf_trimBack (cs : List Char) : movesOf (trimBack cs).reverse = movesOf cs.reverse := by
  induction cs using trimBack.induct with
  | case1 rest ih =>
    rw [trimBack, ih, List.reverse_cons, movesOf_append]
    exact (List.append_nil _).symm
  | case2 rest ih =>
    have dot : movesOf ['.'] = [] := by decide
    rw [trimBack, ih, List.reverse_cons, List.reverse_cons, List.append_assoc,
      List.singleton_append, movesOf_append, dot, List.append_nil]
  | case3 cs noSlash noDot => rw [trimBack.eq_3 cs noSlash noDot]

theorem trimBack_suffix (cs : List Char) : trimBack cs <:+ cs := by
  induction cs using trimBack.induct with
  | case1 rest ih => exact ih.trans (List.suffix_cons _ _)
  | case2 rest ih => exact ih.trans ((List.suffix_cons _ _).trans (List.suffix_cons _ _))
  | case3 cs noSlash noDot => exact ⟨[], trimBack.eq_3 cs noSlash noDot⟩

/-- What is trimmed away altogether ends in a slash, which is at the start of the path. -/
theorem getLast?_of_trimBack {cs : List Char} (h : trimBack cs = []) (hne : cs ≠ []) :
    cs.getLast? = some '/' := by
  induction cs using trimBack.induct with
  | case1 rest ih =>
    cases rest with
    | nil => rfl
    | cons c more => exact ih h (List.cons_ne_nil c more)
  | case2 rest ih =>
    cases rest with
    | nil => rfl
    | cons c more => exact ih h (List.cons_ne_nil c more)
  | case3 cs noSlash noDot =>
    rw [trimBack.eq_3 cs noSlash noDot] at h
    exact absurd h hne

theorem trimBack_stops (cs rest : List Char) :
    trimBack cs ≠ '/' :: rest ∧ trimBack cs ≠ '.' :: '/' :: rest := by
  induction cs using trimBack.induct with
  | case1 _ ih => exact ih
  | case2 _ ih => exact ih
  | case3 cs noSlash noDot =>
    rw [trimBack.eq_3 cs noSlash noDot]
    exact ⟨noSlash rest, noDot rest⟩

/-! ## The path around a path -/

/-- A path from behind is its last piece and what stands before it, with the slash first. The path
around it is what stands before, without slashes and dots at the end. -/
structure Parted (path parent : String) (last rest : List Char) : Prop where
  /-- They make up the path. -/
  body : trimBack path.toList.reverse = last ++ rest
  piece : last ≠ []
  whole : '/' ∉ last
  /-- A slash parts it from what stands before it. -/
  slash : ∀ c more, rest = c :: more → c = '/'
  parent_eq : parent =
    if (trimBack rest).isEmpty && !rest.isEmpty then "/" else String.ofList (trimBack rest).reverse

theorem exists_parted {path parent : String} (h : parent? path = some parent) :
    ∃ last rest, Parted path parent last rest := by
  simp only [parent?] at h
  split at h
  · cases h
  · next filled =>
    generalize body : trimBack path.toList.reverse = cs at h filled
    refine ⟨cs.takeWhile (· != '/'), cs.dropWhile (· != '/'), ?body, ?piece, ?whole, ?slash, ?eq⟩
    case body => rw [List.takeWhile_append_dropWhile, body]
    case piece =>
      cases cs with
      | nil => simp at filled
      | cons c more =>
        have other : c ≠ '/' := fun same => (trimBack_stops _ more).1 (same ▸ body)
        simp [other]
    case whole =>
      intro mem
      simpa using List.mem_takeWhile_imp mem
    case slash =>
      intro c more same
      have first := List.head?_dropWhile_not (· != '/') cs
      rw [same] at first
      simpa using first
    case eq =>
      split at h
      · next emptied => rw [if_pos emptied, Option.some.inj h]
      · next kept => rw [if_neg kept, Option.some.inj h]

namespace Parted

variable {path parent : String} {last rest : List Char}

theorem moves_path (h : Parted path parent last rest) :
    moves path = movesOf (last ++ rest).reverse := by
  have trimmed := movesOf_trimBack path.toList.reverse
  rw [h.body, List.reverse_reverse] at trimmed
  exact trimmed.symm

/-- Without anything before the last piece the path around it is empty. -/
theorem rest_ne_nil (h : Parted path parent last rest) (named : parent ≠ "") : rest ≠ [] := by
  rintro rfl
  exact named h.parent_eq

theorem moves_parent (h : Parted path parent last rest) : moves parent = movesOf rest.reverse := by
  rw [h.parent_eq, ← movesOf_trimBack]
  split
  · next emptied =>
    have nothing : trimBack rest = [] := List.isEmpty_iff.1 (Bool.and_eq_true_iff.1 emptied).1
    rw [nothing]
    decide
  · rw [moves, String.toList_ofList]

theorem exists_move (h : Parted path parent last rest) (named : parent ≠ "") :
    ∃ step, moves path = moves parent ++ [step] := by
  obtain ⟨c, before, rfl⟩ := List.exists_cons_of_ne_nil (h.rest_ne_nil named)
  obtain rfl := h.slash c before rfl
  -- a dot as the last piece would have been trimmed with its slash
  have move : last.reverse ≠ ['.'] := by
    intro dot
    rw [List.reverse_eq_iff] at dot
    exact (trimBack_stops _ before).2 (by rw [h.body, dot]; rfl)
  have piece := movesOf_piece (by simpa using h.whole) (by simpa using h.piece) move
  have around : movesOf ('/' :: before).reverse = movesOf before.reverse := by
    rw [List.reverse_cons, movesOf_append]
    exact List.append_nil _
  refine ⟨Step.ofText last.reverse, ?_⟩
  rw [h.moves_path, h.moves_parent, around, ← piece, ← movesOf_append]
  simp

theorem suffix_path (h : Parted path parent last rest) : last ++ rest <:+ path.toList.reverse :=
  h.body ▸ trimBack_suffix path.toList.reverse

theorem isAbsolute_parent (h : Parted path parent last rest) (named : parent ≠ "") :
    isAbsolute parent = isAbsolute path := by
  have nonempty := h.rest_ne_nil named
  obtain ⟨before, reversed⟩ := (List.suffix_append last rest).trans h.suffix_path
  have text : path.toList = rest.reverse ++ before.reverse := by
    rw [← List.reverse_append, reversed, List.reverse_reverse]
  -- both paths start with the character that comes last from behind
  have first : path.toList.head? = rest.getLast? := by
    rw [text, List.head?_append_of_ne_nil _ (by simpa using nonempty), List.head?_reverse]
  rw [isAbsolute, isAbsolute, first]
  by_cases nothing : trimBack rest = []
  · have slash : parent = "/" := by simpa [nothing, nonempty] using h.parent_eq
    rw [getLast?_of_trimBack nothing nonempty, slash]
    decide
  · have cut : parent = String.ofList (trimBack rest).reverse := by
      simpa [nothing] using h.parent_eq
    obtain ⟨trimmed, same⟩ := trimBack_suffix rest
    have ends : rest.getLast? = (trimBack rest).getLast? := by
      rw [← List.getLast?_append_of_ne_nil trimmed nothing, same]
    rw [cut, String.toList_ofList, List.head?_reverse, ends]

theorem length_parent (h : Parted path parent last rest) : parent.length < path.length := by
  have all := h.suffix_path.length_le
  have piece := List.length_pos_iff.2 h.piece
  have trimmed := (trimBack_suffix rest).length_le
  rw [List.length_append, List.length_reverse, String.length_toList] at all
  rw [h.parent_eq]
  split
  · next emptied =>
    have nonempty : rest ≠ [] := by
      rintro rfl
      simp at emptied
    have some := List.length_pos_iff.2 nonempty
    have one : "/".length = 1 := by decide
    omega
  · rw [String.length_ofList, List.length_reverse]
    omega

end Parted

theorem exists_move_of_parent? {path parent : String} (h : parent? path = some parent)
    (named : parent ≠ "") :
    isAbsolute parent = isAbsolute path ∧ ∃ step, moves path = moves parent ++ [step] := by
  obtain ⟨_, _, parted⟩ := exists_parted h
  exact ⟨parted.isAbsolute_parent named, parted.exists_move named⟩

theorem length_of_parent? {path parent : String} (h : parent? path = some parent) :
    parent.length < path.length := by
  obtain ⟨_, _, parted⟩ := exists_parted h
  exact parted.length_parent

/-- A path that is not empty has a step, unless it is the root. -/
theorem steps_ne_nil_or {path : String} (named : path ≠ "") :
    steps path ≠ [] ∨ isAbsolute path = true := by
  cases text : path.toList with
  | nil => exact absurd (String.toList_eq_nil_iff.1 text) named
  | cons c rest =>
    by_cases slash : c = '/'
    · refine .inr ?_
      rw [isAbsolute, text, slash]
      rfl
    · refine .inl ?_
      have other : (c == '/') = false := beq_eq_false_iff_ne.2 slash
      rw [steps, text, splitOn, splitWhere, if_neg (by simp [other])]
      cases pieces : splitWhere (· == '/') rest with
      | nil => exact absurd pieces (splitWhere_ne_nil _ _)
      | cons piece more => simp

/-! ## All paths around a path -/

theorem ancestorsFrom_eq {fuel more : Nat} {path : String} (h : path.length < fuel)
    (hm : path.length < more) : ancestorsFrom fuel path = ancestorsFrom more path := by
  induction fuel generalizing more path with
  | zero => omega
  | succ fuel ih =>
    cases more with
    | zero => omega
    | succ more =>
      rw [ancestorsFrom, ancestorsFrom]
      split
      · rfl
      · cases around : parent? path with
        | none => rfl
        | some parent =>
          have shorter := length_of_parent? around
          exact congrArg (path :: ·) (ih (by omega) (by omega))

theorem ancestors_empty : ancestors "" = [] := rfl

/-- A path lies in these directories; none of them is the path itself. -/
def surroundings (path : String) : List String := ((parent? path).map ancestors).getD []

theorem ancestors_eq {path : String} (named : path ≠ "") :
    ancestors path = path :: surroundings path := by
  rw [ancestors, ancestorsFrom, if_neg (by simpa using named), surroundings]
  cases around : parent? path with
  | none => rfl
  | some parent =>
    have shorter := length_of_parent? around
    exact congrArg (path :: ·) (ancestorsFrom_eq (by omega) (Nat.lt_succ_self _))

example : ancestors "./out//new/../a.json" =
    ["./out//new/../a.json", "./out//new/..", "./out//new", "./out", "."] := by
  decide +kernel

/-- What holds of a path, and of the path around every path of which it holds, holds of all. -/
theorem ancestors_induction {p : String → Prop} {path : String} (here : p path)
    (around : ∀ inner parent, p inner → parent? inner = some parent → parent ≠ "" → p parent) :
    ∀ other ∈ ancestors path, p other := by
  generalize size : path.length = n
  induction n using Nat.strongRecOn generalizing path with
  | ind n ih =>
    intro other mem
    by_cases named : path = ""
    · rw [named, ancestors_empty] at mem
      cases mem
    · rw [ancestors_eq named, List.mem_cons, surroundings] at mem
      rcases mem with rfl | mem
      · exact here
      · cases known : parent? path with
        | none => simp [known] at mem
        | some parent =>
          rw [known] at mem
          by_cases empty : parent = ""
          · rw [empty] at mem
            cases mem
          · exact ih parent.length (size ▸ length_of_parent? known)
              (around path parent here known empty) rfl other mem

end Path
end DocModel
