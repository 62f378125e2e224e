import Mathlib.Data.List.Basic
import Mathlib.Data.UInt
import Mathlib.Tactic.Common

/-!
# Paths on Unix

A path is a list of bytes. Its components are the pieces between slashes, without the
empty ones and without those that name the directory itself, unless the path begins with
one. A path of plain names only leads from a directory to what is below it.
-/

namespace UnixPath

/-- The name of a file or a directory. -/
abbrev Name := List UInt8

def slash : UInt8 := 0x2F

def dot : UInt8 := 0x2E

inductive Component where
  | rootDir
  | curDir
  | parentDir
  | normal (name : Name)
deriving DecidableEq

/-- What stands between two slashes. -/
def pieces (path : List UInt8) : List Name := path.splitOn slash

/-- A piece that is not the first one. -/
def component (piece : Name) : Option Component :=
  if piece = [] ∨ piece = [dot] then none
  else if piece = [dot, dot] then some .parentDir
  else some (.normal piece)

def isAbsolute (path : List UInt8) : Bool := path.head? = some slash

/-- The components in front of the pieces. -/
def start (path : List UInt8) : List Component :=
  if isAbsolute path then [.rootDir]
  else if (pieces path).head? = some [dot] then [.curDir]
  else []

def components (path : List UInt8) : List Component :=
  start path ++ (pieces path).filterMap component

/-- The pieces that are not passed over. -/
def names (path : List UInt8) : List Name :=
  (pieces path).filter fun piece => piece ≠ [] ∧ piece ≠ [dot]

/-- One step from a directory, given by the names that lead to it from the root. -/
def enter (directory : List Name) : Component → List Name
  | .rootDir => []
  | .curDir => directory
  | .parentDir => directory.dropLast
  | .normal name => directory ++ [name]

/-- Where a path leads from a directory, if nothing on the way is a link. -/
def resolve (directory : List Name) (path : List UInt8) : List Name :=
  (components path).foldl enter directory

/-- The path does not leave the directory that it starts from. -/
structure Plain (path : List UInt8) : Prop where
  relative : isAbsolute path = false
  head_ne : (pieces path).head? ≠ some [dot]
  parent_not_mem : [dot, dot] ∉ pieces path

section Components

variable {path : List UInt8} {piece : Name}

/-- A piece is a name unless it is empty or one of the two dots. -/
theorem component_eq_normal_iff {name : Name} : component piece = some (.normal name) ↔
    piece = name ∧ name ≠ [] ∧ name ≠ [dot] ∧ name ≠ [dot, dot] := by
  unfold component
  split_ifs with skipped parent
  · constructor
    · intro same
      cases same
    · rintro ⟨rfl, notEmpty, notDot, _⟩
      exact (skipped.elim notEmpty notDot).elim
  · constructor
    · intro same
      cases same
    · rintro ⟨rfl, _, _, notParent⟩
      exact (notParent parent).elim
  · rw [not_or] at skipped
    simp only [Option.some.injEq, Component.normal.injEq]
    constructor
    · rintro rfl
      exact ⟨rfl, skipped.1, skipped.2, parent⟩
    · exact And.left

/-- A path is plain if all of its components are names. -/
theorem plain_iff : Plain path ↔
    ∀ component ∈ components path, ∃ name, component = .normal name := by
  constructor
  · rintro ⟨relative, headNe, parentNotMem⟩ found member
    simp only [components, start, relative, headNe, Bool.false_eq_true, if_false, List.nil_append,
      List.mem_filterMap] at member
    rcases member with ⟨piece, inPath, same⟩
    unfold component at same
    split_ifs at same with skipped parent
    · rw [parent] at inPath
      exact (parentNotMem inPath).elim
    · exact ⟨piece, (Option.some.inj same).symm⟩
  · intro normal
    have started : ∀ found ∈ start path, ∃ name, found = .normal name :=
      fun found member => normal found (List.mem_append_left _ member)
    have relative : isAbsolute path = false := by
      by_contra absolute
      rw [Bool.not_eq_false] at absolute
      simp [start, absolute] at started
    refine ⟨relative, ?_, ?_⟩
    · intro same
      simp [start, relative, same] at started
    · intro member
      have parent : component [dot, dot] = some .parentDir := by
        simp [component]
      have found := List.mem_filterMap.mpr ⟨_, member, parent⟩
      rcases normal _ (List.mem_append_right _ found) with ⟨name, same⟩
      cases same

/-- The components of a plain path are its names. -/
theorem Plain.components_eq (plain : Plain path) :
    components path = (names path).map .normal := by
  rcases plain with ⟨relative, headNe, parentNotMem⟩
  simp only [components, start, relative, headNe, Bool.false_eq_true, if_false, List.nil_append,
    names]
  generalize pieces path = all at parentNotMem
  clear headNe
  induction all with
  | nil => rfl
  | cons piece all ih =>
      rw [List.mem_cons, not_or] at parentNotMem
      have rest := ih parentNotMem.2
      by_cases skipped : piece = [] ∨ piece = [dot]
      · have kept : ¬(piece ≠ [] ∧ piece ≠ [dot]) := by
          rwa [← not_or, not_not]
        rw [List.filterMap_cons_none (by simp [component, skipped]),
          List.filter_cons_of_neg (by simpa using kept), rest]
      · have kept : piece ≠ [] ∧ piece ≠ [dot] := not_or.mp skipped
        have named : component piece = some (.normal piece) :=
          component_eq_normal_iff.mpr ⟨rfl, kept.1, kept.2, Ne.symm parentNotMem.1⟩
        rw [List.filterMap_cons_some named, List.filter_cons_of_pos (by simpa using kept),
          List.map_cons, rest]

/-- A plain path leads to what is below the directory. -/
theorem Plain.resolve_eq (plain : Plain path) (directory : List Name) :
    resolve directory path = directory ++ names path := by
  rw [resolve, plain.components_eq]
  generalize names path = all
  induction all generalizing directory with
  | nil => simp
  | cons name all ih =>
      rw [List.map_cons, List.foldl_cons, enter, ih]
      simp

/-- A plain path has a name unless it is empty. -/
theorem Plain.names_ne_nil (plain : Plain path) (notEmpty : path ≠ []) : names path ≠ [] := by
  rcases path with _ | ⟨byte, rest⟩
  · exact (notEmpty rfl).elim
  · rcases split : pieces (byte :: rest) with _ | ⟨first, others⟩
    · exact (List.splitOn_ne_nil slash (byte :: rest) split).elim
    · have firstNe : first ≠ [] := by
        rintro rfl
        have whole := @List.intercalate_splitOn _ (byte :: rest) _ _ slash
        rw [show (byte :: rest).splitOn slash = [] :: others from split] at whole
        have relative := plain.relative
        cases others with
        | nil => simp [List.intercalate] at whole
        | cons second others =>
            rw [List.intercalate_cons_cons, List.nil_append, List.singleton_append,
              List.cons.injEq] at whole
            simp [isAbsolute, ← whole.1] at relative
      have notDot : first ≠ [dot] := by
        have headNe := plain.head_ne
        rw [split] at headNe
        simpa using headNe
      intro none
      rw [names, split, List.filter_eq_nil_iff] at none
      have skipped := none first (by simp)
      simp [firstNe, notDot] at skipped

end Components

end UnixPath
