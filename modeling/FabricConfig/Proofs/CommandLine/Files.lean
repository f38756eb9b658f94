import FabricConfig.CommandLine.FileTree
import FabricConfig.Proofs.Outcome
/-!
# Files that a run can count on

What a run does is told for all files that are faithful: looking at them and reading them changes
nothing, and writing one changes it alone, or nothing if it fails. What stands at a place does not
matter, nor why reading or writing fails.

* `FileView`, `FileView.Wrote`: what stands where, and what one file more makes of it.
* `FileAccess.IsFaithful`: files that a run can count on.
* `FileTree.locate_of_locateTarget`: a path that is written leads to the same place as one that is
  read.
* `FileTree.isFaithful_access`: trees of files are faithful.
-/

namespace FabricConfig

/-! ### Views -/

/-- The places of files, and what stands there, as far as a state of the files tells. -/
structure FileView (State Place : Type) where
  /-- The place that a path leads to. -/
  place? : State → String → Option Place
  node? : State → Place → Option FileNode

variable {State Place : Type}

/-- A text is the content of the file at a path, and everything else is as it was. -/
def FileView.Wrote (view : FileView State Place) (path text : String) (before after : State) :
    Prop :=
  ∃ place, view.place? before path = some place ∧
    view.node? after place = some (.file (some text)) ∧
    ∀ other, other ≠ place → view.node? after other = view.node? before other

/-- Files that a run can count on. -/
structure FileAccess.IsFaithful (files : FileAccess (StateM State))
    (view : FileView State Place) : Prop where
  isFile : ∀ path state, ((files.isFile path).run state).2 = state
  isDirectory : ∀ path state, ((files.isDirectory path).run state).2 = state
  read : ∀ path state, ((files.read path).run state).2 = state
  failedWrite : ∀ path text state reason,
    ((files.write path text).run state).1 = .error reason →
      ((files.write path text).run state).2 = state
  write : ∀ path text state, ((files.write path text).run state).1 = .ok () →
    view.Wrote path text state ((files.write path text).run state).2

namespace FileTree

/-! ### Paths -/

variable {tree : FileTree} {reached names : List String} {path name : String}

/-- Where there is no directory, no name leads further, whichever it is. -/
theorem follow_cons_congr (other : tree.node? reached ≠ some .directory)
    (first second : String) (rest further : List String) :
    tree.follow reached (first :: rest) = tree.follow reached (second :: further) := by
  rw [follow, follow]
  split
  · rfl
  · rfl
  · rename_i there
    exact absurd there other

/-- A path is followed name by name. -/
theorem follow_cons (tree : FileTree) (reached : List String) (name : String)
    (rest : List String) :
    tree.follow reached (name :: rest) =
      tree.follow reached [name] >>= fun place => tree.follow place rest := by
  simp only [follow]
  split
  · rfl
  · rfl
  · split
    · rfl
    · split
      · rfl
      · split <;> rfl

theorem follow_append (tree : FileTree) (reached front rear : List String) :
    tree.follow reached (front ++ rear) =
      tree.follow reached front >>= fun place => tree.follow place rear := by
  induction front generalizing reached with
  | nil => rfl
  | cons name front ih =>
    rw [List.cons_append, follow_cons, follow_cons tree reached name front, bind_assoc]
    congr 1
    funext place
    exact ih place

/-- Empty names, from slashes side by side, lead nowhere else. -/
theorem follow_filter (tree : FileTree) (reached front : List String) (last : String) :
    tree.follow reached (front.filter (· ≠ "") ++ [last]) =
      tree.follow reached (front ++ [last]) := by
  induction front generalizing reached with
  | nil => rfl
  | cons name front ih =>
    by_cases empty : name = ""
    · subst empty
      rw [List.filter_cons_of_neg (by simp), ih, List.cons_append]
      -- An empty name stays where it is. It needs a directory there, as the next name does.
      by_cases there : tree.node? reached = some .directory
      · rw [follow, there]
        simp
      · obtain ⟨first, rest, shape⟩ := List.exists_cons_of_ne_nil
          (List.append_ne_nil_of_right_ne_nil front (List.cons_ne_nil last []))
        rw [shape]
        exact follow_cons_congr there _ _ _ _
    · rw [List.filter_cons_of_pos (by simpa using empty), List.cons_append, List.cons_append,
        follow_cons, follow_cons tree reached name (front ++ [last])]
      congr 1
      funext place
      exact ih place

/-- The last piece of a text that does not end in a slash. -/
theorem exists_splitOn_eq {text : List Char} (nonempty : text ≠ [])
    (ends : text.getLast? ≠ some '/') :
    ∃ front last, text.splitOn '/' = front ++ [last] ∧ last ≠ [] := by
  induction text with
  | nil => exact absurd rfl nonempty
  | cons c text ih =>
    rw [List.splitOn_cons_eq_if_modifyHead]
    by_cases last : text = []
    · subst last
      have other : c ≠ '/' := fun same => ends (by simp [same])
      exact ⟨[], [c], by simp [other], by simp⟩
    · rw [List.getLast?_cons_of_ne_nil last] at ends
      obtain ⟨front, piece, pieces, filled⟩ := ih last ends
      rw [pieces]
      by_cases slash : c = '/'
      · exact ⟨[] :: front, piece, by simp [slash], filled⟩
      · cases front with
        | nil => exact ⟨[], c :: piece, by simp [slash], by simp⟩
        | cons first front => exact ⟨(c :: first) :: front, piece, by simp [slash], filled⟩

/-- The last name of a path that does not end in a slash. -/
theorem exists_pathNames_eq (named : path ≠ "") (ends : path.toList.getLast? ≠ some '/') :
    ∃ front name, pathNames path = front ++ [name] ∧ name ≠ "" := by
  obtain ⟨front, last, pieces, filled⟩ := exists_splitOn_eq (by simpa using named) ends
  refine ⟨front.map String.ofList, String.ofList last, ?_, by simpa using filled⟩
  rw [pathNames, pieces, List.map_append, List.map_singleton]

theorem ne_empty_of_checkPath (checked : checkPath path = .ok ()) : path ≠ "" := by
  rintro rfl
  cases checked

/-- A path by which a file may be written, with its last name. -/
structure IsTarget (path name : String) : Prop where
  checked : checkPath path = .ok ()
  ends : path.toList.getLast? ≠ some '/'
  plain : name ≠ "." ∧ name ≠ ".."
  short : ¬ maxNameLength < name.utf8ByteSize

theorem exists_of_locateTarget (target : tree.locateTarget path = .ok names) :
    ∃ around,
      tree.follow (tree.origin path) (((pathNames path).filter (· ≠ "")).dropLast ++ ["."]) =
        .ok around ∧
      IsTarget path (((pathNames path).filter (· ≠ "")).getLastD ".") ∧
      names = around ++ [((pathNames path).filter (· ≠ "")).getLastD "."] := by
  obtain ⟨⟨⟩, checked, rest⟩ := bind_eq_ok_iff.mp target
  obtain ⟨around, followed, rest⟩ := bind_eq_ok_iff.mp rest
  dsimp only at rest
  split at rest
  · cases rest
  · rename_i plain
    split at rest
    · cases rest
    · rename_i short
      split at rest
      · cases rest
      · cases rest
        simp only [not_or] at plain
        exact ⟨around, followed, ⟨checked, plain.1, plain.2, short⟩, rfl⟩

/-- **A path that is written leads to the same place as one that is read.** -/
theorem locate_of_locateTarget (target : tree.locateTarget path = .ok names) :
    tree.locate path = .ok names := by
  obtain ⟨around, followed, isTarget, rfl⟩ := exists_of_locateTarget target
  obtain ⟨front, name, all, filled⟩ :=
    exists_pathNames_eq (ne_empty_of_checkPath isTarget.checked) isTarget.ends
  have kept : (pathNames path).filter (· ≠ "") = front.filter (· ≠ "") ++ [name] := by
    rw [all, List.filter_append]
    simp [filled]
  rw [kept, List.dropLast_concat, follow_append] at followed
  rw [kept, List.getLastD_concat] at isTarget ⊢
  obtain ⟨place, led, here⟩ := bind_eq_ok_iff.mp followed
  rw [locate, isTarget.checked, all, ← follow_filter, follow_append]
  show tree.follow _ _ >>= _ = _
  rw [led]
  show tree.follow place [name] = _
  rw [follow] at here ⊢
  cases there : tree.node? place with
  | none =>
    rw [there] at here
    cases here
  | some node =>
    rw [there] at here
    cases node with
    | file content => cases here
    | directory =>
      simp [follow] at here
      simp [filled, isTarget.plain, isTarget.short, follow, here]

/-! ### Files of a tree -/

/-- What stands where in a tree of files. -/
def view : FileView FileTree (List String) where
  place? tree path := (tree.locate path).toOption
  node? := node?

/-- A file that is written is there, and everything else is as it was. -/
theorem wrote_write {text : String} {after : FileTree}
    (written : tree.write path text = (.ok (), after)) : view.Wrote path text tree after := by
  unfold write at written
  split at written
  · cases written
  · rename_i names target
    cases written
    obtain ⟨around, _, _, names_eq⟩ := exists_of_locateTarget target
    have below : names ≠ [] := by simp [names_eq]
    refine ⟨names, ?_, ?_, fun other different => ?_⟩
    · show (tree.locate path).toOption = some names
      rw [locate_of_locateTarget target]
      rfl
    · show node? _ names = _
      rw [node?, if_neg below]
      exact Std.ExtTreeMap.getElem?_insert_self
    · show node? _ other = node? tree other
      rw [node?, node?, Std.ExtTreeMap.getElem?_insert]
      congr 1
      exact if_neg (by simpa using Ne.symm different)

/-- **Trees of files are faithful.** -/
theorem isFaithful_access : access.IsFaithful view where
  isFile path state := rfl
  isDirectory path state := rfl
  read path state := rfl
  failedWrite path text state reason failed := by
    show (state.write path text).2 = state
    have failed : (state.write path text).1 = .error reason := failed
    unfold FileTree.write at failed ⊢
    split
    · rfl
    · rename_i found
      rw [found] at failed
      cases failed
  write path text state written := wrote_write (Prod.ext written rfl)

end FileTree

end FabricConfig
