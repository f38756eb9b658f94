import FabricConfig.Proofs.Text.Cutting
import FabricConfig.Text.Lines
/-!
# Lines

* `lines_unlines`: lines that are ended by line feeds are found again.
* `notMem_of_mem_lines`: no line holds a line feed.
-/

namespace FabricConfig.Text

/-- A text that stands on one line: it holds no line feed, and no carriage return at its end that
would be taken for a part of the line end. -/
def IsLine (text : List Char) : Prop := '\n' ∉ text ∧ text.getLast? ≠ some '\r'

instance (text : List Char) : Decidable (IsLine text) := inferInstanceAs (Decidable (_ ∧ _))

theorem IsTrimmed.isLine {text : List Char} (trimmed : IsTrimmed text) (absent : '\n' ∉ text) :
    IsLine text := ⟨absent, trimmed.getLast?_ne⟩

/-- A part in front without line feeds leaves a line a line. -/
theorem IsLine.append {text rest : List Char} (line : IsLine rest) (absent : '\n' ∉ text)
    (kept : text.getLast? ≠ some '\r') : IsLine (text ++ rest) := by
  refine ⟨fun member => ?_, ?_⟩
  · rcases List.mem_append.mp member with early | late
    · exact absent early
    · exact line.1 late
  · rw [List.getLast?_append]
    cases final : rest.getLast? with
    | none => exact kept
    | some c =>
      rw [Option.some_or, ← final]
      exact line.2

/-- Each line feed of the written lines ends a piece, and nothing follows the last. -/
theorem splitOn_unlines {written : List (List Char)} (lines : ∀ line ∈ written, IsLine line) :
    (unlines written).splitOn '\n' = written ++ [[]] := by
  induction written with
  | nil => exact List.splitOn_nil '\n'
  | cons line written ih =>
    rw [unlines, List.flatMap_cons, List.append_assoc]
    rw [List.singleton_append, List.splitOn_append_cons_self_of_not_mem
      (lines line List.mem_cons_self).1]
    exact congrArg (line :: ·) (ih fun other member => lines other (List.mem_cons_of_mem _ member))

theorem lines_unlines {written : List (List Char)} (each : ∀ line ∈ written, IsLine line) :
    lines (unlines written) = written := by
  have whole : written.map dropCarriageReturn = written :=
    (List.map_congr_left fun line member => if_neg (each line member).2).trans (List.map_id _)
  unfold lines
  simp only [splitOn_unlines each, List.dropLast_concat, List.getLast?_concat, whole]

theorem notMem_of_mem_lines {text line : List Char} (member : line ∈ lines text) :
    '\n' ∉ line := by
  have piece : ∀ piece ∈ text.splitOn '\n', '\n' ∉ piece := by
    intro piece inside feed
    rw [List.splitOn_eq_splitOnP] at inside
    exact absurd (not_cut_of_mem_splitOnP inside '\n' feed) (by decide)
  have finished : ∀ line ∈ (text.splitOn '\n').dropLast.map dropCarriageReturn, '\n' ∉ line := by
    intro line inside feed
    obtain ⟨whole, wholeMember, rfl⟩ := List.mem_map.mp inside
    refine piece whole ((List.dropLast_sublist _).subset wholeMember) ?_
    unfold dropCarriageReturn at feed
    split at feed
    · exact (List.dropLast_sublist _).subset feed
    · exact feed
  unfold lines at member
  dsimp only at member
  split at member
  · exact finished line member
  · exact finished line member
  · rename_i last _ found
    rcases List.mem_append.mp member with early | late
    · exact finished line early
    · rw [List.mem_singleton.mp late]
      exact piece last (List.mem_of_mem_getLast? found)

end FabricConfig.Text
