import Elevation.Text.Blank
import Mathlib

/-!
Cutting a text into lines. Where lines that hold nothing but blanks are left out, it makes no
difference whether a carriage return and a line feed end one line or two, so that each break can be
looked at by itself.
-/

namespace Elevation.Text

def filled (lines : List (List Char)) : List (List Char) := lines.filter fun line => !allBlank line

def IsOpen (text : List Char) : Prop := ∀ c ∈ text, isLineBreak c = false

instance (text : List Char) : Decidable (IsOpen text) := List.decidableBAll _ text

variable {line text rest : List Char} {c : Char}

theorem isBlank_of_isLineBreak (ends : isLineBreak c = true) : isBlank c = true := by
  simp only [isLineBreak, Bool.or_eq_true, Bool.and_eq_true, decide_eq_true_eq, beq_iff_eq] at ends
  simp only [isBlank, Bool.or_eq_true, Bool.and_eq_true, decide_eq_true_eq, beq_iff_eq]
  omega

theorem isOpen_of_solid (solid : ∀ c ∈ text, isBlank c = false) : IsOpen text := by
  intro c present
  rw [← Bool.not_eq_true]
  intro ends
  exact Bool.false_ne_true ((solid c present).symm.trans (isBlank_of_isLineBreak ends))

theorem filled_append (lines lines' : List (List Char)) :
    filled (lines ++ lines') = filled lines ++ filled lines' := List.filter_append ..

theorem filled_of_blank (blank : allBlank line = true) : filled [line] = [] :=
  List.filter_cons_of_neg (by simp [blank])

theorem filled_of_solid (solid : allBlank line = false) : filled [line] = [line] :=
  List.filter_cons_of_pos (by simp [solid])

theorem linesFrom_open (stays : isLineBreak c = false) (line rest : List Char) :
    linesFrom line (c :: rest) = linesFrom (c :: line) rest := by
  have other : ∀ after, c = '\r' → rest = '\n' :: after → False := by
    rintro after rfl -
    cases stays
  rw [linesFrom.eq_3 _ _ _ other, if_neg (by rw [stays]; decide)]

theorem linesFrom_append (stays : IsOpen text) (line rest : List Char) :
    linesFrom line (text ++ rest) = linesFrom (text.reverse ++ line) rest := by
  induction text generalizing line with
  | nil => rfl
  | cons c text ih =>
    obtain ⟨first, others⟩ := List.forall_mem_cons.mp stays
    rw [List.cons_append, linesFrom_open first, ih others, List.reverse_cons, List.append_assoc]
    rfl

/-- A break closes the open line. If it is a carriage return that goes with a line feed, the line
feed would only have closed an empty line. -/
theorem filled_linesFrom_break (ends : isLineBreak c = true) (line rest : List Char) :
    filled (linesFrom line (c :: rest)) = filled [line.reverse] ++ filled (lines rest) := by
  rw [← filled_append, List.singleton_append]
  by_cases pair : c = '\r' ∧ ∃ after, rest = '\n' :: after
  · obtain ⟨rfl, after, rfl⟩ := pair
    rfl
  · have other : ∀ after, c = '\r' → rest = '\n' :: after → False :=
      fun after first second => pair ⟨first, after, second⟩
    rw [linesFrom.eq_3 _ _ _ other, if_pos ends, lines]

theorem filled_linesFrom_nil (line : List Char) : filled (linesFrom line []) = filled [line.reverse] := by
  cases line with
  | nil => rfl
  | cons c line => rfl

theorem filled_lines_open (stays : IsOpen text) : filled (lines text) = filled [text] := by
  have whole := linesFrom_append stays [] []
  rw [List.append_nil, List.append_nil] at whole
  rw [lines, whole, filled_linesFrom_nil, List.reverse_reverse]

theorem filled_lines_breaks {stop : List Char} (ends : ∀ c ∈ stop, isLineBreak c = true)
    (rest : List Char) : filled (lines (stop ++ rest)) = filled (lines rest) := by
  induction stop with
  | nil => rfl
  | cons c stop ih =>
    obtain ⟨first, others⟩ := List.forall_mem_cons.mp ends
    rw [List.cons_append, lines, filled_linesFrom_break first, ih others]
    rfl

/-- A line that ends in one break or more comes before the lines behind it. -/
theorem filled_lines_append (stays : IsOpen text) {stop : List Char} (some : stop ≠ [])
    (ends : ∀ c ∈ stop, isLineBreak c = true) (rest : List Char) :
    filled (lines (text ++ (stop ++ rest))) = filled [text] ++ filled (lines rest) := by
  cases stop with
  | nil => exact absurd rfl some
  | cons c stop =>
    obtain ⟨first, others⟩ := List.forall_mem_cons.mp ends
    rw [lines, linesFrom_append stays, List.cons_append, filled_linesFrom_break first,
      filled_lines_breaks others, List.append_nil, List.reverse_reverse]

end Elevation.Text
