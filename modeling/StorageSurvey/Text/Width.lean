import StorageSurvey.Text.Following

/-!
# Display width

The number of terminal columns that a line of text takes.  The characters are counted from the end
of the line, because what stands after a character decides whether it has columns of its own.
Control characters count as one column.

A line splits at its spaces: `width_append_space` says that the columns of two texts with a space
between them are the columns of the texts and one more.
-/

namespace StorageSurvey.Text

/-- The columns of a text, and what a character before the text would stand before. -/
def measure (text : List Char) : Int × Following :=
  text.foldr
    (fun c rest =>
      let step := Following.step c rest.2
      (step.1 + rest.1, step.2))
    (0, .plain)

/-- The columns that a line of text takes.  They are counted as an integer since a sign may take
back columns that were counted for the signs after it; the sum is never negative. -/
def width (text : List Char) : Int :=
  (measure text).1

@[simp] theorem measure_nil : measure [] = (0, .plain) := rfl

theorem measure_cons (c : Char) (text : List Char) :
    measure (c :: text) =
      ((Following.step c (measure text).2).1 + (measure text).1,
        (Following.step c (measure text).2).2) := rfl

@[simp] theorem width_nil : width [] = 0 := rfl

@[simp] theorem measure_space_cons (text : List Char) :
    measure (' ' :: text) = (1 + width text, .plain) := by
  simp [measure_cons, width]

@[simp] theorem width_space_cons (text : List Char) : width (' ' :: text) = 1 + width text := by
  simp [width]

theorem measure_append_space (first second : List Char) :
    measure (first ++ ' ' :: second) =
      (width first + 1 + width second, (measure first).2) := by
  induction first with
  | nil => simp
  | cons c first ih =>
    simp [measure_cons, ih, width, Int.add_assoc]

@[simp] theorem width_append_space (first second : List Char) :
    width (first ++ ' ' :: second) = width first + 1 + width second := by
  rw [width, measure_append_space]

end StorageSurvey.Text
