import ShellTemplate.Text.Blank
import ShellTemplate.Text.Cells
import ShellTemplate.Text.Lines

/-! Text laid out in lines of a width, which is counted in cells. Lines break between words; only a word
that is wider than a line breaks itself. -/
namespace ShellTemplate.Text

/-- The distance of tab stops. -/
def tabStop : Nat := 8

/-- The line with blanks up to the next stop for every tab. -/
def expandTabs (column : Nat) : Text → Text
  | [] => []
  | c :: t =>
    if c = '\t' then
      let stop := (column / tabStop + 1) * tabStop
      (List.replicate (stop - column) ' ' : Text) ++ expandTabs stop t
    else c :: expandTabs (column + charCells c) t

/-- A character put in front of the first of some texts. -/
def consFirst (c : CodePoint) : List Text → List Text
  | [] => [[c]]
  | w :: ws => (c :: w) :: ws

def startsBlank (t : Text) : Bool := t.head?.any isBlank

/-- The words of a text, each with the blanks after it, and before them the blanks it begins with. -/
def runs : Text → List Text
  | [] => []
  | c :: t =>
    match runs t with
    | [] => [[c]]
    | w :: ws => if isBlank c && !startsBlank w then [c] :: w :: ws else (c :: w) :: ws

theorem runs_flatten (t : Text) : (runs t).flatten = t := by
  induction t with
  | nil => simp [runs]
  | cons c t ih =>
    simp only [runs]
    split
    · rename_i h; rw [h] at ih; simp at ih; simp [ih]
    · rename_i w ws h
      rw [h] at ih
      split <;> simpa using ih

/-- The words of a text, each with the blanks after it, the first also with the blanks before it. -/
def spacedWords (t : Text) : List Text :=
  match runs t with
  | a :: b :: ws => if startsBlank a then (a ++ b) :: ws else a :: b :: ws
  | ws => ws

theorem spacedWords_flatten (t : Text) : (spacedWords t).flatten = t := by
  have h := runs_flatten t
  unfold spacedWords
  split
  · rename_i a b ws hr
    rw [hr] at h
    split <;> simpa using h
  · exact h

/-- A word cut into parts of a width, of which the first begins in a column. -/
def chop (width column : Nat) : Text → List Text
  | [] => [[]]
  | c :: t =>
    if width < column + charCells c then [] :: consFirst c (chop width (charCells c) t)
    else consFirst c (chop width (column + charCells c) t)

/-- Lines of words, of which the first line is begun. The blanks after its last word may stand out of a
line. -/
def breakWords (width : Nat) (line : Text) : List Text → List Text
  | [] => [line]
  | w :: ws =>
    let need := cells (trimEnd w)
    if cells line + need ≤ width then breakWords width (line ++ w) ws
    else if need ≤ width then line :: breakWords width w ws
    else
      let parts := chop width 0 w
      (line :: parts.dropLast).dropWhile List.isEmpty ++ breakWords width (parts.getLastD []) ws

/-- The line without the blanks at its end that are too many for a width. -/
def dropExcess (width : Nat) (line : Text) : Text :=
  let blanks := (line.reverse.takeWhile isBlank).length
  line.take (line.length - min blanks (line.length - width))

/-- A beginning of the line that fills a width, found by halving the stretch between `low` and `high` in
which it ends. A blank fills in for half a character. -/
def cut (width : Nat) (line : Text) : (fuel low high : Nat) → Text
  | 0, _, _ => line
  | fuel + 1, low, high =>
    let middle := (low + high) / 2
    let head := line.take (middle + 1)
    if cells head = width then head
    else if cells head = width + 1 ∧ head.getLast?.any fun c => charCells c = 2 then
      head.dropLast ++ ([' '] : Text)
    else if width < cells head then cut width line fuel low middle
    else cut width line fuel middle high

/-- As much of the line as a width has room for. -/
def crop (width : Nat) (line : Text) : Text :=
  if cells line ≤ width then line
  else if width = 0 then []
  else cut width line (line.length + 1) 0 line.length

/-- The line with blanks up to a width. -/
def pad (width : Nat) (line : Text) : Text := line ++ (List.replicate (width - cells line) ' ' : Text)

/-- One line laid out in lines of a width. -/
def wrapLine (width : Nat) (line : Text) : List Text :=
  (breakWords width [] (spacedWords (expandTabs 0 line))).map fun l => crop width (dropExcess width l)

/-- A text laid out in lines of a width. -/
def wrap (width : Nat) (t : Text) : List Text := (pieces t).flatMap (wrapLine width)

end ShellTemplate.Text
