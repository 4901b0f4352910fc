import ShellTemplate.Text.Basic

/-! Blank characters, and texts without blanks at their ends. -/
namespace ShellTemplate.Text

/-- The separators of Unicode 14.0 that count as white space, and the ASCII controls among them. -/
def blankRanges : List (Nat × Nat) :=
  [(0x09, 0x0D), (0x1C, 0x20), (0x85, 0x85), (0xA0, 0xA0), (0x1680, 0x1680), (0x2000, 0x200A),
   (0x2028, 0x2029), (0x202F, 0x202F), (0x205F, 0x205F), (0x3000, 0x3000)]

def isBlank (c : CodePoint) : Bool := within blankRanges c.toNat

def trimStart (t : Text) : Text := t.dropWhile isBlank

def trimEnd (t : Text) : Text := (t.reverse.dropWhile isBlank).reverse

/-- The text without the blanks at both ends. -/
def trim (t : Text) : Text := trimEnd (trimStart t)

/-- The stretches of a text between its blanks. -/
def words (t : Text) : List Text := (t.splitOnP isBlank).filter fun w => !w.isEmpty

theorem trimStart_suffix (t : Text) : trimStart t <:+ t := List.dropWhile_suffix _

theorem trim_infix (t : Text) : trim t <:+: t := by
  refine List.IsInfix.trans ?_ (trimStart_suffix t).isInfix
  have h := (List.dropWhile_suffix isBlank (l := (trimStart t).reverse))
  simpa [trim, trimEnd] using (List.reverse_prefix.2 h).isInfix

end ShellTemplate.Text
