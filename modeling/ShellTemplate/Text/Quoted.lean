import ShellTemplate.Text.Printable

/-! Quoted texts: in single quotes, or in double quotes where that saves an escape. -/
namespace ShellTemplate.Text

/-- At least `width` hexadecimal digits, in lower case. -/
def hex (width n : Nat) : Text :=
  let ds : Text := (Nat.toDigits 16 n).map .scalar
  (List.replicate (width - ds.length) '0' : Text) ++ ds

/-- The shortest of `\xhh`, `\uhhhh` and `\Uhhhhhhhh` that holds the code point. -/
def hexEscape (c : CodePoint) : Text :=
  let n := c.toNat
  if n < 0x100 then '\\' :: 'x' :: hex 2 n
  else if n < 0x10000 then '\\' :: 'u' :: hex 4 n
  else '\\' :: 'U' :: hex 8 n

/-- One character between quotes `q`; `shown` says which characters stand for themselves. -/
def quotedChar (shown : CodePoint → Bool) (q c : CodePoint) : Text :=
  if c = q ∨ c = '\\' then ['\\', c]
  else if c = '\t' then ['\\', 't']
  else if c = '\n' then ['\\', 'n']
  else if c = '\r' then ['\\', 'r']
  else if shown c then [c]
  else hexEscape c

/-- Single quotes, unless the text holds one and no double quote. -/
def quoteMark (t : Text) : CodePoint := if t.contains '\'' && !t.contains '"' then '"' else '\''

def quotedBy (shown : CodePoint → Bool) (t : Text) : Text :=
  let q := quoteMark t
  q :: (t.flatMap (quotedChar shown q) ++ [q])

/-- The text between quotes, with every unprintable character escaped. -/
def quoted (t : Text) : Text := quotedBy isPrintable t

/-- The text between quotes, with every character above U+007F escaped too. -/
def quotedAscii (t : Text) : Text := quotedBy (fun c => c.toNat < 0x80 && isPrintable c) t

end ShellTemplate.Text
