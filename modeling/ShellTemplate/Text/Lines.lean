import ShellTemplate.Text.Basic

/-! Line ends: their one normal form, and the cut of a text into lines. -/
namespace ShellTemplate.Text

/-- Every carriage return, with the line feed that may follow it, becomes one line feed. -/
def normalizeNewlines : Text → Text
  | [] => []
  | '\r' :: '\n' :: t => '\n' :: normalizeNewlines t
  | c :: t => (if c = '\r' then '\n' else c) :: normalizeNewlines t

/-- Characters that end a line. -/
def isLineEnd (c : CodePoint) : Bool :=
  within [(0x0A, 0x0D), (0x1C, 0x1E), (0x85, 0x85), (0x2028, 0x2029)] c.toNat

/-- The lines of a text without their ends; `\r\n` is one end, and an end at the end of the text
opens no further line. -/
def lines : Text → List Text
  | [] => []
  | '\r' :: '\n' :: t => [] :: lines t
  | c :: t =>
    if isLineEnd c then [] :: lines t
    else match lines t with
      | l :: ls => (c :: l) :: ls
      | [] => [[c]]

/-- The pieces between line feeds; one more than there are line feeds. -/
def pieces : Text → List Text
  | [] => [[]]
  | c :: t =>
    if c = '\n' then [] :: pieces t
    else match pieces t with
      | p :: ps => (c :: p) :: ps
      | [] => [[c]]

end ShellTemplate.Text
