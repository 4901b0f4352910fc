import ShellTemplate.Help.Console
import ShellTemplate.Log.Notice
import ShellTemplate.Text.Wrap

/-! Help shown in a panel: a frame as narrow as its text. -/
namespace ShellTemplate.Help

/-- The greatest width of a panel. -/
def maxPanelWidth : Nat := 100

def maximum (ns : List Nat) : Nat := ns.foldl max 0

/-- The width that a panel may have. It goes by the lines as they are written, tags included. -/
def panelWidth (help : Text) : Nat :=
  min (maximum ((Text.lines help).map List.length) + 10) maxPanelWidth

/-- The characters of a frame: its corners, and its sides. -/
structure Frame where
  topLeft : CodePoint
  topRight : CodePoint
  bottomLeft : CodePoint
  bottomRight : CodePoint
  across : CodePoint
  down : CodePoint

def Frame.round : Frame := ⟨'╭', '╮', '╰', '╯', '─', '│'⟩

def Frame.ascii : Frame := ⟨'+', '+', '+', '+', '-', '|'⟩

/-- A side of a frame between two corners, as much of it as a width has room for. -/
def border (left across right : CodePoint) (width : Nat) : Text :=
  (left :: ((List.replicate (width - 2) across : Text) ++ [right])).take width

/-- The lines of a panel around a text. The frame and the blanks in it take four cells of the width. -/
def panelLines (f : Frame) (width : Nat) (t : Text) : List Text :=
  let inner := min (maximum ((Text.lines t).map Text.cells)) (width - 4)
  let outer := min (inner + 4) width
  let rows := if inner = 0 then [] else (Text.wrap inner t).map (Text.pad inner)
  [border f.topLeft f.across f.topRight outer] ++
    rows.map (fun row => (f.down :: ' ' :: (row ++ ([' ', f.down] : Text)) : Text)) ++
    [border f.bottomLeft f.across f.bottomRight outer]

/-- Lines with an end each. -/
def printed (lines : List Text) : Text := lines.flatMap fun l => l ++ (['\n'] : Text)

def noHelp : Text := "No help text available.".toText

/-- Lines as they are laid out. In no width there is room for none. -/
def Console.laid (c : Console) (lines : List Text) : Text := if c.width = 0 then [] else printed lines

/-- A text with tags, laid out in lines and drawn. -/
def Console.drawn (c : Console) (t : Text) (layout : Text → List Text) : Except PrintFault Text :=
  match Markup.render c.evaluate t with
  | .error f => .error (.tags f)
  | .ok shown => (c.draw t (c.laid (layout shown))).mapError .style

/-- The least width in which a panel has room for a character. -/
def minPanelWidth : Nat := 5

/-- What of a help text is read for its panel: nothing, where it has no room. -/
def Console.content (c : Console) (help : Text) : Text := if c.width < minPanelWidth then [] else help

/-- The panel of a help text. -/
def panel (c : Console) (help : Text) : Except PrintFault Text :=
  c.drawn (c.content help)
    (panelLines (if c.ascii then .ascii else .round) (min c.width (panelWidth help)))

/-- A text with tags on lines. -/
def line (c : Console) (t : Text) : Except PrintFault Text := c.drawn t (Text.wrap c.width)

/-- What is written of a text, behind what an earlier attempt has left to write. -/
def written (k : Text.Codec) (held t : Text) : Except PrintFault Text :=
  match k.fault? (held ++ t) with
  | none => .ok (held ++ t)
  | some u => .error (.output u)

/-- What showing help logs, and what it prints or why it prints nothing. -/
structure Showing where
  notices : List Notice
  result : Except PrintFault Text

/-- The help to show: some words in place of none. -/
def given (help : Option Text) : Text := if (help.getD []).isEmpty then noHelp else help.getD []

/-- The report of a fault, which has the fault's message among its tags. -/
def report (message : Text) : Text := "[bold red]Help rendering error:[/bold red] ".toText ++ message

/-- Shows help. If that fails, the fault is reported, and a tag in its message is a fault again; so is a panel
that could not be written, since it is still to be written when the report is. -/
def shown (c : Console) (k : Text.Codec) (help : Option Text) : Showing :=
  let panel := panel c (given help)
  match panel.bind (written k []) with
  | .ok t => ⟨[], .ok t⟩
  | .error f =>
    ⟨[.notShown f.message], (line c (report f.message)).bind (written k (panel.toOption.getD []))⟩

end ShellTemplate.Help
