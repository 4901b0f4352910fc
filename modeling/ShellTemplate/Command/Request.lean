import ShellTemplate.Command.Option
import ShellTemplate.Properties
import ShellTemplate.Render

/-! What the command is asked to do, as far as its arguments say. Options are settled in the order of
their first use, each with its last value, before the operands are counted. -/
namespace ShellTemplate.Command

/-- Why a file cannot be opened. -/
inductive Unopened
  | missing | directory | notDirectory | tooLong | denied | looped
  deriving Repr, DecidableEq

def Unopened.message : Unopened → Text
  | .missing => "No such file or directory".toText
  | .directory => "Is a directory".toText
  | .notDirectory => "Not a directory".toText
  | .tooLong => "File name too long".toText
  | .denied => "Permission denied".toText
  | .looped => "Too many levels of symbolic links".toText

/-- What is wrong with the value of an option. -/
inductive BadValue
  | unopened (path : Text) (u : Unopened)
  | notPair (b : Properties.BadItem)
  | directory (path : Text)
  | unreadable (path : Text)
  | notSource (word : Text)
  deriving Repr, DecidableEq

def BadValue.option : BadValue → Valued
  | .unopened _ _ => .file
  | .notPair _ => .var
  | .directory _ => .varsFile
  | .unreadable _ => .varsFile
  | .notSource _ => .source

def BadValue.message : BadValue → Text
  | .unopened path u => ('\'' :: path : Text) ++ "': ".toText ++ u.message
  | .notPair b => b.message
  | .directory path => "File ".toText ++ Text.quoted path ++ " is a directory.".toText
  | .unreadable path => "File ".toText ++ Text.quoted path ++ " is not readable.".toText
  | .notSource word =>
    Text.quoted word ++ " is not one of ".toText ++
      Text.joined ", ".toText (Origin.all.map fun o => Text.quoted o.word) ++ (['.'] : Text)

/-- Wrong use of the command. -/
inductive Misuse
  | misspelled (m : Misspelling)
  | badValue (b : BadValue)
  | extraOperands (operands : List Text)
  deriving Repr, DecidableEq

namespace Misuse

def message : Misuse → Text
  | .misspelled (.unknown name) => "No such option ".toText ++ Text.quoted name ++ (['.'] : Text)
  | .misspelled (.missingValue name) =>
    "Option ".toText ++ Text.quoted name ++ " requires an argument.".toText
  | .misspelled (.unwantedValue name) =>
    "Option ".toText ++ Text.quoted name ++ " does not take a value.".toText
  | .badValue b =>
    "Invalid value for ".toText ++ Text.joined " / ".toText (b.option.names.map Text.quoted) ++
      ": ".toText ++ b.message
  | .extraOperands operands =>
    "Got unexpected extra argument".toText ++ (if operands.length = 1 then [] else ['s'] : Text) ++
      " (".toText ++ Text.joined [' '] operands ++ ([')'] : Text)

/-- Whether the message comes with a reminder of how the command is used. -/
def reminds : Misuse → Bool
  | .misspelled (.missingValue _) => false
  | .misspelled (.unwantedValue _) => false
  | _ => true

def reminder : Text :=
  ("Usage: shinterp [OPTIONS] [TEMPLATE]\n" ++ "Try 'shinterp --help' for help.\n\n").toText

/-- What is printed. -/
def report (m : Misuse) : Text :=
  (if m.reminds then reminder else []) ++ "Error: ".toText ++ m.message ++ (['\n'] : Text)

end Misuse

/-- A file to take the template from. -/
inductive TemplateFile
  | input
  | bytes (bs : List UInt8)
  deriving Repr, DecidableEq

/-- What to do: the template if it is given, the file for it if one is named, the variables, the file of
variables, the origin of values, and the switches that are set. -/
structure Request where
  template : Option Text := none
  file : Option TemplateFile := none
  assigned : Bindings Text := .empty
  varsFile : Option Text := none
  origin : Origin := .combined
  sh : Option Bool := none
  defaults : Option Bool := none
  dos : Option Bool := none

/-- Why arguments are no request: they are wrong, they ask for something else, or they hold a path that
no file can have. -/
inductive Refusal
  | misuse (m : Misuse)
  | version
  | help
  | malformed (path : Text)
  deriving Repr, DecidableEq

/-- The file that a path names; a hyphen names the standard input. -/
def openFile (files : Files) (path : Text) : Except Refusal TemplateFile :=
  let unopened (u : Unopened) : Except Refusal TemplateFile :=
    .error (.misuse (.badValue (.unopened path u)))
  if path = (['-'] : Text) then .ok .input
  else match files path with
    | .file bytes => .ok (.bytes bytes)
    | .directory => unopened .directory
    | .missing => unopened .missing
    | .notDirectory => unopened .notDirectory
    | .tooLong => unopened .tooLong
    | .unreadable | .barred => unopened .denied
    | .looped => unopened .looped
    | .malformed => .error (.malformed path)

namespace Request

/-- The request with one option settled. -/
def settle (files : Files) (a : Arguments) (r : Request) (v : Valued) : Except Refusal Request :=
  let value := (a.values v).getLastD []
  match v with
  | .file => (openFile files value).map fun f => { r with file := some f }
  | .var =>
    match Properties.ofItems (a.values .var) with
    | .ok assigned => .ok { r with assigned }
    | .error b => .error (.misuse (.badValue (.notPair b)))
  | .varsFile =>
    match files value with
    | .directory => .error (.misuse (.badValue (.directory value)))
    | .unreadable => .error (.misuse (.badValue (.unreadable value)))
    | .malformed => .error (.malformed value)
    | _ => .ok { r with varsFile := some (Path.plain value) }
  | .source =>
    match Origin.ofWord? value with
    | some origin => .ok { r with origin }
    | none => .error (.misuse (.badValue (.notSource value)))

/-- The request that some arguments make. -/
def ofArguments (files : Files) (a : Arguments) : Except Refusal Request :=
  match a.question? with
  | some .version => .error .version
  | some _ => .error .help
  | none => do
    let switches : Request :=
      { sh := a.switch? .sh, defaults := a.switch? .defaults, dos := a.switch? .dos }
    let r ← a.order.foldlM (settle files a) switches
    match a.operands with
    | _ :: o :: os => .error (.misuse (.extraOperands (o :: os)))
    | operands => return { r with template := operands.head? }

def read (files : Files) (args : List Text) : Except Refusal Request :=
  match Arguments.read args with
  | .error m => .error (.misuse (.misspelled m))
  | .ok a => ofArguments files a

/-- Whether the template is on the standard input. -/
def usesInput (r : Request) : Bool :=
  r.template.isNone && (match r.file with
    | some (.bytes _) => false
    | _ => true)

end Request

end ShellTemplate.Command
