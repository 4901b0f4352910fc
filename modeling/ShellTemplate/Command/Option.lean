import ShellTemplate.Text.Basic

/-! The options of the command, and how they are written: a long one after two hyphens, with its value
after `=` or as the next argument; short ones after one hyphen, several in one argument, of which the
last may have its value there or in the next argument. -/
namespace ShellTemplate.Command

/-- Options that take a value. -/
inductive Valued
  | file | var | varsFile | source
  deriving Repr, DecidableEq

inductive Switch
  | dos | sh | defaults
  deriving Repr, DecidableEq

/-- Options that take none. -/
inductive Flag
  | switch (s : Switch) (on : Bool)
  | version | help
  deriving Repr, DecidableEq

inductive Choice
  | valued (v : Valued)
  | flag (f : Flag)
  deriving Repr, DecidableEq

/-- Every option with its long name. -/
def Choice.long : List (Text × Choice) :=
  [("--file".toText, .valued .file),
   ("--var".toText, .valued .var),
   ("--vars-file".toText, .valued .varsFile),
   ("--source".toText, .valued .source),
   ("--dos".toText, .flag (.switch .dos true)),
   ("--no-dos".toText, .flag (.switch .dos false)),
   ("--sh".toText, .flag (.switch .sh true)),
   ("--no-sh".toText, .flag (.switch .sh false)),
   ("--defaults".toText, .flag (.switch .defaults true)),
   ("--no-defaults".toText, .flag (.switch .defaults false)),
   ("--version".toText, .flag .version),
   ("--help".toText, .flag .help)]

/-- The options that have a letter. -/
def Choice.short : List (CodePoint × Choice) :=
  [('f', .valued .file), ('v', .valued .var), ('V', .flag .version)]

/-- The names by which messages call an option. -/
def Valued.names : Valued → List Text
  | .file => ["-f".toText, "--file".toText]
  | .var => ["-v".toText, "--var".toText]
  | .varsFile => ["--vars-file".toText]
  | .source => ["--source".toText]

/-- An option as it is used. -/
inductive Use
  | valued (v : Valued) (value : Text)
  | flag (f : Flag)
  deriving Repr, DecidableEq

/-- An option whose value has not come yet, by the name that was used. -/
structure Waiting where
  option : Valued
  name : Text
  deriving Repr, DecidableEq

/-- What is wrong with how options are written. -/
inductive Misspelling
  | unknown (name : Text)
  | missingValue (name : Text)
  | unwantedValue (name : Text)
  deriving Repr, DecidableEq

/-- The options in one argument, the last of which may wait for its value. -/
abbrev Uses := List Use × Option Waiting

/-- The options that some letters stand for. -/
def readLetters : Text → Except Misspelling Uses
  | [] => .ok ([], none)
  | c :: t =>
    match Choice.short.lookup c with
    | none => .error (.unknown ['-', c])
    | some (.flag f) => (readLetters t).map fun (us, w) => (.flag f :: us, w)
    | some (.valued v) =>
      if t.isEmpty then .ok ([], some ⟨v, ['-', c]⟩) else .ok ([.valued v t], none)

/-- The name in an argument, and the value after its first `=`. -/
def nameAndValue (t : Text) : Text × Option Text :=
  match Text.cutAt? '=' t with
  | some (name, value) => (name, some value)
  | none => (t, none)

/-- The options in an argument that begins with a hyphen. -/
def readOptions (t : Text) : Except Misspelling Uses :=
  let (name, value) := nameAndValue t
  match Choice.long.lookup name, value with
  | some (.flag f), none => .ok ([.flag f], none)
  | some (.flag _), some _ => .error (.unwantedValue name)
  | some (.valued v), some value => .ok ([.valued v value], none)
  | some (.valued v), none => .ok ([], some ⟨v, name⟩)
  | none, _ =>
    if (Text.after? "--".toText t).isSome then .error (.unknown name) else readLetters (t.drop 1)

/-- Whether an argument holds options. A hyphen alone does not. -/
def holdsOptions (t : Text) : Bool :=
  match t with
  | '-' :: _ :: _ => true
  | _ => false

/-- The arguments of the command: its options in order, and what is left. -/
structure Arguments where
  uses : List Use
  operands : List Text
  deriving Repr, DecidableEq

/-- Reads arguments. After `--` there are no more options. -/
def Arguments.read : List Text → Except Misspelling Arguments
  | [] => .ok ⟨[], []⟩
  | a :: as =>
    if a = "--".toText then .ok ⟨[], as⟩
    else if holdsOptions a then
      match readOptions a with
      | .error e => .error e
      | .ok (us, none) => (read as).map fun r => { r with uses := us ++ r.uses }
      | .ok (us, some w) =>
        match as with
        | [] => .error (.missingValue w.name)
        | value :: as =>
          (read as).map fun r => { r with uses := us ++ .valued w.option value :: r.uses }
    else (read as).map fun r => { r with operands := a :: r.operands }

namespace Arguments

/-- The values of an option in order. -/
def values (a : Arguments) (v : Valued) : List Text :=
  a.uses.filterMap fun
    | .valued w value => if w = v then some value else none
    | _ => none

/-- The options with values that are used, each once, in the order of their first use. -/
def order (a : Arguments) : List Valued :=
  (a.uses.filterMap fun
    | .valued v _ => some v
    | _ => none).foldl (fun vs v => if vs.contains v then vs else vs ++ [v]) []

/-- How a switch is set last. -/
def switch? (a : Arguments) (s : Switch) : Option Bool :=
  (a.uses.filterMap fun
    | .flag (.switch r on) => if r = s then some on else none
    | _ => none).getLast?

/-- Whether the version or the help is asked for, and which is first. -/
def question? (a : Arguments) : Option Flag :=
  a.uses.findSome? fun
    | .flag .version => some .version
    | .flag .help => some .help
    | _ => none

end Arguments

end ShellTemplate.Command
