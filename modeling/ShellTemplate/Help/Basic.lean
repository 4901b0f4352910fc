import ShellTemplate.Text.Basic

/-! Help text of a command, with tags for its colors: what the command does, how it is called, and its
arguments one by one. -/
namespace ShellTemplate.Help

/-- An argument as it is written, and what it is for. -/
structure Argument where
  form : Text
  purpose : Text
  deriving Repr, DecidableEq

def tagged (style t : Text) : Text :=
  '[' :: (style ++ (']' :: t : Text) ++ ('[' :: '/' :: style : Text) ++ ([']'] : Text))

def argumentLine (a : Argument) : Text :=
  "    ".toText ++ tagged "green".toText a.form ++ ": ".toText ++ a.purpose ++ (['\n'] : Text)

def text (description usage : Text) (arguments : List Argument) : Text :=
  tagged "bold cyan".toText description ++ "\n\n".toText ++
    tagged "bold yellow".toText "Usage:".toText ++ "\n    ".toText ++ tagged "green".toText usage ++
    "\n\n".toText ++ tagged "bold yellow".toText "Arguments:".toText ++ (['\n'] : Text) ++
    arguments.flatMap argumentLine

end ShellTemplate.Help
