import ShellTemplate.Log.Notice
import ShellTemplate.Log.Placeholder

/-! Writing to the log. A message without arguments is taken as it is; with arguments its placeholders
are filled, and if that fails the failure goes to the error output in place of an entry. -/
namespace ShellTemplate.Log

/-- What one message leaves in the log and on the error output. -/
structure Written where
  entries : List Text
  errors : Text
  deriving Repr, DecidableEq

def write (quiet : Bool) (message : Text) (args : List Text) : Written :=
  if quiet then ⟨[], []⟩
  else if args.isEmpty then ⟨[message], []⟩
  else match Placeholder.fill args message with
    | .ok entry => ⟨[entry], []⟩
    | .error f => ⟨[], "Logging error: ".toText ++ f.message ++ (['\n'] : Text)⟩

end ShellTemplate.Log
