import ShellTemplate.Text.Alphanumeric
import ShellTemplate.Text.Blank
import ShellTemplate.Text.Quoted

/-! Handlers in tags. A tag whose name begins with `@` names what is done on an event: its parameters are the
name of a function, its arguments in parentheses, or both, and the arguments are read as a literal of the
language in which the handlers are written. -/
namespace ShellTemplate.Markup

/-- What comes of reading a text as a literal: some value, or a message about how it is written or about
what it says. -/
inductive Evaluation
  | value
  | misspelled (message : Text)
  | refused (message : Text)
  deriving Repr, DecidableEq

def Evaluation.message : Evaluation → Text
  | .value => []
  | .misspelled message => message
  | .refused message => message

abbrev Evaluator := Text → Evaluation

/-- What is read as a literal of the parameters of a handler: the parentheses with what is in them, where they
follow a name or stand alone, empty ones behind a name without them, and else everything. -/
def handlerArgument (parameters : Text) : Text :=
  let t := Text.trim parameters
  match t.dropWhile fun c => Text.isWordChar c || c = '.' with
  | [] => "()".toText
  | '(' :: r =>
    if r.getLast? = some (')' : CodePoint) ∧ ('\n' : CodePoint) ∉ r then '(' :: r else t
  | _ => t

end ShellTemplate.Markup
