import ShellTemplate.Switches

/-! What a name can stand for. -/
namespace ShellTemplate

inductive Value
  | text (t : Text)
  | flag (b : Bool)
  | int (i : Int)
  deriving Repr, DecidableEq

/-- The text that takes the place of an expression. -/
def Value.shown : Value → Text
  | .text t => t
  | .flag b => Switches.shown b
  | .int i => Text.ofInt i

end ShellTemplate
