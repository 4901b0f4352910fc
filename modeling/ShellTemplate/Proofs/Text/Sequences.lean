import Mathlib.Data.List.Infix
import Mathlib.Data.List.TakeWhile
import Mathlib.Tactic.Lemma
import ShellTemplate.Text.ControlSequence

/-! A text keeps itself without its control sequences only if it holds none. -/
namespace ShellTemplate.Text

end ShellTemplate.Text
