import ShellTemplate.Text.Basic

/-! JSON values. The members of an object stay in the order of the text, repeated names included; a
number with a fraction or an exponent, or one that is not finite, is kept as it is spelled. -/
namespace ShellTemplate

inductive Json
  | null
  | bool (b : Bool)
  | int (i : Int)
  | float (literal : Text)
  | text (t : Text)
  | array (items : List Json)
  | object (members : List (Text × Json))

namespace Json

/-- The value of the last member with this name. -/
def member? (name : Text) : Json → Option Json
  | .object members => (members.reverse.find? fun m => m.1 = name).map Prod.snd
  | _ => none

end Json

end ShellTemplate
