import ShellTemplate.Value
import ShellTemplate.Text.Codec

/-! What a lookup gives: a value, nothing, or a failure. -/
namespace ShellTemplate

/-- What a thing is that stands where a context is expected and is none. -/
inductive Shape
  | int | float | bool | text | list | null
  deriving Repr, DecidableEq

def Shape.word : Shape → Text
  | .int => "int".toText
  | .float => "float".toText
  | .bool => "bool".toText
  | .text => "str".toText
  | .list => "list".toText
  | .null => "NoneType".toText

/-- Why a context gives no answer: a lookup refuses a key, finds a fault or breaks off, the key is no name
that the system could know, or what was offered cannot be looked up in. -/
inductive Failure
  | missingKey (key : Text)
  | invalid (text : Text)
  | aborted (text : Text)
  | unencodable (u : Text.Unencodable)
  | notContext (shape : Shape)
  deriving Repr, DecidableEq

def Failure.message : Failure → Text
  | .missingKey key => Text.quoted key
  | .invalid text => text
  | .aborted text => text
  | .unencodable u => u.message
  | .notContext shape => "Expected a Context or a lookup function, got ".toText ++ shape.word

inductive Reply
  | value (v : Value)
  | absent
  | failure (f : Failure)
  deriving Repr, DecidableEq

/-- The reply of a table: a value, or nothing. -/
def Reply.ofOption : Option Value → Reply
  | some v => .value v
  | none => .absent

end ShellTemplate
