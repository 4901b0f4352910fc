import ShellTemplate.Json.Basic
import ShellTemplate.Text.Quoted

/-! Writing JSON in ASCII, without space between the symbols. -/
namespace ShellTemplate.Json

/-- One 16-bit unit. -/
def writtenUnit (n : Nat) : Text := '\\' :: 'u' :: Text.hex 4 n

def writtenChar (c : CodePoint) : Text :=
  if c = '"' then ['\\', '"']
  else if c = '\\' then ['\\', '\\']
  else if 0x20 ≤ c.toNat ∧ c.toNat < 0x7F then [c]
  else if c.toNat < 0x10000 then writtenUnit c.toNat
  else
    writtenUnit (0xD800 + (c.toNat - 0x10000) / 0x400) ++
      writtenUnit (0xDC00 + (c.toNat - 0x10000) % 0x400)

def writtenText (t : Text) : Text := '"' :: (t.flatMap writtenChar ++ (['"'] : Text))

mutual

def write : Json → Text
  | .null => "null".toText
  | .bool b => if b then "true".toText else "false".toText
  | .int i => Text.ofInt i
  | .float literal => literal
  | .text t => writtenText t
  | .array items => '[' :: (Text.joined [','] (writeItems items) ++ ([']'] : Text))
  | .object members => '{' :: (Text.joined [','] (writeMembers members) ++ (['}'] : Text))

def writeItems : List Json → List Text
  | [] => []
  | v :: vs => write v :: writeItems vs

def writeMembers : List (Text × Json) → List Text
  | [] => []
  | (name, v) :: ms => (writtenText name ++ (':' :: write v : Text)) :: writeMembers ms

end

end ShellTemplate.Json
