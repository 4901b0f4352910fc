import ShellTemplate.Template.Expansion

/-! Notices: what the program has to say about its work beside its results. -/
namespace ShellTemplate

inductive Notice
  | unresolved (s : Slot)
  | loaded (count : Nat) (path : Text)
  | notPrepared (reason : Text)
  | notExpanded (reason : Text)
  | notSerializable (reason : Text)
  | notShown (reason : Text)
  | message (text : Text)
  deriving Repr, DecidableEq

namespace Notice

def text : Notice → Text
  | .unresolved ⟨.dos, key, _⟩ => "Unresolved DOS-style expression: ".toText ++ key
  | .unresolved ⟨.sh, key, _⟩ => "Unresolved sh-style expression: ".toText ++ key
  | .loaded count path =>
    "Loaded ".toText ++ Text.ofNat count ++ " variable(s) from ".toText ++ path
  | .notPrepared reason => "Could not prepare template: ".toText ++ reason
  | .notExpanded reason => "Interpolation failed: ".toText ++ reason
  | .notSerializable reason => "Invalid JSON data: ".toText ++ reason
  | .notShown reason => "Help rendering error: ".toText ++ reason
  | .message text => text

/-- What the log gets: the texts of the notices in order, or nothing in quiet. -/
def logged (quiet : Bool) (ns : List Notice) : List Text := if quiet then [] else ns.map text

end Notice

def Expansion.notices (e : Expansion) : List Notice := e.unresolved.map .unresolved

end ShellTemplate
