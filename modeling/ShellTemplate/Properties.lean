import ShellTemplate.Files.Tree
import ShellTemplate.Json.Reader
import ShellTemplate.Log.Notice
import ShellTemplate.Settings.Basic
import ShellTemplate.Text.Lines

/-! Properties: the variables of a template, from a file that holds one flat JSON object of texts and
from the command line. -/
namespace ShellTemplate

/-- Why a file of variables cannot be used. -/
inductive LoadFault
  | notFound (path : Text)
  | directory (path : Text)
  | tooLong (path : Text)
  | denied (path : Text)
  | undecodable (f : Text.Utf8.Fault)
  | unreadable (path : Text) (content : Text) (r : Json.Refusal)
  | notObject (path : Text)
  | notTexts (path : Text) (names : List Text)
  deriving Repr, DecidableEq

def LoadFault.message : LoadFault → Text
  | .notFound path => "Variables file not found: ".toText ++ path
  | .directory path => "[Errno 21] Is a directory: ".toText ++ Text.quoted path
  | .tooLong path => "[Errno 36] File name too long: ".toText ++ Text.quoted path
  | .denied path => "[Errno 13] Permission denied: ".toText ++ Text.quoted path
  | .undecodable f => f.message
  | .unreadable path content r =>
    if r.cause.syntax?.isSome then
      "Variables file ".toText ++ path ++ " is not valid JSON: ".toText ++ r.message content
    else r.message content
  | .notObject path => "Variables file ".toText ++ path ++ " must contain a JSON object".toText
  | .notTexts path names =>
    "Variables file ".toText ++ path ++ " has non-string values for: ".toText ++
      Text.joined ", ".toText names

/-- A failure that is neither of the file nor of its values: the text nests too deeply to be read. -/
def LoadFault.isDepth : LoadFault → Bool
  | .unreadable _ _ r => r.cause = .deepArray || r.cause = .deepObject
  | _ => false

namespace Properties

def asText? : Json → Option Text
  | .text t => some t
  | _ => none

def asText (v : Json) : Text := (asText? v).getD []

/-- The texts of an object. Of a name given twice the last value counts; the names whose value is no
text are named in the order of code points. -/
def ofMembers (path : Text) (members : List (Text × Json)) : Except LoadFault (Bindings Text) :=
  let table := Bindings.ofList members
  match table.entries.filter fun e => (asText? e.2).isNone with
  | [] => .ok (table.mapValues asText)
  | bad => .error (.notTexts path ((sortByName bad).map Prod.fst))

/-- The properties in the bytes of a file, whose JSON may be so deep. -/
def ofBytes (depth : Nat) (path : Text) (bytes : List UInt8) : Except LoadFault (Bindings Text) :=
  match Text.Utf8.decode bytes with
  | .error f => .error (.undecodable f)
  | .ok raw =>
    let content := Text.normalizeNewlines raw
    match Json.read depth content with
    | .error r => .error (.unreadable path content r)
    | .ok (.object members) => ofMembers path members
    | .ok _ => .error (.notObject path)

/-- The properties in the file at a path, with a notice. A file that may be missing and is missing has
none, without one. -/
def load (depth : Nat) (files : Files) (path : Text) (missingOk : Bool) :
    Except LoadFault (Bindings Text × List Notice) :=
  match files path with
  | .file bytes =>
    match ofBytes depth path bytes with
    | .ok properties => .ok (properties, [.loaded properties.size path])
    | .error f => .error f
  | .directory => .error (.directory path)
  | .tooLong => .error (.tooLong path)
  | .unreadable | .barred => .error (.denied path)
  | .missing | .notDirectory | .looped | .malformed =>
    if missingOk then .ok (.empty, []) else .error (.notFound path)

/-- The properties of a file, overridden by variables. Only the file at the usual place may be
missing. -/
def collect (depth : Nat) (files : Files) (usual : Text) (chosen : Option Text)
    (assigned : List (Text × Text)) : Except LoadFault (Bindings Text × List Notice) :=
  let loaded := match chosen with
    | some path => load depth files path false
    | none => load depth files usual true
  loaded.map fun (properties, notices) => (properties.putAll assigned, notices)

/-- An item that is not of the form `KEY=VALUE`. -/
structure BadItem where
  item : Text
  deriving Repr, DecidableEq

def BadItem.message (b : BadItem) : Text :=
  "expected KEY=VALUE, got '".toText ++ b.item ++ (['\''] : Text)

/-- The name and the value of an item, cut at the first `=`; the name may not be empty. -/
def ofItem (item : Text) : Except BadItem (Text × Text) :=
  match Text.cutAt? '=' item with
  | some (k :: ks, value) => .ok (k :: ks, value)
  | _ => .error ⟨item⟩

/-- The variables that some items define; the first bad item refuses them all. -/
def ofItems (items : List Text) : Except BadItem (Bindings Text) :=
  (items.mapM ofItem).map .ofList

end Properties

end ShellTemplate
