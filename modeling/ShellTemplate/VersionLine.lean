import ShellTemplate.Files.Tree
import ShellTemplate.Text.Alphanumeric
import ShellTemplate.Text.Blank
import ShellTemplate.Text.Lines

/-! The version that a file assigns: the quoted text of the first line that begins with `__version__`,
perhaps an annotation, and `=`. Blanks may stand between the parts, line ends included. -/
namespace ShellTemplate.VersionLine

def isTypeChar (c : CodePoint) : Bool := Text.isWordChar c || c = '[' || c = ']'

def isQuote (c : CodePoint) : Bool := c = '\'' || c = '"'

def skipBlanks (t : Text) : Text := t.dropWhile Text.isBlank

/-- What follows an annotation, if the text begins with one: a colon and one or more characters of a
name or in brackets. -/
def skipType : Text → Text
  | ':' :: t =>
    let t' := skipBlanks t
    match t'.takeWhile isTypeChar with
    | [] => ':' :: t
    | _ => t'.dropWhile isTypeChar
  | t => t

/-- The version, if an assignment of it stands at the beginning of the text. -/
def atStart? (t : Text) : Option Text := do
  let t ← Text.after? "__version__".toText t
  let t ← Text.after? ['='] (skipBlanks (skipType (skipBlanks t)))
  match skipBlanks t with
  | [] => none
  | q :: t =>
    let version := t.takeWhile fun c => !isQuote c
    if isQuote q = false ∨ version.isEmpty then none
    else match t.dropWhile fun c => !isQuote c with
      | [] => none
      | _ :: _ => some version

/-- The version assigned first, of the assignments at the beginnings of lines. -/
def find? (lineStart : Bool) : Text → Option Text
  | [] => none
  | c :: t =>
    match if lineStart then atStart? (c :: t) else none with
    | some v => some v
    | none => find? (c = '\n') t

/-- Why a file gives no version. -/
inductive Fault
  | notFound (path : Text)
  | noVersion (path : Text)
  | directory (path : Text)
  | tooLong (path : Text)
  | denied (path : Text)
  | undecodable (f : Text.Utf8.Fault)
  deriving Repr, DecidableEq

def Fault.message : Fault → Text
  | .notFound path => "Version file ".toText ++ path ++ " not found.".toText
  | .noVersion path => "Could not find __version__ in ".toText ++ path
  | .directory path => "[Errno 21] Is a directory: ".toText ++ Text.quoted (Path.plain path)
  | .tooLong path => "[Errno 36] File name too long: ".toText ++ Text.quoted (Path.plain path)
  | .denied path => "[Errno 13] Permission denied: ".toText ++ Text.quoted (Path.plain path)
  | .undecodable f => f.message

/-- The version in the file at a path. -/
def ofFile (files : Files) (path : Text) : Except Fault Text :=
  match files (Path.plain path) with
  | .missing | .notDirectory | .looped | .malformed => .error (.notFound path)
  | .directory => .error (.directory path)
  | .tooLong => .error (.tooLong path)
  | .unreadable | .barred => .error (.denied path)
  | .file bytes =>
    match Text.Utf8.decode bytes with
    | .error f => .error (.undecodable f)
    | .ok raw =>
      match find? true (Text.normalizeNewlines raw) with
      | some v => .ok v
      | none => .error (.noVersion path)

end ShellTemplate.VersionLine
