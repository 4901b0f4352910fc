import ShellTemplate.Command.Run

/-! The program: it gathers what a run finds around it, and prints what the run leaves. -/
namespace ShellTemplate.Program

/-- A text for the system. A lone surrogate, for which the system has no character, is escaped. -/
def string (t : Text) : String :=
  let shown : Text := t.flatMap fun
    | .scalar c => [.scalar c]
    | c => Text.hexEscape c
  String.ofList (shown.filterMap fun
    | .scalar c => some c
    | .surrogate _ => none)

/-- What is found at a path on the disk. Of a file that may not be opened the directory may be what keeps it
from being found: a slash behind the name tells. -/
def find (path : Text) : IO Found := do
  if path.contains '\x00' || (Text.Codec.utf8Names.fault? path).isSome then return .malformed
  try
    return .file (← IO.FS.readBinFile (string path)).toList
  catch e =>
    match e with
    | .inappropriateType _ code _ => return if code = 21 then .directory else .notDirectory
    | .invalidArgument _ code _ => return if code = 40 then .looped else .tooLong
    | .permissionDenied _ _ _ =>
      try
        let _ ← IO.FS.readBinFile (string path ++ "/")
        return .unreadable
      catch e =>
        return match e with
          | .inappropriateType _ _ _ => .unreadable
          | _ => .barred
    | _ => return .missing

/-- The files at some paths; nothing is at any other. -/
def filesAt (paths : List Text) : IO Files := do
  let table ← paths.mapM fun p => return (p, ← find p)
  return fun p => (table.lookup p).getD .missing

/-- The text of bytes that may be no UTF-8; a byte that is none stands for itself as a lone surrogate. -/
partial def nameOf (bytes : List UInt8) : Text :=
  match Text.Utf8.decode bytes with
  | .ok t => t
  | .error f =>
    let before := (Text.Utf8.decode (bytes.take f.position)).toOption.getD []
    let faulty := f.first :: f.others
    before ++ (faulty.map fun b => CodePoint.ofNat (0xDC00 + b.toNat)) ++
      nameOf (bytes.drop (f.position + faulty.length))

/-- The assignments in the record that the system keeps of the environment of a process. -/
def environment : IO (Bindings Text) := do
  let bytes := (← IO.FS.readBinFile "/proc/self/environ").toList
  return .ofList ((bytes.splitOn 0).filterMap fun entry => Text.cutAt? '=' (nameOf entry))

/-- A place to show texts in, without colors, as wide as the environment says. -/
def console (env : Bindings Text) : Help.Console :=
  match env.get? "COLUMNS".toText with
  | some (c :: t) => .plain (if (c :: t).all CodePoint.isDigit then Markup.number (c :: t) else 80)
  | _ => .plain 80

/-- The file of variables in the directory for settings of the user. -/
def usualPath (env : Bindings Text) : Text :=
  let directory := match env.get? "XDG_CONFIG_HOME".toText with
    | some d => d
    | none => (env.get? "HOME".toText).getD [] ++ "/.config".toText
  Path.plain (directory ++ "/shinterp/vars.json".toText)

/-- The paths of files that a run may look at. -/
def paths (usual : Text) (settings : Settings) (args : List Text) : List Text :=
  let named := match Command.Arguments.read args with
    | .ok a => a.values .file ++ a.values .varsFile ++ (a.values .varsFile).map Path.plain
    | .error _ => []
  settings.varsPath usual :: named

partial def readAll (s : IO.FS.Stream) (soFar : ByteArray) : IO ByteArray := do
  let part ← s.read 65536
  if part.isEmpty then return soFar else readAll s (soFar ++ part)

def input (files : Files) (args : List Text) : IO (List UInt8) := do
  match Command.Request.read files args with
  | .ok r => if r.usesInput then return (← readAll (← IO.getStdin) .empty).toList else return []
  | .error _ => return []

def run (args : List Text) : IO UInt32 := do
  let environment ← environment
  match Settings.ofEnvironment environment with
  | .error e =>
    IO.eprintln (string e.message)
    return 1
  | .ok settings =>
    let usual := usualPath environment
    let files ← filesAt (paths usual settings args)
    let input ← input files args
    let terminal ← (← IO.getStdout).isTty
    let w : Command.World :=
      { environment, settings, files, usual, input, newlines := .kept, console, depth := 984, terminal }
    let o := Command.run w .usual args
    for event in o.events do
      match event with
      | .notice n =>
        for entry in Notice.logged settings.quiet [n] do IO.eprintln (string entry)
      | .output t => IO.print (string t)
      | .error t => IO.eprint (string t)
    if let some c := o.crash then IO.eprintln (string c.message)
    return UInt32.ofNat o.exit

end ShellTemplate.Program

def main (args : List String) : IO UInt32 := ShellTemplate.Program.run (args.map String.toText)
