import ShellTemplate.Command.Request
import ShellTemplate.Help.Basic
import ShellTemplate.Help.Panel
import ShellTemplate.Text.ControlSequence

/-! One run of the command, from its arguments to what it prints. -/
namespace ShellTemplate.Command

def version : Text := "0.1.0".toText

/-- The help of the command. -/
def help : Text :=
  Help.text "Interpolate shell-style variables into a template.".toText
    "shinterp [OPTIONS] [TEMPLATE]".toText
    [⟨"TEMPLATE".toText, "Template text; read from --file or stdin if omitted.".toText⟩,
     ⟨"-f, --file PATH".toText, "Read the template from PATH ('-' for stdin).".toText⟩,
     ⟨"-v, --var KEY=VALUE".toText, "Define a variable; may be repeated.".toText⟩,
     ⟨"--vars-file PATH".toText, "JSON object of variables to load.".toText⟩,
     ⟨"--source env|vars|combined".toText, "Where values are looked up.".toText⟩,
     ⟨"--dos/--no-dos".toText, "Interpolate %NAME% expressions.".toText⟩,
     ⟨"--sh/--no-sh".toText, "Interpolate $\x7bNAME\x7d expressions.".toText⟩,
     ⟨"--defaults/--no-defaults".toText, "Honor $\x7bNAME:default\x7d values.".toText⟩,
     ⟨"-V, --version".toText, "Show the version and exit.".toText⟩]

/-- What becomes of the line ends on the standard input: they are read as those of files are, or they are
kept. Which it is depends on the system. -/
inductive Newlines
  | universal | kept
  deriving Repr, DecidableEq

def Newlines.read : Newlines → Text → Text
  | .universal, t => Text.normalizeNewlines t
  | .kept, t => t

/-- What a run finds around it. `usual` is the path of the file of variables for want of another, `codec`
encodes what is printed and `names` what the system is given as a name, `console` tells where help and errors
are shown in an environment, and `depth` how deep JSON may be. `terminal` says whether the standard output is
one. -/
structure World where
  environment : Bindings Text
  settings : Settings
  files : Files
  usual : Text
  input : List UInt8
  newlines : Newlines
  console : Bindings Text → Help.Console
  depth : Nat
  codec : Text.Codec := .utf8
  names : Text.Codec := .utf8Names
  terminal : Bool := false

namespace World

/-- What the standard output takes of a text. -/
def printed (w : World) (t : Text) : Text := if w.terminal then t else t.withoutSequences

/-- Where help and errors are shown. -/
def shown (w : World) : Help.Console := w.console w.environment

end World

/-- A failure that the command has no report for. -/
inductive Crash
  | nullByte
  | unencodable (u : Text.Unencodable)
  | tooDeep (message : Text)
  | unshown (f : Help.PrintFault)
  deriving Repr, DecidableEq

def Crash.message : Crash → Text
  | .nullByte => "embedded null byte".toText
  | .unencodable u => u.message
  | .tooDeep message => message
  | .unshown f => f.message

/-- What is wrong with a path that no file can have. -/
def Crash.ofPath (names : Text.Codec) (path : Text) : Crash :=
  match names.fault? path with
  | some u => .unencodable u
  | none => .nullByte

/-- What a run does for others to see: a notice, or a text on the output or, before it gets its colors, for
errors. -/
inductive Event
  | notice (n : Notice)
  | output (t : Text)
  | error (t : Text)
  deriving Repr, DecidableEq

/-- How a run ends, and what it did before, in order. -/
structure Outcome where
  exit : Nat
  events : List Event := []
  crash : Option Crash := none
  deriving Repr, DecidableEq

namespace Outcome

def output (o : Outcome) : Text :=
  o.events.flatMap fun
    | .output t => t
    | _ => []

def errors (o : Outcome) : Text :=
  o.events.flatMap fun
    | .error t => t
    | _ => []

def notices (o : Outcome) : List Notice :=
  o.events.filterMap fun
    | .notice n => some n
    | _ => none

def crashed (c : Crash) (ns : List Notice) : Outcome :=
  { exit := 1, events := ns.map .notice, crash := some c }

end Outcome

/-- The line that reports an error, in which the message stands for itself. -/
def errorLine (c : Help.Console) (message : Text) : Except Markup.Fault Text :=
  (Markup.render c.evaluate ("[bold red]Error:[/bold red] ".toText ++ Markup.escape message)).map
    fun t => c.laid (Text.wrap c.width t)

/-- A run that fails for a reason, after some notices. -/
def Outcome.failed (c : Help.Console) (message : Text) (ns : List Notice) : Outcome :=
  match errorLine c message with
  | .ok line => { exit := 1, events := ns.map .notice ++ [.error line] }
  | .error f => .crashed (.unshown (.tags f)) ns

/-- A run that writes a text at its end, after some notices. A character that the output has no bytes for ends
it instead. -/
def Outcome.written (w : World) (t : Text) (ns : List Notice) : Outcome :=
  match w.codec.fault? (w.printed t) with
  | none => { exit := 0, events := ns.map .notice ++ [.output (w.printed t)] }
  | some u => .crashed (.unencodable u) ns

/-- The text of a template in bytes. -/
def decodeTemplate (newlines : Newlines) (bytes : List UInt8) : Except Text.Utf8.Fault Text :=
  (Text.Utf8.decode bytes).map newlines.read

/-- The template: the argument, or else the file, or else the standard input. -/
def Request.templateIn (w : World) (r : Request) : Except Text.Utf8.Fault Text :=
  match r.template, r.file with
  | some t, _ => .ok t
  | none, some (.bytes bytes) => decodeTemplate .universal bytes
  | none, _ => decodeTemplate w.newlines w.input

/-- Lookups for a request, given its origin and its properties, or the failure to get any. -/
abbrev Access := Origin → Bindings Text → Except Failure Lookup

/-- What is offered as a context for a request. -/
abbrev Lookups := Origin → Bindings Text → Offer

def Lookups.usual : Lookups := fun o properties => .context (o.context properties)

def Lookups.access (w : World) (lookups : Lookups) : Access := fun o properties =>
  (lookups o properties).lookup { environment := w.environment, shared := .empty, names := w.names }

/-- The run of a request. -/
def Request.run (w : World) (access : Access) (r : Request) : Outcome :=
  match r.templateIn w with
  | .error f => .failed w.shown f.message [.notPrepared f.message]
  | .ok template =>
    let usual := w.settings.varsPath w.usual
    match Properties.collect w.depth w.files usual r.varsFile r.assigned.entries with
    | .error f =>
      if f.isDepth then .crashed (.tooDeep f.message) []
      else .failed w.shown f.message [.notPrepared f.message]
    | .ok (properties, loaded) =>
      let switches := w.settings.overlay r.sh r.defaults r.dos
      let (report, notices) := renderWith switches (access r.origin properties) template
      match report.error with
      | none => .written w report.text (loaded ++ notices)
      | some message => .failed w.shown message (loaded ++ notices)

/-- The run in which the help is shown. -/
def helpRun (w : World) : Outcome :=
  let s := Help.shown w.shown w.codec (some help)
  match s.result with
  | .ok t => { exit := 0, events := s.notices.map .notice ++ [.output (t ++ (['\n'] : Text))] }
  | .error f => .crashed (.unshown f) s.notices

/-- The run with some arguments, on lookups of any kind. -/
def runWith (w : World) (access : Access) (args : List Text) : Outcome :=
  match Request.read w.files args with
  | .ok r => r.run w access
  | .error .version => .written w ("shinterp, version ".toText ++ version ++ (['\n'] : Text)) []
  | .error .help => helpRun w
  | .error (.misuse m) => { exit := 2, events := [.error m.report] }
  | .error (.malformed path) => .crashed (.ofPath w.names path) []

/-- The run with some arguments. -/
def run (w : World) (lookups : Lookups) (args : List Text) : Outcome :=
  runWith w (lookups.access w) args

end ShellTemplate.Command
