import ShellTemplate.Markup.Emoji
import ShellTemplate.Markup.Handler
import ShellTemplate.Markup.Style
import ShellTemplate.Markup.Tag

/-! What is shown of a text with tags. The tags vanish, emoji codes become emoji, and a tag that closes
must find one that is open. -/
namespace ShellTemplate.Markup

/-- What is wrong with the tags of a text. A position counts from its beginning. The parameters of a handler
may be wrong as they are written or in what they say. -/
inductive Fault
  | unmatched (tag : Text) (position : Nat)
  | nothingToClose (position : Nat)
  | component (f : ComponentFlaw)
  | misspelled (argument parameters message : Text)
  | refused (parameters message : Text)
  deriving Repr, DecidableEq

def Fault.message : Fault → Text
  | .unmatched tag position =>
    "closing tag '[".toText ++ tag ++ "]' at position ".toText ++ Text.ofNat position ++
      " doesn't match any open tag".toText
  | .nothingToClose position =>
    "closing tag '[/]' at position ".toText ++ Text.ofNat position ++ " has nothing to close".toText
  | .component f => f.message
  | .misspelled argument parameters message =>
    "error parsing ".toText ++ Text.quoted argument ++ " in ".toText ++ Text.quoted parameters ++
      "; ".toText ++ message
  | .refused parameters message =>
    "error parsing ".toText ++ Text.quoted parameters ++ "; ".toText ++ message

/-- The text with every backslash dropped that stands before an opening bracket. -/
def dropEscapes : Text → Text
  | [] => []
  | '\\' :: '[' :: t => '[' :: dropEscapes t
  | c :: t => c :: dropEscapes t

/-- What is shown of a text without tags. -/
def plainShown (t : Text) : Text := Emoji.replace (dropEscapes t)

/-- The part of a tag before `=`. -/
def tagName (tag : Text) : Text := tag.takeWhile (· ≠ '=')

/-- The part of a tag behind `=`, if it has one. -/
def tagParameters? (tag : Text) : Option Text :=
  match tag.dropWhile fun c => c ≠ ('=' : CodePoint) with
  | [] => none
  | _ :: parameters => some parameters

/-- The one form of a style's name, within a text. -/
def nameIn (t : Text) : Except Fault Text := (styleName t).mapError .component

/-- A style that is open, with the parameters that its tag has. -/
structure Opened where
  name : Text
  parameters : Option Text
  deriving Repr, DecidableEq

/-- What is wrong with a style when it is closed. Only the parameters of a handler are read. -/
def Opened.fault? (evaluate : Evaluator) (o : Opened) : Option Fault :=
  match o.name, o.parameters with
  | '@' :: _, some (c :: p) =>
    let argument := handlerArgument (c :: p)
    match evaluate argument with
    | .value => none
    | .misspelled message => some (.misspelled argument (c :: p) message)
    | .refused message => some (.refused (c :: p) message)
  | _, _ => none

/-- What is open after a style is closed. -/
def closed (evaluate : Evaluator) (o : Opened) (rest : List Opened) : Except Fault (List Opened) :=
  match o.fault? evaluate with
  | none => .ok rest
  | some f => .error f

/-- The styles that are open after a tag; the one opened last is first. -/
def afterTag (evaluate : Evaluator) (opened : List Opened) (position : Nat) (tag : Text) :
    Except Fault (List Opened) :=
  match tagName tag with
  | '/' :: name =>
    if Text.trim name = [] then
      match opened with
      | [] => .error (.nothingToClose position)
      | o :: opened => closed evaluate o opened
    else do
      let name ← nameIn (Text.trim name)
      match opened.find? fun o => o.name = name with
      | some o => closed evaluate o (opened.eraseP fun o => o.name = name)
      | none => .error (.unmatched tag position)
  | name => do return ⟨← nameIn name, tagParameters? tag⟩ :: opened

/-- What is shown of tags and the text before each of them; `start` is where the first begins. -/
def marksShown (evaluate : Evaluator) (start : Nat) (opened : List Opened) :
    List Mark → Except Fault Text
  | [] => .ok []
  | m :: ms => do
    let pairs := m.backslashes / 2
    let before := plainShown m.before ++ (List.replicate pairs '\\' : Text)
    if m.backslashes % 2 = 1 then
      let after ← marksShown evaluate (start + m.source.length) opened ms
      return before ++ plainShown m.bracketed ++ after
    else
      let opened ← afterTag evaluate opened (start + m.before.length + 2 * pairs) m.tag
      let after ← marksShown evaluate (start + m.source.length) opened ms
      return before ++ after

/-- Controls that move the cursor or ring: they are never shown. -/
def isControl (c : CodePoint) : Bool := [7, 8, 11, 12, 13].contains c.toNat

/-- What is shown of a text. -/
def render (evaluate : Evaluator) (t : Text) : Except Fault Text := do
  let (ms, tail) := marks t
  let before ← marksShown evaluate 0 [] ms
  return (before ++ plainShown tail).filter fun c => !isControl c

end ShellTemplate.Markup
