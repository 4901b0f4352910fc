import ShellTemplate.Markup.Color

/-! Styles as tags name them. Names of one style are brought to one form, so that a tag that closes
finds the one that opened. -/
namespace ShellTemplate.Markup

inductive Attribute
  | bold | dim | italic | underline | blink | blink2 | reverse | conceal | strike | underline2
  | frame | encircle | overline
  deriving Repr, DecidableEq

namespace Attribute

/-- Every attribute, in the order in which a style names them. -/
def all : List Attribute :=
  [bold, dim, italic, underline, blink, blink2, reverse, conceal, strike, underline2, frame,
    encircle, overline]

def name : Attribute → Text
  | bold => "bold".toText
  | dim => "dim".toText
  | italic => "italic".toText
  | underline => "underline".toText
  | blink => "blink".toText
  | blink2 => "blink2".toText
  | reverse => "reverse".toText
  | conceal => "conceal".toText
  | strike => "strike".toText
  | underline2 => "underline2".toText
  | frame => "frame".toText
  | encircle => "encircle".toText
  | overline => "overline".toText

def shortName? : Attribute → Option Text
  | bold => some ['b']
  | dim => some ['d']
  | italic => some ['i']
  | underline => some ['u']
  | reverse => some ['r']
  | conceal => some ['c']
  | strike => some ['s']
  | underline2 => some ['u', 'u']
  | overline => some ['o']
  | _ => none

def ofWord? (word : Text) : Option Attribute :=
  all.find? fun a => a.name = word || a.shortName? = some word

end Attribute

/-- What a style says: attributes on or off, colors, and a link. -/
structure Look where
  setting : Attribute → Option Bool
  color : Option Text
  background : Option Text
  link : Option Text

/-- Why words say no style. -/
inductive Unreadable
  | unknown
  | flawed (f : ComponentFlaw)
  deriving Repr, DecidableEq

namespace Look

def plain : Look := ⟨fun _ => none, none, none, none⟩

def setAttribute (l : Look) (a : Attribute) (on : Bool) : Look :=
  { l with setting := fun b => if b = a then some on else l.setting b }

/-- A color by the form of its name. -/
def color? (word : Text) : Except Unreadable Text :=
  let word := Text.lower word
  match ColorWord.read word with
  | .color => .ok word
  | .other => .error .unknown
  | .flawed f => .error (.flawed f)

/-- Reads words on top of what a style says already. -/
def read (l : Look) : List Text → Except Unreadable Look
  | [] => .ok l
  | w :: ws =>
    let word := Text.lower w
    if word = "on".toText then
      match ws with
      | [] => .error .unknown
      | c :: ws => (color? c).bind fun c => read { l with background := some c } ws
    else if word = "not".toText then
      match ws with
      | [] => .error .unknown
      | a :: ws =>
        match Attribute.ofWord? a with
        | some a => read (l.setAttribute a false) ws
        | none => .error .unknown
    else if word = "link".toText then
      match ws with
      | [] => .error .unknown
      | link :: ws => read { l with link := some link } ws
    else match Attribute.ofWord? word with
      | some a => read (l.setAttribute a true) ws
      | none => (color? word).bind fun c => read { l with color := some c } ws

/-- The words of a style in their one order. -/
def words (l : Look) : List Text :=
  Attribute.all.flatMap (fun a =>
    match l.setting a with
    | some true => [a.name]
    | some false => ["not".toText, a.name]
    | none => []) ++
  l.color.toList ++
  (l.background.map fun c => ["on".toText, c]).getD [] ++
  (l.link.map fun u => ["link".toText, u]).getD []

def name (l : Look) : Text :=
  if l.words.isEmpty then "none".toText else Text.joined [' '] l.words

end Look

/-- The one form of a name: the style in its own words if it is one, or the name without blanks around
it in lower case. No name can hold a color with a component that is no number. -/
def styleName (t : Text) : Except ComponentFlaw Text :=
  if t.isEmpty ∨ Text.trim t = "none".toText then .ok "none".toText
  else match Look.plain.read (Text.words t) with
    | .ok l => .ok l.name
    | .error .unknown => .ok (Text.lower (Text.trim t))
    | .error (.flawed f) => .error f

end ShellTemplate.Markup
