import ShellTemplate.Json.Real
import ShellTemplate.Json.Basic
import ShellTemplate.Bindings

/-! Fields given by name, each checked for its kind. A record is refused with all its faults at once, in
the order of its fields. -/
namespace ShellTemplate

inductive FieldFlaw
  | boolParsing | boolType | stringType | pathType | missing | frozen
  deriving Repr, DecidableEq

def FieldFlaw.word : FieldFlaw → Text
  | .boolParsing => "bool_parsing".toText
  | .boolType => "bool_type".toText
  | .stringType => "string_type".toText
  | .pathType => "path_type".toText
  | .missing => "missing".toText
  | .frozen => "frozen_instance".toText

/-- The fields at fault, in order. -/
structure Invalid where
  faults : List (Text × FieldFlaw)
  deriving Repr, DecidableEq

def Invalid.message (e : Invalid) : Text :=
  Text.joined "; ".toText (e.faults.map fun f => f.1 ++ ": ".toText ++ f.2.word)

/-- The fields of a record as they are given; of a name given twice the last counts. -/
abbrev Fields := Bindings Json

namespace Field

def lowerAscii (t : Text) : Text := t.map CodePoint.toLower

def offWords : List Text :=
  ["0".toText, "off".toText, "f".toText, "false".toText, "n".toText, "no".toText]

def onWords : List Text :=
  ["1".toText, "on".toText, "t".toText, "true".toText, "y".toText, "yes".toText]

/-- A whole number is a flag if it is 0 or 1. -/
def flagOfInt (i : Int) : Except FieldFlaw Bool :=
  if i = 0 then .ok false
  else if i = 1 then .ok true
  else .error .boolParsing

/-- A flag is `true` or `false`, one of the words for them in any ASCII case, or a number that equals 0
or 1. A number that is not whole or does not fit 64 bits is no flag at all. -/
def flag : Json → Except FieldFlaw Bool
  | .bool b => .ok b
  | .text t =>
    if lowerAscii t ∈ offWords then .ok false
    else if lowerAscii t ∈ onWords then .ok true
    else .error .boolParsing
  | .int i => if -Json.wordLimit ≤ i ∧ i < Json.wordLimit then flagOfInt i else .error .boolType
  | .float literal =>
    match Json.whole? literal with
    | some i => flagOfInt i
    | none => .error .boolType
  | _ => .error .boolType

def text : Json → Except FieldFlaw Text
  | .text t => .ok t
  | _ => .error .stringType

/-- A text, or null for none. -/
def text? : Json → Except FieldFlaw (Option Text)
  | .null => .ok none
  | .text t => .ok (some t)
  | _ => .error .stringType

/-- A field that may be left out. -/
def optional {α : Type} (read : Json → Except FieldFlaw α) (fallback : α) (given : Option Json) :
    Except FieldFlaw α :=
  match given with
  | some v => read v
  | none => .ok fallback

def required {α : Type} (read : Json → Except FieldFlaw α) (given : Option Json) :
    Except FieldFlaw α :=
  match given with
  | some v => read v
  | none => .error .missing

/-- The fault of one field, if it has one. -/
def fault {α : Type} (name : Text) : Except FieldFlaw α → List (Text × FieldFlaw)
  | .ok _ => []
  | .error f => [(name, f)]

end Field

end ShellTemplate
