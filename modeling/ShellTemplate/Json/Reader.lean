import ShellTemplate.Json.Basic
import ShellTemplate.Json.Lexeme
import ShellTemplate.Text.DecimalDigit

/-! Reading JSON. The reader takes one symbol at a time and keeps the containers that are still open on
a stack; the first symbol that cannot follow refuses the text. -/
namespace ShellTemplate.Json

/-- Why a text is refused: it breaks the grammar, or it exceeds what the reader takes. -/
inductive Cause
  | byteOrderMark | value | property | colon | comma | extra
  | string (f : StringFlaw)
  | longInteger (digits : Nat)
  | deepArray | deepObject
  deriving Repr, DecidableEq

/-- What the text should have had at its first fault; none if it keeps to the grammar and is only too
large. -/
def Cause.syntax? : Cause → Option Text
  | .byteOrderMark => some "Unexpected UTF-8 BOM (decode using utf-8-sig)".toText
  | .value => some "Expecting value".toText
  | .property => some "Expecting property name enclosed in double quotes".toText
  | .colon => some "Expecting ':' delimiter".toText
  | .comma => some "Expecting ',' delimiter".toText
  | .extra => some "Extra data".toText
  | .string .unterminated => some "Unterminated string starting at".toText
  | .string .control => some "Invalid control character at".toText
  | .string .escape => some "Invalid \\escape".toText
  | .string .unicodeEscape => some "Invalid \\uXXXX escape".toText
  | .longInteger _ | .deepArray | .deepObject => none

def Cause.sizeMessage : Cause → Text
  | .longInteger digits => Text.tooManyDigits digits
  | .deepObject =>
    "maximum recursion depth exceeded while decoding a JSON object from a unicode string".toText
  | _ => "maximum recursion depth exceeded while decoding a JSON array from a unicode string".toText

structure Refusal where
  cause : Cause
  position : Nat
  deriving Repr, DecidableEq

/-- A container that is still open, with what it holds so far, the latest first. -/
inductive Frame
  | array (items : List Json)
  | object (members : List (Text × Json)) (name : Text)

/-- What may come next. -/
inductive State
  | value (frames : List Frame)
  | firstItem (frames : List Frame)
  | firstName (frames : List Frame)
  | nextName (members : List (Text × Json)) (frames : List Frame)
  | colon (members : List (Text × Json)) (name : Text) (frames : List Frame)
  | itemEnd (items : List Json) (frames : List Frame)
  | memberEnd (members : List (Text × Json)) (frames : List Frame)
  | finished (v : Json)

/-- A value that is complete goes into the innermost open container. -/
def deliver (v : Json) : List Frame → State
  | [] => .finished v
  | .array items :: fs => .itemEnd (v :: items) fs
  | .object members name :: fs => .memberEnd ((name, v) :: members) fs

def natOfDigits (ds : Text) : Nat := ds.foldl (fun n d => n * 10 + (d.toNat - 48)) 0

def intOfDigits (negative : Bool) (ds : Text) : Int :=
  if negative then -(natOfDigits ds : Int) else natOfDigits ds

/-- The state after a symbol where a value may begin. At most `depth` containers may be open at once. -/
def beginValue (depth : Nat) (fs : List Frame) : Symbol → Except Cause State
  | .null => .ok (deliver .null fs)
  | .bool b => .ok (deliver (.bool b) fs)
  | .int negative ds =>
    if ds.length > Text.maxDigits then .error (.longInteger ds.length)
    else .ok (deliver (.int (intOfDigits negative ds)) fs)
  | .float literal => .ok (deliver (.float literal) fs)
  | .text t => .ok (deliver (.text t) fs)
  | .openArray => if fs.length < depth then .ok (.firstItem fs) else .error .deepArray
  | .openObject => if fs.length < depth then .ok (.firstName fs) else .error .deepObject
  | _ => .error .value

def State.step (depth : Nat) : State → Symbol → Except Cause State
  | .value fs, s => beginValue depth fs s
  | .firstItem fs, s =>
    if s = .closeArray then .ok (deliver (.array []) fs) else beginValue depth (.array [] :: fs) s
  | .firstName fs, s =>
    match s with
    | .closeObject => .ok (deliver (.object []) fs)
    | .text t => .ok (.colon [] t fs)
    | _ => .error .property
  | .nextName members fs, s =>
    match s with
    | .text t => .ok (.colon members t fs)
    | _ => .error .property
  | .colon members name fs, s =>
    if s = .colon then .ok (.value (.object members name :: fs)) else .error .colon
  | .itemEnd items fs, s =>
    match s with
    | .comma => .ok (.value (.array items :: fs))
    | .closeArray => .ok (deliver (.array items.reverse) fs)
    | _ => .error .comma
  | .memberEnd members fs, s =>
    match s with
    | .comma => .ok (.nextName members fs)
    | .closeObject => .ok (deliver (.object members.reverse) fs)
    | _ => .error .comma
  | .finished _, _ => .error .extra

/-- What is missing if no symbol comes. -/
def State.missing : State → Cause
  | .value _ | .firstItem _ => .value
  | .firstName _ | .nextName _ _ => .property
  | .colon _ _ _ => .colon
  | .itemEnd _ _ | .memberEnd _ _ => .comma
  | .finished _ => .extra

/-- Whether a string may come. -/
def State.takesText : State → Bool
  | .value _ | .firstItem _ | .firstName _ | .nextName _ _ => true
  | _ => false

def State.steps (depth : Nat) : State → List Lexeme → Except Refusal State
  | s, [] => .ok s
  | s, l :: ls =>
    match s.step depth l.symbol with
    | .ok s' => s'.steps depth ls
    | .error cause => .error ⟨cause, l.position⟩

/-- The value of a text that is one JSON value with nothing around it but space, and not too deep. -/
def read (depth : Nat) (t : Text) : Except Refusal Json :=
  if t.head? = some ('\uFEFF' : CodePoint) then .error ⟨.byteOrderMark, 0⟩
  else
    let l := lex t
    match (State.value []).steps depth l.lexemes with
    | .error r => .error r
    | .ok s =>
      match l.stop with
      | .done =>
        match s with
        | .finished v => .ok v
        | s => .error ⟨s.missing, l.position⟩
      | .stray => .error ⟨s.missing, l.position⟩
      | .broken f =>
        if s.takesText then .error ⟨.string f.flaw, f.position⟩
        else .error ⟨s.missing, l.position⟩

/-- The line and the column of a position, both counted from one. -/
def place (t : Text) (position : Nat) : Nat × Nat :=
  let before := t.take position
  let line := before.count ('\n' : CodePoint) + 1
  (line, (before.reverse.takeWhile fun c => c ≠ ('\n' : CodePoint)).length + 1)

/-- What is wrong, and where: the line, the column and the count of characters before. -/
def Refusal.message (t : Text) (r : Refusal) : Text :=
  match r.cause.syntax? with
  | none => r.cause.sizeMessage
  | some what =>
    let p := place t r.position
    what ++ ": line ".toText ++ Text.ofNat p.1 ++ " column ".toText ++ Text.ofNat p.2 ++
      " (char ".toText ++ Text.ofNat r.position ++ ([')'] : Text)

end ShellTemplate.Json
