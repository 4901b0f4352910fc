import ShellTemplate.Text.Quoted

/-! Reading UTF-8. A text that is not well formed is refused with the first sequence that fails: its
place, its bytes up to the one that cannot follow, and what is wrong with it. -/
namespace ShellTemplate.Text.Utf8

inductive Flaw
  | start | continuation | ending
  deriving Repr, DecidableEq

def Flaw.reason : Flaw → Text
  | .start => "invalid start byte".toText
  | .continuation => "invalid continuation byte".toText
  | .ending => "unexpected end of data".toText

/-- The sequence at `position` cannot be read beyond the bytes `first :: others`. -/
structure Fault where
  position : Nat
  first : UInt8
  others : List UInt8
  flaw : Flaw
  deriving Repr, DecidableEq

def Fault.message (f : Fault) : Text :=
  "'utf-8' codec can't decode ".toText ++
    (if f.others.isEmpty then
      "byte 0x".toText ++ hex 2 f.first.toNat ++ " in position ".toText ++ ofNat f.position
    else
      "bytes in position ".toText ++ ofNat f.position ++ (['-'] : Text) ++
        ofNat (f.position + f.others.length)) ++
    ": ".toText ++ f.flaw.reason

/-- How many bytes follow a first byte; none if no sequence begins with it. -/
def following? (b : UInt8) : Option Nat :=
  if b < 0x80 then some 0
  else if b < 0xC2 then none
  else if b < 0xE0 then some 1
  else if b < 0xF0 then some 2
  else if b < 0xF5 then some 3
  else none

def isContinuation (b : UInt8) : Bool := 0x80 ≤ b && b < 0xC0

/-- Whether the second byte may follow the first: this refuses long forms, surrogates and code points
above U+10FFFF. -/
def maySecond (b c : UInt8) : Bool :=
  isContinuation c && (b != 0xE0 || 0xA0 ≤ c) && (b != 0xED || c < 0xA0) &&
    (b != 0xF0 || 0x90 ≤ c) && (b != 0xF4 || c < 0x90)

/-- Of the next `n` bytes, those that may follow the first byte, up to the first that may not. -/
def readable (b : UInt8) (n : Nat) (r : List UInt8) : List UInt8 :=
  match r.take n with
  | [] => []
  | c :: r => if maySecond b c then c :: r.takeWhile isContinuation else []

/-- The code point of a sequence. -/
def scalar (b : UInt8) (others : List UInt8) : Char :=
  let lead := match others.length with
    | 0 => b.toNat
    | 1 => b.toNat % 0x20
    | 2 => b.toNat % 0x10
    | _ => b.toNat % 0x08
  Char.ofNat (others.foldl (fun n c => n * 0x40 + c.toNat % 0x40) lead)

def decodeFrom (position : Nat) : List UInt8 → Except Fault Text
  | [] => .ok []
  | b :: r =>
    match following? b with
    | none => .error ⟨position, b, [], .start⟩
    | some n =>
      let others := readable b n r
      if others.length = n then
        (decodeFrom (position + 1 + n) (r.drop n)).map (.scalar (scalar b others) :: ·)
      else if others.length = r.length then .error ⟨position, b, others, .ending⟩
      else .error ⟨position, b, others, .continuation⟩
termination_by bytes => bytes.length
decreasing_by simp only [List.length_drop, List.length_cons]; omega

def decode (bytes : List UInt8) : Except Fault Text := decodeFrom 0 bytes

/-- The bytes of a text. A lone surrogate has none. -/
def encode? : Text → Option (List UInt8)
  | [] => some []
  | .scalar c :: t => (encode? t).map (String.utf8EncodeChar c ++ ·)
  | .surrogate _ :: _ => none

/-- The bytes of a code point in a name that the system is given. There a lone surrogate from U+DC80 to
U+DCFF stands for a byte that is no UTF-8; the other ones have no bytes. -/
def nameBytes? : CodePoint → Option (List UInt8)
  | .scalar c => some (String.utf8EncodeChar c)
  | .surrogate n =>
    if 0x480 ≤ n.val ∧ n.val < 0x500 then some [UInt8.ofNat (n.val - 0x400)] else none

/-- Whether the system can be given a name. -/
def isNameable (t : Text) : Bool := t.all fun c => (nameBytes? c).isSome

/-- How many bytes a name has that the system can be given. -/
def nameLength (t : Text) : Nat := (t.flatMap fun c => (nameBytes? c).getD []).length

end ShellTemplate.Text.Utf8
