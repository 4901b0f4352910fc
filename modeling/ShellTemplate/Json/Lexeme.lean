import ShellTemplate.Text.Basic

/-! The lexemes of a JSON text. A number is read as far as its grammar goes and a word as far as it is
spelled, so that what follows them begins the next lexeme or none. -/
namespace ShellTemplate.Json

inductive Symbol
  | openObject | closeObject | openArray | closeArray | colon | comma
  | null
  | bool (b : Bool)
  | int (negative : Bool) (digits : Text)
  | float (literal : Text)
  | text (t : Text)
  deriving Repr, DecidableEq

/-- What is wrong with a string. -/
inductive StringFlaw
  | unterminated | control | escape | unicodeEscape
  deriving Repr, DecidableEq

structure StringFault where
  flaw : StringFlaw
  position : Nat
  deriving Repr, DecidableEq

/-- One character of a string as it is written. `more` counts what it takes beyond its first one. -/
inductive Written
  | closing
  | char (c : CodePoint) (more : Nat)
  | faulty (f : StringFault)
  deriving Repr, DecidableEq

def hexDigit? (c : CodePoint) : Option Nat :=
  if '0' ≤ c ∧ c ≤ '9' then some (c.toNat - 48)
  else if 'a' ≤ c ∧ c ≤ 'f' then some (c.toNat - 87)
  else if 'A' ≤ c ∧ c ≤ 'F' then some (c.toNat - 55)
  else none

/-- The number that the first four characters spell. -/
def unit? : Text → Option Nat
  | a :: b :: c :: d :: _ => do
    return (((← hexDigit? a) * 16 + (← hexDigit? b)) * 16 + (← hexDigit? c)) * 16 + (← hexDigit? d)
  | _ => none

def isHighSurrogate (n : Nat) : Bool := 0xD800 ≤ n && n < 0xDC00

def isLowSurrogate (n : Nat) : Bool := 0xDC00 ≤ n && n < 0xE000

def ofPair (high low : Nat) : CodePoint :=
  .ofNat (0x10000 + (high - 0xD800) * 0x400 + (low - 0xDC00))

/-- What follows `\u`, with the backslash at `position`. The four digits may not end the text, and a
high surrogate takes a low one that follows at once. -/
def readUnit (position : Nat) (t : Text) : Written :=
  if (t.drop 4).isEmpty then .faulty ⟨.unicodeEscape, position + 1⟩
  else match unit? t with
    | none => .faulty ⟨.unicodeEscape, position + 1⟩
    | some high =>
      match t.drop 4 with
      | '\\' :: 'u' :: r =>
        if isHighSurrogate high ∧ (r.drop 4).isEmpty = false then
          match unit? r with
          | none => .faulty ⟨.unicodeEscape, position + 7⟩
          | some low =>
            if isLowSurrogate low then .char (ofPair high low) 11
            else .char (.ofNat high) 5
        else .char (.ofNat high) 5
      | _ => .char (.ofNat high) 5

/-- What a letter after a backslash stands for. -/
def escaped? : CodePoint → Option CodePoint
  | '"' => some '"'
  | '\\' => some '\\'
  | '/' => some '/'
  | 'b' => some '\x08'
  | 'f' => some '\x0c'
  | 'n' => some '\n'
  | 'r' => some '\r'
  | 't' => some '\t'
  | _ => none

/-- The character of a string that begins with `c`, at `position`; the string opened at `opening`. -/
def readWritten (opening position : Nat) (c : CodePoint) (t : Text) : Written :=
  if c = '"' then .closing
  else if c = '\\' then
    match t with
    | [] => .faulty ⟨.unterminated, opening⟩
    | d :: r =>
      if d = 'u' then readUnit position r
      else match escaped? d with
        | some e => .char e 1
        | none => .faulty ⟨.escape, position⟩
  else if c.toNat < 0x20 then .faulty ⟨.control, position⟩
  else .char c 0

/-- What follows the opening quote of a string: its text, how much of the input that takes, and the
rest. -/
def readString (opening position : Nat) : Text → Except StringFault (Text × Nat × Text)
  | [] => .error ⟨.unterminated, opening⟩
  | c :: t =>
    match readWritten opening position c t with
    | .closing => .ok ([], position + 1, t)
    | .faulty f => .error f
    | .char d more =>
      (readString opening (position + 1 + more) (t.drop more)).map fun (s, r) => (d :: s, r)
termination_by t => t.length
decreasing_by simp only [List.length_drop, List.length_cons]; omega

def isDecimal (c : CodePoint) : Bool := '0' ≤ c && c ≤ '9'

/-- The fraction that the text begins with: a point and one or more digits, or nothing. -/
def fraction : Text → Text
  | '.' :: t =>
    let ds := t.takeWhile isDecimal
    if ds.isEmpty then [] else '.' :: ds
  | _ => []

/-- The exponent that the text begins with: a mark, perhaps a sign, and one or more digits, or
nothing. -/
def exponent : Text → Text
  | e :: t =>
    if e = 'e' ∨ e = 'E' then
      let sign := match t with
        | s :: _ => if s = '+' ∨ s = '-' then [s] else []
        | [] => []
      let ds := (t.drop sign.length).takeWhile isDecimal
      if ds.isEmpty then [] else e :: (sign ++ ds)
    else []
  | [] => []

/-- The digits of a whole number: a zero alone, or a run that does not begin with one. -/
def wholeDigits : Text → Text
  | '0' :: _ => ['0']
  | t => t.takeWhile isDecimal

/-- The number that the text begins with, and how many characters it takes. -/
def number? (t : Text) : Option (Symbol × Nat) :=
  let negative := t.head? == some ('-' : CodePoint)
  let sign : Text := if negative then ['-'] else []
  let t := t.drop sign.length
  let whole := wholeDigits t
  if whole.isEmpty then none
  else
    let part := fraction (t.drop whole.length)
    let scale := exponent (t.drop (whole.length + part.length))
    let literal := sign ++ whole ++ part ++ scale
    some (if part.isEmpty && scale.isEmpty then .int negative whole else .float literal, literal.length)

/-- The words of the language, as far as they are spelled. -/
def words : List (Text × Symbol) :=
  [("null".toText, .null), ("true".toText, .bool true), ("false".toText, .bool false),
   ("NaN".toText, .float "NaN".toText), ("Infinity".toText, .float "Infinity".toText),
   ("-Infinity".toText, .float "-Infinity".toText)]

def word? (t : Text) : Option (Symbol × Nat) :=
  (words.find? fun w => (Text.after? w.1 t).isSome).map fun w => (w.2, w.1.length)

def mark? : CodePoint → Option Symbol
  | '{' => some .openObject
  | '}' => some .closeObject
  | '[' => some .openArray
  | ']' => some .closeArray
  | ':' => some .colon
  | ',' => some .comma
  | _ => none

def isSpace (c : CodePoint) : Bool := c = ' ' || c = '\t' || c = '\n' || c = '\r'

/-- A symbol and the place where it begins. -/
structure Lexeme where
  position : Nat
  symbol : Symbol
  deriving Repr, DecidableEq

/-- Where the lexemes of a text stop: at its end, at something that begins none, or at a string that
cannot be read. -/
inductive Stop
  | done | stray
  | broken (f : StringFault)
  deriving Repr, DecidableEq

structure Lexed where
  lexemes : List Lexeme
  position : Nat
  stop : Stop

def Lexed.push (position : Nat) (s : Symbol) (l : Lexed) : Lexed :=
  { l with lexemes := ⟨position, s⟩ :: l.lexemes }

theorem readString_length {opening position n : Nat} {t s r : Text}
    (h : readString opening position t = .ok (s, n, r)) : r.length < t.length := by
  fun_induction readString opening position t generalizing s n r with
  | case1 => simp at h
  | case2 position c t hw => cases h; simp
  | case3 => cases h
  | case4 position c t d more hw ih =>
    cases hr : readString opening (position + 1 + more) (t.drop more) with
    | error e => rw [hr] at h; cases h
    | ok x =>
      obtain ⟨s', n', r'⟩ := x
      rw [hr] at h
      cases h
      have := ih hr
      simp at this ⊢
      omega

def lexFrom (position : Nat) (t : Text) : Lexed :=
  match t with
  | [] => ⟨[], position, .done⟩
  | c :: r =>
    if isSpace c then lexFrom (position + 1) r
    else if c = '"' then
      match _h : readString position (position + 1) r with
      | .ok (s, next, r') => (lexFrom next r').push position (.text s)
      | .error f => ⟨[], position, .broken f⟩
    else match mark? c with
      | some s => (lexFrom (position + 1) r).push position s
      | none =>
        match (word? (c :: r)).or (number? (c :: r)) with
        | some (s, n) => (lexFrom (position + 1 + (n - 1)) (r.drop (n - 1))).push position s
        | none => ⟨[], position, .stray⟩
termination_by t.length
decreasing_by
  · exact Nat.lt_succ_self _
  · have := readString_length _h; simp only [List.length_cons]; omega
  · exact Nat.lt_succ_self _
  · simp only [List.length_drop, List.length_cons]; omega

/-- The lexemes of a text, and where they stop. -/
def lex (t : Text) : Lexed := lexFrom 0 t

end ShellTemplate.Json
