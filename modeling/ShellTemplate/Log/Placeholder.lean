import ShellTemplate.Text.DecimalDigit
import ShellTemplate.Text.Quoted

/-! Messages with placeholders. A placeholder stands between braces: an argument by its number, or the
next one if no number is given; parts of it in brackets; a conversion after `!`; and after `:` how it is
laid out, which may hold placeholders of its own. A brace written twice is a brace. -/
namespace ShellTemplate.Placeholder

/-- What is wrong with a message for its arguments. -/
inductive Fault
  | loneOpening | loneClosing
  | openingInName | unclosed | conversionEnd | afterConversion | unmatchedLayout
  | unknownConversion (c : CodePoint)
  | manyDigits
  | toAutomatic | toManual
  | noArgument (index : Nat)
  | unknownName (name : Text)
  | noAttribute (name : Text)
  | noBracket | emptyPart | afterBracket | textIndex | charIndex
  | nesting
  | space | sign | negativeZero | alternate | alignment
  | separator (separator kind : CodePoint)
  | bothSeparators | noPrecision
  | layout (spec : Text)
  | kind (c : CodePoint)
  deriving Repr, DecidableEq

/-- A character named in a message, by its number if it is not an ASCII character that shows. -/
def named (limit : Nat) (c : CodePoint) : Text :=
  if 32 < c.toNat ∧ c.toNat < limit then [c] else '\\' :: 'x' :: Text.hex 0 c.toNat

def Fault.message : Fault → Text
  | .loneOpening => "Single '\x7b' encountered in format string".toText
  | .loneClosing => "Single '\x7d' encountered in format string".toText
  | .openingInName => "unexpected '\x7b' in field name".toText
  | .unclosed => "expected '\x7d' before end of string".toText
  | .conversionEnd => "end of string while looking for conversion specifier".toText
  | .afterConversion => "expected ':' after conversion specifier".toText
  | .unmatchedLayout => "unmatched '\x7b' in format spec".toText
  | .unknownConversion c => "Unknown conversion specifier ".toText ++ named 127 c
  | .manyDigits => "Too many decimal digits in format string".toText
  | .toAutomatic =>
    "cannot switch from manual field specification to automatic field numbering".toText
  | .toManual =>
    "cannot switch from automatic field numbering to manual field specification".toText
  | .noArgument index =>
    "Replacement index ".toText ++ Text.ofNat index ++
      " out of range for positional args tuple".toText
  | .unknownName name => Text.quoted name
  | .noAttribute name => "'str' object has no attribute ".toText ++ ('\'' :: (name ++ (['\''] : Text)) : Text)
  | .noBracket => "Missing ']' in format string".toText
  | .emptyPart => "Empty attribute in format string".toText
  | .afterBracket => "Only '.' or '[' may follow ']' in format field specifier".toText
  | .textIndex => "string indices must be integers, not 'str'".toText
  | .charIndex => "string index out of range".toText
  | .nesting => "Max string recursion exceeded".toText
  | .space => "Space not allowed in string format specifier".toText
  | .sign => "Sign not allowed in string format specifier".toText
  | .negativeZero =>
    "Negative zero coercion (z) not allowed in string format specifier".toText
  | .alternate => "Alternate form (#) not allowed in string format specifier".toText
  | .alignment => "'=' alignment not allowed in string format specifier".toText
  | .separator s k =>
    "Cannot specify '".toText ++ s :: ("' with '".toText ++ named 128 k ++ "'.".toText)
  | .bothSeparators => "Cannot specify both ',' and '_'.".toText
  | .noPrecision => "Format specifier missing precision".toText
  | .layout spec =>
    "Invalid format specifier '".toText ++ spec ++ "' for object of type 'str'".toText
  | .kind c => "Unknown format code '".toText ++ named 128 c ++ "' for object of type 'str'".toText

/-- The greatest number that may be written in a placeholder. -/
def maxNumber : Nat := 0x7FFFFFFFFFFFFFFF

/-- The number that a text spells; none if it is empty or holds anything but digits. -/
def number? (t : Text) : Except Fault (Option Nat) :=
  match t, t.mapM Text.decimal? with
  | _ :: _, some ds =>
    let n := ds.foldl (fun n d => n * 10 + d) 0
    if maxNumber < n then .error .manyDigits else .ok (some n)
  | _, _ => .ok none

/-- How arguments are numbered so far. -/
inductive Numbering
  | undecided
  | automatic (next : Nat)
  | manual
  deriving Repr, DecidableEq

/-- The place of the next argument where none is named. -/
def Numbering.automatically : Numbering → Except Fault (Nat × Numbering)
  | .undecided => .ok (0, .automatic 1)
  | .automatic n => .ok (n, .automatic (n + 1))
  | .manual => .error .toAutomatic

def Numbering.manually : Numbering → Except Fault Numbering
  | .automatic _ => .error .toManual
  | _ => .ok .manual

/-- The name of a placeholder, the character that ends it, and what follows. Within brackets no
character ends it. -/
def readName (bracketed : Bool) : Text → Except Fault (Text × CodePoint × Text)
  | [] => .error .unclosed
  | c :: t =>
    if bracketed then
      (readName (c ≠ ']') t).map fun (name, stop, r) => (c :: name, stop, r)
    else if c = '{' then .error .openingInName
    else if c = '}' ∨ c = ':' ∨ c = '!' then .ok ([], c, t)
    else (readName (c = '[') t).map fun (name, stop, r) => (c :: name, stop, r)

/-- A layout up to the brace that closes the placeholder, and what follows; `depth` braces are open. -/
def readLayout (depth : Nat) : Text → Except Fault (Text × Text)
  | [] => .error .unmatchedLayout
  | c :: t =>
    if c = '}' ∧ depth = 0 then .ok ([], t)
    else
      let depth := if c = '{' then depth + 1 else if c = '}' then depth - 1 else depth
      (readLayout depth t).map fun (spec, r) => (c :: spec, r)

/-- A placeholder as it is written. -/
structure Field where
  name : Text
  conversion : Option CodePoint
  layout : Text
  deriving Repr, DecidableEq

/-- The placeholder that follows an opening brace, and what follows it. -/
def readField (t : Text) : Except Fault (Field × Text) := do
  let (name, stop, r) ← readName false t
  if stop = '}' then return (⟨name, none, []⟩, r)
  if stop = ':' then
    let (layout, r) ← readLayout 0 r
    return (⟨name, none, layout⟩, r)
  match r with
  | [] => .error .conversionEnd
  | [_] => .error .unmatchedLayout
  | c :: d :: r =>
    if d = '}' then return (⟨name, some c, []⟩, r)
    if d ≠ ':' then .error .afterConversion
    let (layout, r) ← readLayout 0 r
    return (⟨name, some c, layout⟩, r)

/-- The parts of an argument that a placeholder asks for, one after another. -/
def select : Nat → Text → Text → Except Fault Text
  | _, value, [] => .ok value
  | 0, value, _ => .ok value
  | fuel + 1, value, c :: t =>
    if c = '.' then
      let name := t.takeWhile fun c : CodePoint => c ≠ '.' && c ≠ '['
      if name.isEmpty then .error .emptyPart else .error (.noAttribute name)
    else if c = '[' then
      match Text.cutAt? ']' t with
      | none => .error .noBracket
      | some (index, r) => do
        match ← number? index with
        | none => if index.isEmpty then .error .emptyPart else .error .textIndex
        | some n =>
          match value[n]? with
          | some d => select fuel [d] r
          | none => .error .charIndex
    else .error .afterBracket

/-- The argument that a placeholder names. -/
def argument (args : List Text) (numbering : Numbering) (name : Text) :
    Except Fault (Text × Numbering) := do
  let first := name.takeWhile fun c : CodePoint => c ≠ '.' && c ≠ '['
  let parts := name.drop first.length
  let (index, numbering) ←
    if first.isEmpty then numbering.automatically
    else match ← number? first with
      | some n => numbering.manually.map fun numbering => (n, numbering)
      | none => .error (.unknownName first)
  match args[index]? with
  | none => .error (.noArgument index)
  | some value => return (← select parts.length value parts, numbering)

def convert (value : Text) : Option CodePoint → Except Fault Text
  | none => .ok value
  | some 's' => .ok value
  | some 'r' => .ok (Text.quoted value)
  | some 'a' => .ok (Text.quotedAscii value)
  | some c => .error (.unknownConversion c)

/-- The digits that a text begins with, as a number, and what follows them. -/
def readNumber (t : Text) : Except Fault (Option Nat × Text) := do
  let digits := t.takeWhile fun c => (Text.decimal? c).isSome
  return (← number? digits, t.drop digits.length)

/-- How a text is laid out: padded on the sides to a width, after a cut to a precision. -/
structure Layout where
  fill : CodePoint := ' '
  align : CodePoint := '<'
  sign : Option CodePoint := none
  negativeZero : Bool := false
  alternate : Bool := false
  width : Option Nat := none
  separator : Option CodePoint := none
  precision : Option Nat := none
  kind : CodePoint := 's'
  deriving Repr, DecidableEq

def isAlign (c : CodePoint) : Bool := c = '<' || c = '>' || c = '=' || c = '^'

/-- Takes a character that the text begins with, if it is one of these. -/
def takeOne (p : CodePoint → Bool) : Text → Option CodePoint × Text
  | [] => (none, [])
  | c :: t => if p c then (some c, t) else (none, c :: t)

def readAlign : Text → Option CodePoint × Option CodePoint × Text
  | f :: a :: t =>
    if isAlign a then (some f, some a, t)
    else if isAlign f then (none, some f, a :: t)
    else (none, none, f :: a :: t)
  | [a] => if isAlign a then (none, some a, []) else (none, none, [a])
  | [] => (none, none, [])

/-- Separators of thousands, of which a layout may name one. -/
def readSeparator (t : Text) : Except Fault (Option CodePoint × Text) :=
  let (comma, t) := takeOne (· = ',') t
  let (score, t) := takeOne (· = '_') t
  match comma, score with
  | some _, some _ => .error .bothSeparators
  | none, some c => if t.head? = some (',' : CodePoint) then .error .bothSeparators else .ok (some c, t)
  | comma, none => .ok (comma, t)

/-- The kinds of number that a separator goes with. -/
def takesSeparator (separator kind : CodePoint) : Bool :=
  "defgEG%F".toText.contains kind || (separator = '_' && "boxX".toText.contains kind)

def Layout.read (spec : Text) : Except Fault Layout := do
  let (fill, align, t) := readAlign spec
  let (sign, t) := takeOne (fun c => c = ' ' || c = '+' || c = '-') t
  let (negativeZero, t) := takeOne (· = 'z') t
  let (alternate, t) := takeOne (· = '#') t
  let (zero, t) := if fill.isSome then (none, t) else takeOne (· = '0') t
  let (width, t) ← readNumber t
  let (separator, t) ← readSeparator t
  let (point, t) := takeOne (· = '.') t
  let (precision, t) ← if point.isSome then readNumber t else pure (none, t)
  if point.isSome ∧ precision = none then .error .noPrecision
  let kind ← match t with
    | [] => pure ('s' : CodePoint)
    | [c] => pure c
    | _ => .error (.layout spec)
  if let some s := separator then
    if takesSeparator s kind = false then .error (.separator s kind)
  return {
    fill := (fill.or zero).getD ' '
    align := align.getD '<'
    sign
    negativeZero := negativeZero.isSome
    alternate := alternate.isSome
    width, separator, precision, kind }

/-- A text takes no layout that is meant for numbers. -/
def Layout.check (l : Layout) : Except Fault Unit :=
  if l.kind ≠ 's' then .error (.kind l.kind)
  else if l.sign = some (' ' : CodePoint) then .error .space
  else if l.sign.isSome then .error .sign
  else if l.negativeZero then .error .negativeZero
  else if l.alternate then .error .alternate
  else if l.align = '=' then .error .alignment
  else .ok ()

def Layout.apply (l : Layout) (value : Text) : Text :=
  let value := match l.precision with
    | some n => value.take n
    | none => value
  let room := l.width.getD 0 - value.length
  let left := if l.align = '>' then room else if l.align = '^' then room / 2 else 0
  List.replicate left l.fill ++ value ++ List.replicate (room - left) l.fill

def layOut (spec value : Text) : Except Fault Text := do
  if spec.isEmpty then return value
  let l ← Layout.read spec
  l.check
  return l.apply value

theorem readName_length {b : Bool} {t name r : Text} {stop : CodePoint}
    (h : readName b t = .ok (name, stop, r)) : r.length < t.length := by
  induction t generalizing b name with
  | nil => simp [readName] at h
  | cons c t ih =>
    have key {b' : Bool} {n : Text}
        (h : (readName b' t).map (fun (name, stop, r) => (c :: name, stop, r)) = .ok (n, stop, r)) :
        r.length < (c :: t).length := by
      cases hr : readName b' t with
      | error e => rw [hr] at h; cases h
      | ok x =>
        obtain ⟨n', s', r'⟩ := x
        rw [hr] at h
        cases h
        have := ih hr
        simp; omega
    unfold readName at h
    split at h
    · exact key h
    split at h
    · cases h
    split at h
    · cases h; simp
    · exact key h

theorem readLayout_length {depth : Nat} {t spec r : Text}
    (h : readLayout depth t = .ok (spec, r)) : r.length < t.length := by
  induction t generalizing depth spec with
  | nil => simp [readLayout] at h
  | cons c t ih =>
    unfold readLayout at h
    split at h
    · cases h; simp
    · simp only at h
      generalize (if c = '{' then depth + 1 else if c = '}' then depth - 1 else depth) = d at h
      cases hr : readLayout d t with
      | error e => rw [hr] at h; cases h
      | ok x =>
        obtain ⟨s', r'⟩ := x
        rw [hr] at h
        cases h
        have := ih hr
        simp at this ⊢; omega

theorem readField_length {t r : Text} {f : Field} (h : readField t = .ok (f, r)) :
    r.length < t.length := by
  unfold readField at h
  cases hn : readName false t with
  | error e => rw [hn] at h; cases h
  | ok x =>
    obtain ⟨name, stop, r₁⟩ := x
    have h₁ := readName_length hn
    rw [hn] at h
    simp only [bind, Except.bind, pure, Except.pure] at h
    split at h
    · cases h; exact h₁
    split at h
    · cases hl : readLayout 0 r₁ with
      | error e => rw [hl] at h; cases h
      | ok y =>
        obtain ⟨s, r₂⟩ := y
        rw [hl] at h; cases h
        have := readLayout_length hl
        simp only; omega
    split at h
    · cases h
    · cases h
    · rename_i c d r₂
      split at h
      · cases h; simp at h₁; omega
      split at h
      · cases h
      · cases hl : readLayout 0 r₂ with
        | error e => rw [hl] at h; cases h
        | ok y =>
          obtain ⟨s, r₃⟩ := y
          rw [hl] at h; cases h
          have := readLayout_length hl
          simp at h₁ ⊢
          omega

/-- The message with its placeholders filled. Layouts hold placeholders to a depth of one. -/
def expand (depth : Nat) (args : List Text) (numbering : Numbering) (t : Text) :
    Except Fault (Text × Numbering) :=
  match depth, t with
  | 0, _ => .error .nesting
  | _ + 1, [] => .ok ([], numbering)
  | depth + 1, c :: t =>
    if c = '{' then
      match t with
      | [] => .error .loneOpening
      | '{' :: t => (expand (depth + 1) args numbering t).map fun (out, n) => ('{' :: out, n)
      | d :: t =>
        match _h : readField (d :: t) with
        | .error f => .error f
        | .ok (f, r) => do
          let (value, numbering) ← argument args numbering f.name
          let value ← convert value f.conversion
          let (layout, numbering) ←
            if f.layout.contains '{' then expand depth args numbering f.layout
            else .ok (f.layout, numbering)
          let shown ← layOut layout value
          let (out, numbering) ← expand (depth + 1) args numbering r
          return (shown ++ out, numbering)
    else if c = '}' then
      match t with
      | '}' :: t => (expand (depth + 1) args numbering t).map fun (out, n) => ('}' :: out, n)
      | _ => .error .loneClosing
    else (expand (depth + 1) args numbering t).map fun (out, n) => (c :: out, n)
termination_by (depth, t.length)
decreasing_by
  all_goals simp_wf
  all_goals first
    | (apply Prod.Lex.left; omega)
    | (apply Prod.Lex.right; have := readField_length _h; simp at this; omega)
    | (apply Prod.Lex.right; omega)

/-- The message with its placeholders filled from the arguments. -/
def fill (args : List Text) (message : Text) : Except Fault Text :=
  (expand 2 args .undecided message).map Prod.fst

end ShellTemplate.Placeholder
