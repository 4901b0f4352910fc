import ShellTemplate.Markup.EmojiTable
import ShellTemplate.Text.Blank
import ShellTemplate.Text.Lowercase

/-! Emoji codes: names of emoji between colons, of which those that are known are replaced. A code may
say after a hyphen whether the emoji is to be a picture or a character. -/
namespace ShellTemplate.Markup.Emoji

/-- The skin tones, each with the character that gives it. -/
def tones : List (Text × CodePoint) :=
  [("light".toText, Char.ofNat 0x1F3FB), ("medium-light".toText, Char.ofNat 0x1F3FC),
    ("medium".toText, Char.ofNat 0x1F3FD), ("medium-dark".toText, Char.ofNat 0x1F3FE),
    ("dark".toText, Char.ofNat 0x1F3FF)]

/-- The text before an ending, if the text ends with it. -/
def before? (ending t : Text) : Option Text :=
  (Text.after? ending.reverse t.reverse).map List.reverse

/-- The emoji in a skin tone, which stands after its first character, in place of a variant mark. -/
def toned (tone : CodePoint) : Text → Text
  | a :: '\ufe0f' :: t => a :: tone :: t
  | a :: t => a :: tone :: t
  | [] => []

/-- The emoji of people in a skin tone that a name ends with. -/
def tonedNamed? (name : Text) : Option Text :=
  tones.findSome? fun (tone, c) => do
    let base ← before? (('_' :: tone : Text) ++ "_skin_tone".toText) name
    return toned c (← people.lookup base)

/-- The emoji with a name in lower case. -/
def named? (name : Text) : Option Text :=
  (others.lookup name).or ((people.lookup name).or (tonedNamed? name))

/-- A code without its colons in parts: the name, and the character that chooses the variant. -/
def parts (code : Text) : Text × Text :=
  match before? "-emoji".toText code, before? "-text".toText code with
  | some name, _ => (name, ['\ufe0f'])
  | _, some name => (name, ['\ufe0e'])
  | _, _ => (code, [])

/-- What stands for a code. One that is unknown stays. -/
def shown (code : Text) : Text :=
  let (name, variant) := parts code
  match named? (Text.lower name) with
  | some emoji => emoji ++ variant
  | none => ':' :: (code ++ ([':'] : Text))

/-- The code that a colon opens, and what follows it. A code holds no blanks. -/
def readCode? (t : Text) : Option (Text × Text) :=
  match Text.cutAt? ':' t with
  | some (code, r) => if code.any Text.isBlank then none else some (code, r)
  | none => none

theorem readCode?_length {t code r : Text} (h : readCode? t = some (code, r)) :
    r.length < t.length := by
  unfold readCode? at h
  split at h
  · rename_i hc
    split at h
    · cases h
    · cases h
      rw [(Text.cutAt?_eq_some.1 hc).1]
      simp; omega
  · cases h

/-- The text with its codes replaced. -/
def replace : Text → Text
  | [] => []
  | c :: t =>
    match _h : if c = ':' then readCode? t else none with
    | some (code, r) => shown code ++ replace r
    | none => c :: replace t
termination_by t => t.length
decreasing_by
  · split at _h
    · have := readCode?_length _h; simp only [List.length_cons]; omega
    · cases _h
  · exact Nat.lt_succ_self _

/-- A text without a colon has no codes. -/
theorem replace_of_noColon {t : Text} (h : (':' : CodePoint) ∉ t) : replace t = t := by
  induction t with
  | nil => simp [replace]
  | cons c t ih =>
    simp only [List.mem_cons, not_or] at h
    rw [replace]
    split
    · rename_i hc
      simp [Ne.symm h.1] at hc
    · rw [ih h.2]

end ShellTemplate.Markup.Emoji
