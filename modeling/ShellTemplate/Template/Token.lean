import ShellTemplate.Switches
import ShellTemplate.Text.Alphanumeric
import ShellTemplate.Text.Blank

/-! Templates cut into tokens, from left to right in one pass. A token covers a stretch of the template
and says what stands for it in the output: a fixed text, or a slot that a context fills. The cut looks
at the template and the switches and at nothing else. -/
namespace ShellTemplate

inductive Style
  | dos | sh
  deriving Repr, DecidableEq

/-- A complete expression: the key to look up, and the text to use where the key has no value. -/
structure Slot where
  style : Style
  key : Text
  fallback : Option Text
  deriving Repr, DecidableEq

/-- What stands for a slot that has neither a value nor a fallback. -/
def Slot.unresolved (s : Slot) : Text :=
  match s.style with
  | .dos => '%' :: (s.key ++ (['%'] : Text))
  | .sh => '$' :: '{' :: (s.key ++ (['}'] : Text))

inductive Piece
  | copy (t : Text)
  | slot (s : Slot)
  deriving Repr, DecidableEq

/-- `finished` is false if the template ended before it was clear where the token ends. -/
structure Token where
  source : Text
  piece : Piece
  finished : Bool
  deriving Repr, DecidableEq

namespace Template

/-- A stretch of text, what it stands for, and what follows it. -/
structure Part where
  source : Text
  value : Text
  rest : Text

def Part.push (source value : Text) (p : Part) : Part :=
  ⟨source ++ p.source, value ++ p.value, p.rest⟩

/-- A default up to the brace that ends it; none if the template ends first. A backslash before a brace
takes the brace as it is and vanishes; before anything else it stays. -/
def readDefault : Text → Option Part
  | [] => none
  | '}' :: t => some ⟨['}'], [], t⟩
  | '\\' :: c :: t =>
    (readDefault t).map (.push ['\\', c] (if c = '{' ∨ c = '}' then [c] else ['\\', c]))
  | c :: t => (readDefault t).map (.push [c] [c])

/-- What follows `${`: a body with its closing brace, or the rest of a template that ends first, with
what is copied in its place. -/
inductive Body
  | closed (source name : Text) (fallback : Option Text) (rest : Text)
  | cut (copied : Text)

def Body.push (source value : Text) : Body → Body
  | .closed s name fallback rest => .closed (source ++ s) (value ++ name) fallback rest
  | .cut copied => .cut (value ++ copied)

/-- The name ends at the first separator, if defaults are admitted, or else at the closing brace. A
backslash before a separator vanishes; before anything else it stays, and what it stands before ends
nothing. -/
def readBody (defaults : Bool) : Text → Body
  | [] => .cut []
  | '}' :: t => .closed ['}'] [] none t
  | '\\' :: c :: t => (readBody defaults t).push ['\\', c] (if c = ':' then [':'] else ['\\', c])
  | c :: t =>
    if c = ':' ∧ defaults then
      match readDefault t with
      | some p => .closed (':' :: p.source) [] (some p.value) p.rest
      | none => .cut (':' :: t)
    else (readBody defaults t).push [c] [c]

/-- The token that begins with `$`, and what follows it; `t` is what follows the `$`. -/
def readDollar (defaults : Bool) : Text → Token × Text
  | [] => (⟨['$'], .copy ['$'], false⟩, [])
  | c :: t =>
    if c = '{' then
      match readBody defaults t with
      | .closed s name fallback rest =>
        (⟨'$' :: '{' :: s, .slot ⟨.sh, Text.trim name, fallback⟩, true⟩, rest)
      | .cut copied => (⟨'$' :: '{' :: t, .copy ('$' :: '{' :: copied), false⟩, [])
    else (⟨['$', c], .copy ['$', c], true⟩, t)

/-- The token that begins with `%`. Its name is the longest run of letters and numbers; a name that no
`%` follows is copied, and what stopped it begins the next token. -/
def readPercent (t : Text) : Token × Text :=
  let name := t.takeWhile Text.isAlphanumeric
  match t.dropWhile Text.isAlphanumeric with
  | [] => (⟨'%' :: name, .copy ('%' :: name), false⟩, [])
  | c :: r =>
    if c = '%' then
      (⟨'%' :: (name ++ (['%'] : Text)),
        if name = [] then .copy ['%'] else .slot ⟨.dos, name, none⟩, true⟩, r)
    else (⟨'%' :: name, .copy ('%' :: name), true⟩, c :: r)

/-- The token that begins with `\`, which vanishes before `$` and stays before anything else. -/
def readBackslash : Text → Token × Text
  | [] => (⟨['\\'], .copy ['\\'], false⟩, [])
  | c :: t => (⟨['\\', c], .copy (if c = '$' then ['$'] else ['\\', c]), true⟩, t)

/-- The first token of `c :: t`, and what follows it. -/
def readToken (sw : Switches) (c : CodePoint) (t : Text) : Token × Text :=
  if c = '%' ∧ sw.dos then readPercent t
  else if c = '$' ∧ sw.sh then readDollar sw.defaults t
  else if c = '\\' ∧ sw.sh then readBackslash t
  else (⟨[c], .copy [c], true⟩, t)

theorem readDefault_append {t : Text} {p : Part} (h : readDefault t = some p) :
    t = p.source ++ p.rest := by
  fun_induction readDefault t generalizing p with
  | case1 => simp at h
  | case2 t => cases h; rfl
  | case3 c t ih =>
    obtain ⟨q, hq, rfl⟩ := Option.map_eq_some_iff.1 h
    simp [Part.push, ih hq]
  | case4 c t _ _ ih =>
    obtain ⟨q, hq, rfl⟩ := Option.map_eq_some_iff.1 h
    simp [Part.push, ih hq]

theorem readBody_append {defaults : Bool} {t s name rest : Text} {fallback : Option Text}
    (h : readBody defaults t = .closed s name fallback rest) : t = s ++ rest := by
  fun_induction readBody defaults t generalizing s name fallback rest with
  | case1 => simp at h
  | case2 t => cases h; rfl
  | case3 c t ih =>
    cases hb : readBody defaults t with
    | closed s' n' f' r' => rw [hb] at h; cases h; simp [ih hb]
    | cut => rw [hb] at h; cases h
  | case4 c t _ _ hc p hp => cases h; simp [readDefault_append hp, hc.1]
  | case5 => cases h
  | case6 c t _ _ _ ih =>
    cases hb : readBody defaults t with
    | closed s' n' f' r' => rw [hb] at h; cases h; simp [ih hb]
    | cut => rw [hb] at h; cases h

/-- Nothing is lost and nothing is read twice. -/
theorem readToken_append (sw : Switches) (c : CodePoint) (t : Text) :
    (readToken sw c t).1.source ++ (readToken sw c t).2 = c :: t := by
  unfold readToken
  split
  · rename_i h
    have := List.takeWhile_append_dropWhile (p := Text.isAlphanumeric) (l := t)
    unfold readPercent
    split
    · rename_i hd; simpa [hd, h.1] using this
    · rename_i d r hd
      rw [hd] at this
      split
      · rename_i hp; simp_all
      · simp [this, h.1]
  split
  · rename_i h
    unfold readDollar
    split
    · simp [h.1]
    · rename_i d t
      split
      · rename_i hd
        split
        · rename_i hb; simp [readBody_append hb, hd, h.1]
        · simp [hd, h.1]
      · simp [h.1]
  split
  · rename_i h; cases t <;> simp [readBackslash, h.1]
  · simp

theorem readToken_source_ne_nil (sw : Switches) (c : CodePoint) (t : Text) :
    (readToken sw c t).1.source ≠ [] := by
  unfold readToken readPercent readDollar readBackslash
  repeat' split
  all_goals simp

theorem readToken_length (sw : Switches) (c : CodePoint) (t : Text) :
    (readToken sw c t).2.length < (c :: t).length := by
  have h := congrArg List.length (readToken_append sw c t)
  have := List.length_pos_iff.2 (readToken_source_ne_nil sw c t)
  rw [List.length_append] at h
  omega

/-- All tokens of a template, in order. -/
def tokens (sw : Switches) : Text → List Token
  | [] => []
  | c :: t => (readToken sw c t).1 :: tokens sw (readToken sw c t).2
termination_by t => t.length
decreasing_by exact readToken_length sw c t

/-- The tokens cover the template, each character once. -/
theorem flatMap_source_tokens (sw : Switches) (t : Text) :
    (tokens sw t).flatMap Token.source = t := by
  fun_induction tokens sw t with
  | case1 => rfl
  | case2 c t ih => rw [List.flatMap_cons, ih, readToken_append]

end Template

end ShellTemplate
