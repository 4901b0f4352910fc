/-! Text as a list of code points, so that a column is an index and a prefix is a prefix. A code point need
not be a character: one half of a surrogate pair may stand alone, which no encoding has bytes for. -/
namespace ShellTemplate

inductive CodePoint
  | scalar (c : Char)
  | surrogate (n : Fin 0x800)
  deriving Repr, DecidableEq

abbrev Text := List CodePoint

end ShellTemplate

def String.toText (s : String) : ShellTemplate.Text := s.toList.map .scalar

namespace ShellTemplate

instance : Coe Char CodePoint := ⟨.scalar⟩

namespace CodePoint

def toNat : CodePoint → Nat
  | .scalar c => c.toNat
  | .surrogate n => 0xD800 + n

@[simp] theorem toNat_scalar (c : Char) : (CodePoint.scalar c).toNat = c.toNat := rfl

instance : LE CodePoint := ⟨fun a b => a.toNat ≤ b.toNat⟩

instance (a b : CodePoint) : Decidable (a ≤ b) := inferInstanceAs (Decidable (a.toNat ≤ b.toNat))

/-- The code point of a number; the numbers of no code point stand for U+0000. -/
def ofNat (n : Nat) : CodePoint :=
  if h : 0xD800 ≤ n ∧ n < 0xE000 then .surrogate ⟨n - 0xD800, by omega⟩ else .scalar (Char.ofNat n)

theorem ofNat_toNat (c : CodePoint) : ofNat c.toNat = c := by
  cases c with
  | scalar c =>
    have h : ¬ (0xD800 ≤ c.toNat ∧ c.toNat < 0xE000) := by
      have hvalid := c.valid
      change c.toNat.isValidChar at hvalid
      simp only [Nat.isValidChar] at hvalid
      omega
    simp [ofNat, toNat, h]
  | surrogate n =>
    have hn := n.isLt
    have h : 0xD800 ≤ 0xD800 + n.val ∧ 0xD800 + n.val < 0xE000 := by omega
    simp [ofNat, toNat, h.2]

theorem toNat_ofNat {n : Nat} (h : n < 0x110000) : (ofNat n).toNat = n := by
  unfold ofNat
  split
  · simp only [toNat]
    omega
  · have hvalid : n.isValidChar := by
      simp only [Nat.isValidChar]
      omega
    have hchar : Char.ofNat n = Char.ofNatAux n hvalid := dif_pos hvalid
    rw [hchar]
    rfl

theorem toNat_lt (c : CodePoint) : c.toNat < 0x110000 := by
  cases c with
  | scalar c =>
    have hvalid := c.valid
    change c.toNat.isValidChar at hvalid
    simp only [Nat.isValidChar] at hvalid
    simp only [toNat]
    omega
  | surrogate n =>
    simp only [toNat]
    omega

theorem toNat_injective {c d : CodePoint} (h : c.toNat = d.toNat) : c = d := by
  rw [← ofNat_toNat c, ← ofNat_toNat d, h]

/-- The small letter of an ASCII capital. -/
def toLower : CodePoint → CodePoint
  | .scalar c => .scalar c.toLower
  | .surrogate n => .surrogate n

def isDigit : CodePoint → Bool
  | .scalar c => c.isDigit
  | .surrogate _ => false

def isAlpha : CodePoint → Bool
  | .scalar c => c.isAlpha
  | .surrogate _ => false

def isAlphanum : CodePoint → Bool
  | .scalar c => c.isAlphanum
  | .surrogate _ => false

end CodePoint

namespace Text

/-- Whether a code point lies in one of the closed ranges. -/
def within (ranges : List (Nat × Nat)) (n : Nat) : Bool :=
  ranges.any fun r => r.1 ≤ n && n ≤ r.2

/-- What follows a beginning, if the text begins with it. -/
def after? : Text → Text → Option Text
  | [], t => some t
  | _ :: _, [] => none
  | p :: ps, c :: t => if p = c then after? ps t else none

theorem after?_eq_some {p t r : Text} : after? p t = some r ↔ t = p ++ r := by
  induction p generalizing t with
  | nil => simp [after?, eq_comm]
  | cons a p ih =>
    cases t with
    | nil => simp [after?]
    | cons c t =>
      simp only [after?]
      split
      · rename_i h; simp [h, ih]
      · rename_i h; simp [Ne.symm h]

/-- The text before the first `mark` and the text after it, if there is one. -/
def cutAt? (mark : CodePoint) : Text → Option (Text × Text)
  | [] => none
  | c :: t => if c = mark then some ([], t) else (cutAt? mark t).map fun (a, b) => (c :: a, b)

theorem cutAt?_eq_some {mark : CodePoint} {t a b : Text} :
    cutAt? mark t = some (a, b) ↔ t = a ++ mark :: b ∧ mark ∉ a := by
  induction t generalizing a with
  | nil => simp [cutAt?]
  | cons c t ih =>
    simp only [cutAt?]
    split
    · rename_i h
      subst h
      cases a with
      | nil => simp [eq_comm]
      | cons d a => simp; rintro rfl; simp
    · rename_i h
      simp only [Option.map_eq_some_iff, Prod.exists, Prod.mk.injEq]
      constructor
      · rintro ⟨x, y, hxy, rfl, rfl⟩
        obtain ⟨rfl, hx⟩ := ih.1 hxy
        simp [Ne.symm h, hx]
      · rintro ⟨e, ha⟩
        cases a with
        | nil => simp at e; exact (h e.1).elim
        | cons d a =>
          simp only [List.cons_append, List.cons.injEq] at e
          exact ⟨a, b, ih.2 ⟨e.2, fun h' => ha (by simp [h'])⟩, by rw [e.1], rfl⟩

theorem cutAt?_eq_none {mark : CodePoint} {t : Text} : cutAt? mark t = none ↔ mark ∉ t := by
  induction t with
  | nil => simp [cutAt?]
  | cons c t ih =>
    rw [cutAt?, List.mem_cons, not_or]
    by_cases hc : c = mark
    · simp [hc]
    · simp [hc, ih, Ne.symm hc]

/-- Whether a text is not after another in the order of code points. -/
def notAfter : Text → Text → Bool
  | [], _ => true
  | _ :: _, [] => false
  | a :: s, b :: t => a.toNat < b.toNat || (a == b && notAfter s t)

/-- Texts with a separator between neighbours. -/
def joined (sep : Text) (parts : List Text) : Text := sep.intercalate parts

/-- A whole number in decimal. -/
def ofNat (n : Nat) : Text := (toString n).toText

/-- An integer in decimal, with `-` before a negative one. -/
def ofInt (i : Int) : Text := (toString i).toText

end Text

end ShellTemplate
