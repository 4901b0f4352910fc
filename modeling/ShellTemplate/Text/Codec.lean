import ShellTemplate.Text.Quoted

/-! Encodings in which texts leave the program. A text with a character that an encoding has no bytes for is
refused with the first stretch of such characters. -/
namespace ShellTemplate.Text

/-- An encoding: the characters that it has bytes for, those without that are let through all the same, and
why any other is refused. Every encoding has bytes for ASCII. -/
structure Codec where
  name : Text
  encodes : CodePoint → Bool
  passes : CodePoint → Bool := fun _ => false
  reason : Text
  ascii : ∀ c, c.toNat < 0x80 → encodes c

/-- The characters `first :: others` at `position` have no bytes. -/
structure Unencodable where
  codec : Text
  position : Nat
  first : CodePoint
  others : Text
  reason : Text
  deriving Repr, DecidableEq

def Unencodable.message (u : Unencodable) : Text :=
  ('\'' :: u.codec : Text) ++ "' codec can't encode ".toText ++
    (if u.others.isEmpty then
      "character '".toText ++ hexEscape u.first ++ "' in position ".toText ++ ofNat u.position
    else
      "characters in position ".toText ++ ofNat u.position ++ (['-'] : Text) ++
        ofNat (u.position + u.others.length)) ++
    ": ".toText ++ u.reason

namespace Codec

def takes (k : Codec) (c : CodePoint) : Bool := k.encodes c || k.passes c

/-- What keeps a text from being encoded, if anything does. The stretch that is refused goes on over
characters that would be let through elsewhere. -/
def fault? (k : Codec) (t : Text) : Option Unencodable :=
  match t.dropWhile k.takes with
  | [] => none
  | c :: r =>
    some ⟨k.name, (t.takeWhile k.takes).length, c, r.takeWhile fun d => !k.encodes d, k.reason⟩

theorem fault?_eq_none_iff {k : Codec} {t : Text} : k.fault? t = none ↔ ∀ c ∈ t, k.takes c := by
  induction t with
  | nil => simp [fault?]
  | cons c t ih =>
    by_cases h : k.takes c
    · have hc : k.fault? (c :: t) = none ↔ k.fault? t = none := by
        simp only [fault?, List.dropWhile_cons_of_pos h]
        split <;> simp
      rw [hc, ih]
      simp [h]
    · simp [fault?, h]

/-- UTF-8. It has no bytes for one half of a surrogate pair. -/
def utf8 : Codec where
  name := "utf-8".toText
  encodes
    | .scalar _ => true
    | .surrogate _ => false
  reason := "surrogates not allowed".toText
  ascii
    | .scalar _, _ => rfl
    | .surrogate n, h => by simp only [CodePoint.toNat] at h; omega

/-- UTF-8 as the names of the system are encoded, which stand for any bytes: of a byte that is no UTF-8 the
character from U+DC80 to U+DCFF is let through. -/
def utf8Names : Codec :=
  { utf8 with passes := fun c => 0xDC80 ≤ c.toNat && c.toNat < 0xDD00 }

end Codec

end ShellTemplate.Text
