import ShellTemplate.Proofs.Markup.Literal
import ShellTemplate.Proofs.Text.Fits
import ShellTemplate.Text.Utf8

/-! Plain texts, which are shown as they are. -/
namespace ShellTemplate.Markup

/-- A text that shows as it is: no tag can be in it, no code, and no control. -/
structure IsPlain (t : Text) : Prop where
  ascii : ∀ c ∈ t, Text.isPrintableAscii c
  bracket : ('[' : CodePoint) ∉ t
  backslash : ('\\' : CodePoint) ∉ t
  colon : t.count (':' : CodePoint) ≤ 1

namespace IsPlain
variable {t : Text} (h : IsPlain t)
include h

lemma untagged : Markup.untagged t := by
  have hb := h.bracket
  have hs := h.backslash
  clear h
  induction t with
  | nil => rfl
  | cons c t ih =>
    obtain ⟨hc,hb⟩ := not_or.1 (mt List.mem_cons.2 hb)
    obtain ⟨hd,hs⟩ := not_or.1 (mt List.mem_cons.2 hs)
    simp [Markup.untagged,Ne.symm hc,Ne.symm hd,ih hb hs]

lemma literal : Literal t where
  unknown code hcode := by
    rw [Emoji.codes_of_oneColon h.colon] at hcode
    cases hcode
  escapes hin := h.backslash (hin.subset List.mem_cons_self)

end IsPlain

/-- A character of plain text that is no colon. -/
def isPlainChar (c : CodePoint) : Bool := Text.isPrintableAscii c && c != '[' && c != '\\' && c != ':'

lemma isPlainChar_digit (n : Nat) : isPlainChar (Nat.digitChar n) := by
  by_cases h : n < 16
  · have hsmall : ∀ k : Fin 16, isPlainChar (Nat.digitChar k) := by decide +kernel
    exact hsmall ⟨n,h⟩
  · rw [Nat.digitChar_eq_star.2 (Nat.le_of_not_lt h)]
    decide

lemma all_toDigits {base : Nat} (hbase : 1 < base) (n : Nat) :
    (Nat.toDigits base n).all fun c => isPlainChar c := by
  induction n using Nat.strong_induction_on with
  | _ n ih =>
    rw [Nat.toDigits_eq_if hbase]
    split
    · simpa using isPlainChar_digit n
    · rename_i hn
      have hlt : n / base < n := Nat.div_lt_self (by omega) hbase
      rw [List.all_append,ih _ hlt]
      simpa using isPlainChar_digit (n % base)

lemma all_ofNat (n : Nat) : (Text.ofNat n).all isPlainChar := by
  rw [Text.ofNat,String.toText,Nat.toString_eq_repr,Nat.toList_repr,List.all_map]
  exact all_toDigits (by decide) n

lemma all_hex (width n : Nat) : (Text.hex width n).all isPlainChar := by
  have h0 : isPlainChar '0' := by decide
  have hds : (((Nat.toDigits 16 n).map .scalar : Text)).all isPlainChar := by
    rw [List.all_map]
    exact all_toDigits (by decide) n
  rw [Text.hex,List.all_append,hds]
  simp [List.all_replicate,h0]

end ShellTemplate.Markup
