import ShellTemplate.Proofs.Markup.Plain
import ShellTemplate.Proofs.Text.Trim

/-! What is wrong with a tag by itself: a color in its name, or the parameters of the handler that it closes.
What is said of it has no opening bracket, since a tag has none, and so there is no tag in it. -/
namespace ShellTemplate

namespace Text

lemma bracket_of_all {t : Text} (h : t.all Markup.isPlainChar) : ('[' : CodePoint) ∉ t :=
  fun hm => absurd (List.all_eq_true.1 h _ hm) (by decide)

lemma bracket_quotedChar {shown : CodePoint → Bool} {q c : CodePoint}
    (h : ('[' : CodePoint) ∈ quotedChar shown q c) :
    c = '[' := by
  have hhex : ∀ width n, ('[' : CodePoint) ∉ hex width n :=
    fun width n => bracket_of_all (Markup.all_hex width n)
  revert h
  fun_cases quotedChar shown q c with
  | case1 => simp [eq_comm]
  | case2 => simp
  | case3 => simp
  | case4 => simp
  | case5 => simp [eq_comm]
  | case6 =>
    simp only [hexEscape]
    split
    · simp [hhex]
    · split <;> simp [hhex]

/-- Quotes bring in no opening bracket. -/
lemma bracket_quoted {t : Text} (h : ('[' : CodePoint) ∈ quoted t) : ('[' : CodePoint) ∈ t := by
  have hq : quoteMark t ≠ '[' := by
    unfold quoteMark
    split <;> decide
  simp only [quoted,quotedBy,List.mem_cons,List.mem_append,List.mem_flatMap,List.not_mem_nil,or_false] at h
  obtain h | ⟨c,hc,h⟩ | h := h
  · exact absurd h.symm hq
  · exact bracket_quotedChar h ▸ hc
  · exact absurd h.symm hq

end Text

namespace Markup

lemma ComponentFlaw.bracket (f : ComponentFlaw) : ('[' : CodePoint) ∉ f.message := by
  cases f with
  | empty => decide
  | long digits =>
    have hn := Text.bracket_of_all (all_ofNat digits)
    have hbefore : ('[' : CodePoint) ∉
      "Exceeds the limit (4300 digits) for integer string conversion: value has ".toText := by decide
    have hafter : ('[' : CodePoint) ∉
      " digits; use sys.set_int_max_str_digits() to increase the limit".toText := by decide
    simp only [message,Text.tooManyDigits,List.mem_append]
    rintro ((h | h) | h)
    · exact hbefore h
    · exact hn h
    · exact hafter h

lemma bracket_handlerArgument {t : Text} (h : ('[' : CodePoint) ∉ t) :
    ('[' : CodePoint) ∉ handlerArgument t := by
  have htrim : ('[' : CodePoint) ∉ Text.trim t := fun hm => h ((Text.trim_infix t).subset hm)
  have hdrop := List.dropWhile_suffix (fun c => Text.isWordChar c || c = '.') (l := Text.trim t)
  unfold handlerArgument
  simp only
  split
  · decide
  · rename_i r hr
    split
    · exact fun hm => htrim (hdrop.subset (hr ▸ hm))
    · exact htrim
  · exact htrim

/-- What is open without an opening bracket in its parameters. -/
def Opened.Bare (o : Opened) : Prop := ∀ p ∈ o.parameters, ('[' : CodePoint) ∉ p

lemma bare_of_tag {name tag : Text} (h : ('[' : CodePoint) ∉ tag) :
    Opened.Bare ⟨name,tagParameters? tag⟩ := by
  intro p hp hm
  simp only [Option.mem_def,tagParameters?] at hp
  split at hp
  · cases hp
  · rename_i c r hdrop
    cases hp
    have hsuffix := List.dropWhile_suffix (fun c => c ≠ ('=' : CodePoint)) (l := tag)
    rw [hdrop] at hsuffix
    exact h (hsuffix.subset (List.mem_cons_of_mem c hm))

/-- What is wrong with a handler is said without an opening bracket. -/
lemma Opened.Bare.fault {evaluate : Evaluator}
    (hev : ∀ t, ('[' : CodePoint) ∉ t → ('[' : CodePoint) ∉ (evaluate t).message) {o : Opened} (ho : o.Bare)
    {f : Fault} (h : o.fault? evaluate = some f) : ('[' : CodePoint) ∉ f.message := by
  unfold Opened.fault? at h
  split at h
  · rename_i c p _ hp
    have hparameters : ('[' : CodePoint) ∉ (c :: p : Text) := ho (c :: p) hp
    have hargument := bracket_handlerArgument hparameters
    have hmessage := hev _ hargument
    have herror : ('[' : CodePoint) ∉ "error parsing ".toText := by decide
    have hin : ('[' : CodePoint) ∉ " in ".toText := by decide
    have hend : ('[' : CodePoint) ∉ "; ".toText := by decide
    simp only at h
    split at h
    · cases h
    · rename_i message he
      cases h
      rw [he] at hmessage
      simp only [Fault.message,List.mem_append]
      rintro (((((h | h) | h) | h) | h) | h)
      · exact herror h
      · exact hargument (Text.bracket_quoted h)
      · exact hin h
      · exact hparameters (Text.bracket_quoted h)
      · exact hend h
      · exact hmessage h
    · rename_i message he
      cases h
      rw [he] at hmessage
      simp only [Fault.message,List.mem_append]
      rintro (((h | h) | h) | h)
      · exact herror h
      · exact hparameters (Text.bracket_quoted h)
      · exact hend h
      · exact hmessage h
  · cases h

/-- A tag has no opening bracket. -/
lemma bracket_readTag? {t tag r : Text} (h : readTag? t = some (tag,r)) : ('[' : CodePoint) ∉ tag := by
  cases t with
  | nil => cases h
  | cons c t =>
    rw [readTag?] at h
    split at h
    · rename_i hc
      split at h
      · rename_i body _ _
        split at h
        · cases h
        · rename_i hbody
          cases h
          intro hm
          obtain rfl | hm := List.mem_cons.1 hm
          · exact absurd hc (by decide)
          · exact hbody (List.contains_iff_mem.2 hm)
      · cases h
    · cases h

/-- No tag is in a text without an opening bracket. -/
lemma marks_of_bracketless {t : Text} (h : ('[' : CodePoint) ∉ t) : marks t = ([],t) := by
  have hread : ∀ t : Text, ('[' : CodePoint) ∉ t → readMark? t = none := by
    intro t ht
    induction t with
    | nil => rfl
    | cons c t ih =>
      obtain ⟨hc,ht⟩ := not_or.1 (mt List.mem_cons.2 ht)
      rw [readMark?,ih ht,if_neg (Ne.symm hc)]
      split <;> rfl
  induction t with
  | nil => exact marks_nil
  | cons c t ih => rw [marks_cons (hread _ h),ih (not_or.1 (mt List.mem_cons.2 h)).2]; rfl

end Markup
end ShellTemplate
