import Mathlib.Data.List.TakeWhile
import Mathlib.Tactic.Lemma
import ShellTemplate.Json.Lexeme

/-! Numbers as JSON spells them: a sign, digits without a zero in front of them, a fraction and an exponent.
A text that begins with a number is read as far as the number goes. -/
namespace ShellTemplate.Json

/-- One decimal digit or more. -/
def Digits (ds : Text) : Prop := ds ≠ [] ∧ ∀ c ∈ ds, isDecimal c

/-- A whole number without its sign. No zero stands in front of other digits. -/
def Whole (ds : Text) : Prop := ds = (['0'] : Text) ∨ (Digits ds ∧ ds.head? ≠ some ('0' : CodePoint))

/-- A fraction, which may be missing. -/
def Fraction (t : Text) : Prop := t = [] ∨ ∃ ds : Text, t = ('.' :: ds : Text) ∧ Digits ds

/-- An exponent, which may be missing. -/
def Exponent (t : Text) : Prop :=
  t = [] ∨ ∃ e sign ds, t = e :: (sign ++ ds) ∧ (e = 'e' ∨ e = 'E') ∧
    (sign = [] ∨ sign = (['+'] : Text) ∨ sign = (['-'] : Text)) ∧ Digits ds

def signOf (negative : Bool) : Text := if negative then ['-'] else []

/-- A number that has a fraction or an exponent is kept as it is spelled. -/
inductive SpelledNumber : Symbol → Text → Prop
  | int {negative whole} (hw : Whole whole) :
      SpelledNumber (.int negative whole) (signOf negative ++ whole)
  | float {negative whole part scale} (hw : Whole whole) (hp : Fraction part) (hs : Exponent scale)
      (h : part ≠ [] ∨ scale ≠ []) :
      SpelledNumber (.float (signOf negative ++ whole ++ part ++ scale))
        (signOf negative ++ whole ++ part ++ scale)

/-- What may follow a number. -/
def Ends (r : Text) : Prop := ∀ c ∈ r.head?, isSpace c ∨ c = ',' ∨ c = ']' ∨ c = '}'

lemma Digits.takeWhile {ds : Text} (h : Digits ds) {r : Text} (hr : ∀ c ∈ r.head?, ¬ isDecimal c) :
    (ds ++ r).takeWhile isDecimal = ds := by
  rw [List.takeWhile_append_of_pos h.2]
  cases r with
  | nil => simp
  | cons c r => rw [List.takeWhile_cons_of_neg (hr c rfl),List.append_nil]

lemma wholeDigits_append {ds : Text} (h : Whole ds) {r : Text} (hr : ∀ c ∈ r.head?, ¬ isDecimal c) :
    wholeDigits (ds ++ r) = ds := by
  obtain rfl | ⟨hds,hzero⟩ := h
  · rfl
  · obtain ⟨c,cs,rfl⟩ := List.exists_cons_of_ne_nil hds.1
    unfold wholeDigits
    split
    · rename_i heq
      obtain ⟨rfl,-⟩ := List.cons.inj heq
      exact absurd rfl hzero
    · exact hds.takeWhile hr

lemma fraction_append {p : Text} (h : Fraction p) {r : Text}
    (hr : ∀ c ∈ r.head?, ¬ isDecimal c ∧ c ≠ '.') : fraction (p ++ r) = p := by
  obtain rfl | ⟨ds,rfl,hds⟩ := h
  · rw [List.nil_append]
    unfold fraction
    split
    · exact absurd rfl (hr _ rfl).2
    · rfl
  · have htake := hds.takeWhile fun c hc => (hr c hc).1
    simp [fraction,htake,hds.1]

lemma Digits.head_ne_sign {c : CodePoint} {ds : Text} (h : Digits (c :: ds)) : ¬ (c = '+' ∨ c = '-') := by
  have hc := h.2 c List.mem_cons_self
  rintro (rfl | rfl) <;> exact absurd hc (by decide)

lemma exponent_append {p : Text} (h : Exponent p) {r : Text}
    (hr : ∀ c ∈ r.head?, ¬ isDecimal c ∧ c ≠ 'e' ∧ c ≠ 'E') : exponent (p ++ r) = p := by
  obtain rfl | ⟨e,sign,ds,rfl,he,hsign,hds⟩ := h
  · rw [List.nil_append]
    cases r with
    | nil => rfl
    | cons c r => exact if_neg (not_or.2 (hr c rfl).2)
  · have htake := hds.takeWhile fun c hc => (hr c hc).1
    obtain ⟨c,cs,rfl⟩ := List.exists_cons_of_ne_nil hds.1
    have hc := hds.head_ne_sign
    obtain rfl | rfl | rfl := hsign
    · simp only [List.cons_append] at htake
      simp [exponent,he,hc,htake]
    all_goals
      simp only [List.cons_append] at htake
      simp [exponent,he,htake]

lemma Ends.head {r : Text} (h : Ends r) :
    ∀ c ∈ r.head?, ¬ isDecimal c ∧ c ≠ '.' ∧ c ≠ 'e' ∧ c ≠ 'E' := by
  intro c hc
  simp only [Ends,isSpace,Bool.or_eq_true,decide_eq_true_eq] at h
  obtain ((((rfl | rfl) | rfl) | rfl) | rfl | rfl | rfl) := h c hc <;> decide

lemma Exponent.head {p : Text} (h : Exponent p) {r : Text} (hr : Ends r) :
    ∀ c ∈ (p ++ r).head?, ¬ isDecimal c ∧ c ≠ '.' := by
  obtain rfl | ⟨e,sign,ds,rfl,he,-,-⟩ := h
  · exact fun c hc => ⟨(hr.head c hc).1,(hr.head c hc).2.1⟩
  · rintro c ⟨⟩
    obtain rfl | rfl := he <;> decide

lemma Fraction.head {p : Text} (h : Fraction p) {r : Text} (hr : ∀ c ∈ r.head?, ¬ isDecimal c) :
    ∀ c ∈ (p ++ r).head?, ¬ isDecimal c := by
  obtain rfl | ⟨ds,rfl,-⟩ := h
  · exact hr
  · rintro c ⟨⟩
    decide

lemma Whole.head {ds : Text} (h : Whole ds) : ∃ c cs, ds = c :: cs ∧ isDecimal c := by
  obtain rfl | ⟨⟨hne,hds⟩,-⟩ := h
  · exact ⟨'0',[],rfl,by decide⟩
  · obtain ⟨c,cs,rfl⟩ := List.exists_cons_of_ne_nil hne
    exact ⟨c,cs,rfl,hds c List.mem_cons_self⟩

/-- The parts of a number are read from where it begins. -/
lemma number?_parts (negative : Bool) {whole part scale r : Text} (hw : Whole whole) (hp : Fraction part)
    (hs : Exponent scale) (hr : Ends r) :
    number? (signOf negative ++ whole ++ part ++ scale ++ r) =
      some (if part.isEmpty && scale.isEmpty then .int negative whole
        else .float (signOf negative ++ whole ++ part ++ scale),
        (signOf negative ++ whole ++ part ++ scale).length) := by
  have hwhole : wholeDigits (whole ++ (part ++ (scale ++ r))) = whole :=
    wholeDigits_append hw (hp.head fun c hc => (hs.head hr c hc).1)
  have hpart : fraction (part ++ (scale ++ r)) = part := fraction_append hp (hs.head hr)
  have hscale : exponent (scale ++ r) = scale :=
    exponent_append hs fun c hc => ⟨(hr.head c hc).1,(hr.head c hc).2.2⟩
  have hsign : ((signOf negative ++ (whole ++ (part ++ (scale ++ r)))).head? ==
      some ('-' : CodePoint)) = negative := by
    obtain ⟨c,cs,rfl,hc⟩ := hw.head
    cases negative
    · have hminus : c ≠ '-' := by
        rintro rfl
        exact absurd hc (by decide)
      simpa [signOf] using hminus
    · rfl
  have hne : whole.isEmpty = false := by
    obtain ⟨c,cs,rfl,-⟩ := hw.head
    rfl
  have hdrop : (whole ++ (part ++ (scale ++ r))).drop (whole.length + part.length) = scale ++ r := by
    rw [← List.drop_drop,List.drop_left,List.drop_left]
  simp only [List.append_assoc,number?,hsign]
  rw [← signOf,List.drop_left]
  simp only [hwhole,hne,List.drop_left,hpart,hdrop,hscale]
  rfl

lemma number?_append {s : Symbol} {u r : Text} (h : SpelledNumber s u) (hr : Ends r) :
    number? (u ++ r) = some (s,u.length) := by
  cases h with
  | int hw => simpa using number?_parts _ hw (.inl rfl) (.inl rfl) hr
  | @float negative whole part scale hw hp hs h =>
    rw [number?_parts negative hw hp hs hr,if_neg (by simpa [imp_iff_not_or] using h)]

lemma digits_takeWhile {t : Text} (h : t.takeWhile isDecimal ≠ []) : Digits (t.takeWhile isDecimal) :=
  ⟨h,fun _ hc => List.mem_takeWhile_imp hc⟩

lemma wholeDigits_spec (t : Text) :
    ∃ r, t = wholeDigits t ++ r ∧ (wholeDigits t ≠ [] → Whole (wholeDigits t)) := by
  unfold wholeDigits
  split
  · exact ⟨_,rfl,fun _ => .inl rfl⟩
  · rename_i hzero
    refine ⟨t.dropWhile isDecimal,List.takeWhile_append_dropWhile.symm,
      fun hne => .inr ⟨digits_takeWhile hne,fun h0 => ?_⟩⟩
    cases t with
    | nil => cases h0
    | cons c t =>
      rw [List.takeWhile_cons] at h0
      split at h0
      · cases h0
        exact hzero t rfl
      · cases h0

lemma fraction_spec (t : Text) : ∃ r, t = fraction t ++ r ∧ Fraction (fraction t) := by
  unfold fraction
  split
  · rename_i t
    dsimp only
    split
    · exact ⟨_,rfl,.inl rfl⟩
    · rename_i hne
      refine ⟨t.dropWhile isDecimal,?_,
        .inr ⟨_,rfl,digits_takeWhile fun h => hne (List.isEmpty_iff.2 h)⟩⟩
      rw [List.cons_append,List.takeWhile_append_dropWhile]
  · exact ⟨_,rfl,.inl rfl⟩

lemma exponent_spec (t : Text) : ∃ r, t = exponent t ++ r ∧ Exponent (exponent t) := by
  unfold exponent
  split
  · rename_i e t
    split
    · rename_i he
      extract_lets sign ds
      obtain ⟨hsign,ht⟩ : (sign = [] ∨ sign = (['+'] : Text) ∨ sign = (['-'] : Text)) ∧
          t = sign ++ t.drop sign.length := by
        subst sign
        split
        · split
          · rename_i h
            obtain rfl | rfl := h <;> simp
          · simp
        · simp
      split
      · exact ⟨_,rfl,.inl rfl⟩
      · rename_i hne
        refine ⟨(t.drop sign.length).dropWhile isDecimal,?_,
          .inr ⟨e,sign,ds,rfl,he,hsign,digits_takeWhile fun h => hne (List.isEmpty_iff.2 h)⟩⟩
        rw [List.cons_append,List.append_assoc,List.takeWhile_append_dropWhile,← ht]
    · exact ⟨_,rfl,.inl rfl⟩
  · exact ⟨_,rfl,.inl rfl⟩

/-- A number that is read is one that begins the text. -/
lemma number?_some {t : Text} {s : Symbol} {n : Nat} (h : number? t = some (s,n)) :
    ∃ u r, t = u ++ r ∧ SpelledNumber s u ∧ n = u.length := by
  obtain ⟨negative,w,rfl,hsign⟩ : ∃ negative w, t = signOf negative ++ w ∧
      (t.head? == some ('-' : CodePoint)) = negative := by
    by_cases hm : t.head? = some ('-' : CodePoint)
    · obtain ⟨w,rfl⟩ := List.head?_eq_some_iff.1 hm
      exact ⟨true,w,rfl,rfl⟩
    · exact ⟨false,t,rfl,by simpa using hm⟩
  obtain ⟨x,hx,hw⟩ := wholeDigits_spec w
  obtain ⟨y,hy,hp⟩ := fraction_spec x
  obtain ⟨z,hz,hs⟩ := exponent_spec y
  simp only [number?,hsign] at h
  rw [← signOf,List.drop_left] at h
  generalize wholeDigits w = whole at hx hw h
  subst hx
  rw [← List.drop_drop,List.drop_left] at h
  generalize fraction x = part at hy hp h
  subst hy
  rw [List.drop_left] at h
  generalize exponent y = scale at hz hs h
  subst hz
  split at h
  · cases h
  rename_i hne
  have hw := hw fun h => hne (List.isEmpty_iff.2 h)
  obtain ⟨rfl,rfl⟩ := Prod.mk.inj (Option.some.inj h)
  refine ⟨signOf negative ++ whole ++ part ++ scale,z,by simp,?_,rfl⟩
  split
  · rename_i hempty
    obtain ⟨rfl,rfl⟩ : part = [] ∧ scale = [] := by simpa using hempty
    simpa using SpelledNumber.int hw
  · rename_i hempty
    exact .float hw hp hs (by simpa [imp_iff_not_or] using hempty)

end ShellTemplate.Json
