import Mathlib.Data.List.TakeWhile
import ShellTemplate.Proofs.Text.Fits
import ShellTemplate.VersionLine

/-! Assignments of a version. No piece of an assignment goes on with a character that the next piece may
begin with, so an assignment can be read in one way only: every piece as long as it gets. -/
namespace ShellTemplate.VersionLine

/-- What may stand behind the name: an annotation, or nothing. -/
inductive Note : Text → Prop
  | none : Note []
  | type {a w : Text} (ha : ∀ x ∈ a, Text.isBlank x) (hne : w ≠ []) (hw : ∀ x ∈ w, isTypeChar x) :
      Note (':' :: (a ++ w))

/-- A text begins with the assignment of a version. Blanks may stand around the note and behind the `=`,
and the quotes need not be of one kind. -/
inductive Assigns : Text → Text → Prop
  | intro {a note b c v rest : Text} {q r : CodePoint} (ha : ∀ x ∈ a, Text.isBlank x) (hnote : Note note)
      (hb : ∀ x ∈ b, Text.isBlank x) (hc : ∀ x ∈ c, Text.isBlank x) (hq : isQuote q) (hne : v ≠ [])
      (hv : ∀ x ∈ v, ¬ isQuote x) (hr : isQuote r) :
      Assigns ("__version__".toText ++
        (a ++ (note ++ (b ++ ('=' :: (c ++ q :: (v ++ r :: rest)) : Text))))) v

/-- No blank is a letter or a number. -/
lemma not_isAlphanumeric_of_isBlank {c : CodePoint} (h : Text.isBlank c) : ¬ Text.isAlphanumeric c := by
  obtain ⟨r,hr,hlow,hhigh⟩ : ∃ r ∈ Text.blankRanges, r.1 ≤ c.toNat ∧ c.toNat ≤ r.2 := by
    simpa [Text.isBlank,Text.within] using h
  have hends : ∀ r ∈ Text.blankRanges, r.2 ≤ 0x20 ∨ 0x80 ≤ r.1 := by decide
  have hapart : ∀ r ∈ Text.blankRanges, ∀ s ∈ Text.alphanumericRanges, s.2 < r.1 ∨ r.2 < s.1 := by
    decide +kernel
  have hascii : ∀ n ≤ 0x20, ¬ (CodePoint.ofNat n).isAlphanum := by decide
  rw [Text.isAlphanumeric]
  split
  · have hle : c.toNat ≤ 0x20 := by
      obtain h | h := hends r hr <;> omega
    have hnot := hascii c.toNat hle
    rwa [CodePoint.ofNat_toNat] at hnot
  · rw [Text.within_eq_false (hapart r hr) ⟨hlow,hhigh⟩]
    exact Bool.false_ne_true

lemma not_isTypeChar_of_isBlank {c : CodePoint} (h : Text.isBlank c) : ¬ isTypeChar c := by
  have hne : ∀ d : CodePoint, Text.isBlank d = false → c ≠ d := by
    rintro d hd rfl
    exact absurd h (by simp [hd])
  simp [isTypeChar,Text.isWordChar,not_isAlphanumeric_of_isBlank h,hne '_' (by decide),
    hne '[' (by decide),hne ']' (by decide)]

lemma not_isBlank_of_isQuote {q : CodePoint} (h : isQuote q) : ¬ Text.isBlank q := by
  obtain rfl | rfl : q = '\'' ∨ q = '"' := by simpa [isQuote] using h
  · decide
  · decide

/-- A run of characters that nothing lengthens is taken as a whole. -/
lemma run_append {p : CodePoint → Bool} {a t : Text} (ha : ∀ x ∈ a, p x) (ht : ∀ x ∈ t.head?, ¬ p x) :
    (a ++ t).takeWhile p = a ∧ (a ++ t).dropWhile p = t := by
  rw [List.takeWhile_append_of_pos ha,List.dropWhile_append_of_pos ha]
  cases t with
  | nil => simp
  | cons x t => simp [ht x rfl]

/-- A run ends at the first character that does not lengthen it. -/
lemma run_end {p : CodePoint → Bool} {t rest : Text} {r : CodePoint} (h : t.dropWhile p = r :: rest) :
    (∀ x ∈ t.takeWhile p, p x) ∧ ¬ p r ∧ t = t.takeWhile p ++ r :: rest := by
  have hr := List.head?_dropWhile_not p t
  refine ⟨fun x hx => List.mem_takeWhile_imp hx,by simpa [h] using hr,?_⟩
  rw [← h,List.takeWhile_append_dropWhile]

lemma skipBlanks_append {a t : Text} (ha : ∀ x ∈ a, Text.isBlank x)
    (ht : ∀ x ∈ t.head?, ¬ Text.isBlank x) : skipBlanks (a ++ t) = t :=
  (run_append ha ht).2

lemma exists_blanks (t : Text) : ∃ a, (∀ x ∈ a, Text.isBlank x) ∧ t = a ++ skipBlanks t :=
  ⟨t.takeWhile Text.isBlank,fun _ hx => List.mem_takeWhile_imp hx,
    List.takeWhile_append_dropWhile.symm⟩

/-- A note is skipped in front of what does not go on with it. -/
lemma skipType_append {note t : Text} (h : Note note)
    (ht : ∀ x ∈ t.head?, ¬ isTypeChar x ∧ x ≠ ':') : skipType (note ++ t) = t := by
  cases h with
  | none =>
    cases t with
    | nil => rfl
    | cons x t => simp [skipType,(ht x rfl).2]
  | @type a w ha hne hw =>
    have hhead : ∀ x ∈ (w ++ t).head?, ¬ Text.isBlank x := by
      cases w with
      | nil => exact absurd rfl hne
      | cons y w =>
        intro x hx hblank
        obtain rfl : y = x := Option.some.inj hx
        exact not_isTypeChar_of_isBlank hblank (hw y List.mem_cons_self)
    obtain ⟨htake,hdrop⟩ := run_append hw fun x hx => (ht x hx).1
    rw [List.cons_append,List.append_assoc,skipType]
    simp only [skipBlanks_append ha hhead,htake,hdrop]

lemma exists_note (t : Text) : ∃ note, Note note ∧ t = note ++ skipType t := by
  fun_cases skipType t with
  | case1 t t' h => exact ⟨[],.none,rfl⟩
  | case2 t t' h =>
    obtain ⟨a,ha,hat⟩ := exists_blanks t
    refine ⟨':' :: (a ++ t'.takeWhile isTypeChar),.type ha h fun x hx => List.mem_takeWhile_imp hx,?_⟩
    rw [List.cons_append,List.append_assoc,List.takeWhile_append_dropWhile,← hat]
  | case3 t h => exact ⟨[],.none,rfl⟩

/-- What stands between the name and the `=` is skipped. -/
lemma skip_append {a note b t : Text} (ha : ∀ x ∈ a, Text.isBlank x) (hnote : Note note)
    (hb : ∀ x ∈ b, Text.isBlank x) :
    skipBlanks (skipType (skipBlanks (a ++ (note ++ (b ++ ('=' :: t : Text)))))) = ('=' :: t : Text) := by
  have hequals : ∀ x ∈ ('=' :: t : Text).head?, ¬ Text.isBlank x := by
    rintro x ⟨⟩
    decide
  have hskip : skipBlanks (b ++ ('=' :: t : Text)) = ('=' :: t : Text) := skipBlanks_append hb hequals
  cases hnote with
  | none =>
    -- without a note the blanks on both sides of it are one stretch
    have hab : ∀ x ∈ a ++ b, Text.isBlank x := by
      intro x hx
      obtain hx | hx := List.mem_append.1 hx
      · exact ha x hx
      · exact hb x hx
    rw [List.nil_append,← List.append_assoc,skipBlanks_append hab hequals]
    rfl
  | type h hne hw =>
    have hcolon : ∀ x ∈ (':' :: t : Text).head?, ¬ Text.isBlank x := by
      rintro x ⟨⟩
      decide
    have hhead : ∀ x ∈ (b ++ ('=' :: t : Text)).head?, ¬ isTypeChar x ∧ x ≠ ':' := by
      cases b with
      | nil =>
        rintro x ⟨⟩
        decide
      | cons y b =>
        rintro x ⟨⟩
        have hy := hb y List.mem_cons_self
        refine ⟨not_isTypeChar_of_isBlank hy,?_⟩
        rintro rfl
        exact absurd hy (by decide)
    rw [List.cons_append,skipBlanks_append ha (by simpa using hcolon),← List.cons_append,
      skipType_append (.type h hne hw) hhead,hskip]

lemma atStart?_of_assigns {t v : Text} (h : Assigns t v) : atStart? t = some v := by
  obtain @⟨a,note,b,c,v,rest,q,r,ha,hnote,hb,hc,hq,hne,hv,hr⟩ := h
  have hname : Text.after? "__version__".toText ("__version__".toText ++
      (a ++ (note ++ (b ++ ('=' :: (c ++ q :: (v ++ r :: rest)) : Text))))) = some _ :=
    Text.after?_eq_some.2 rfl
  have hquote : skipBlanks (c ++ q :: (v ++ r :: rest)) = q :: (v ++ r :: rest) := by
    apply skipBlanks_append hc
    rintro x ⟨⟩
    exact not_isBlank_of_isQuote hq
  obtain ⟨htake,hdrop⟩ := run_append (p := fun x => !isQuote x) (a := v) (t := r :: rest)
    (by simpa using hv) (by simpa using hr)
  simp only [atStart?,Option.bind_eq_bind,hname,Option.bind_some,skip_append ha hnote hb,Text.after?,
    if_true,hquote,htake,hdrop]
  simp [hq,hne]

lemma assigns_of_atStart? {t v : Text} (h : atStart? t = some v) : Assigns t v := by
  simp only [atStart?,Option.bind_eq_bind,Option.bind_eq_some_iff] at h
  obtain ⟨u,hu,w,hw,h⟩ := h
  obtain ⟨a,ha,hua⟩ := exists_blanks u
  obtain ⟨note,hnote,hun⟩ := exists_note (skipBlanks u)
  obtain ⟨b,hb,hub⟩ := exists_blanks (skipType (skipBlanks u))
  obtain ⟨c,hc,hwc⟩ := exists_blanks w
  rw [Text.after?_eq_some] at hu hw
  cases hs : skipBlanks w with
  | nil => simp [hs] at h
  | cons q s =>
    have ht : t = "__version__".toText ++ (a ++ (note ++ (b ++ ('=' :: (c ++ q :: s) : Text)))) := by
      rw [hu,hua,hun,hub,hw,hwc,hs]
      rfl
    cases hrest : s.dropWhile fun x => !isQuote x with
    | nil => simp [hs,hrest] at h
    | cons r rest =>
      obtain ⟨hv,hr,hsplit⟩ := run_end hrest
      simp only [hs,hrest] at h
      generalize s.takeWhile (fun x => !isQuote x) = version at h hv hsplit
      obtain ⟨⟨hq,hne⟩,rfl⟩ : (isQuote q = true ∧ version ≠ []) ∧ version = v := by simpa using h
      rw [ht,hsplit]
      exact .intro ha hnote hb hc hq hne (by simpa using hv) (by simpa using hr)

/-- An assignment is found where it stands. -/
theorem atStart?_eq_some_iff {t v : Text} : atStart? t = some v ↔ Assigns t v :=
  ⟨assigns_of_atStart?,atStart?_of_assigns⟩

end ShellTemplate.VersionLine
