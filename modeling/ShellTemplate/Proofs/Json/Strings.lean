import Mathlib.Tactic.Lemma
import ShellTemplate.Json.Lexeme
import ShellTemplate.Proofs.Text.Lower

/-! Strings as JSON spells them. Every character may be spelled in several ways, by itself, by a letter
behind a backslash or by its 16-bit units; reading a string accepts these spellings and no others. -/
namespace ShellTemplate.Json

/-- Four hexadecimal digits, in either case, that spell a 16-bit unit. -/
def SpelledUnit (n : Nat) (ds : Text) : Prop :=
  ∃ a b c d, a < 16 ∧ b < 16 ∧ c < 16 ∧ d < 16 ∧ n = ((a * 16 + b) * 16 + c) * 16 + d ∧
    ds.map CodePoint.toLower = [a,b,c,d].map fun k => .scalar k.digitChar

/-- The letters that spell a character behind a backslash. -/
def shortForms : List (CodePoint × CodePoint) :=
  [('"','"'),('\\','\\'),('/','/'),('b','\x08'),('f','\x0c'),('n','\n'),('r','\r'),('t','\t')]

/-- The second half of a pair of units begins the text. -/
def BeginsLow (t : Text) : Prop :=
  ∃ n, ∃ es u : Text, t = ('\\' :: 'u' :: (es ++ u) : Text) ∧ SpelledUnit n es ∧ isLowSurrogate n

/-- `SpelledText s t`: what stands between the quotes, `t`, is read as `s`. A character beyond the first
65536 takes two units; a unit that belongs to no such pair stands for itself, a surrogate like any other. -/
inductive SpelledText : Text → Text → Prop
  | nil : SpelledText [] []
  | raw {c : CodePoint} {s t} (hc : 0x20 ≤ c.toNat) (hq : c ≠ '"') (hb : c ≠ '\\') (h : SpelledText s t) :
      SpelledText (c :: s) (c :: t)
  | short {d c s t} (hd : (d,c) ∈ shortForms) (h : SpelledText s t) :
      SpelledText (c :: s) ('\\' :: d :: t)
  | unit {n ds s t} (hn : SpelledUnit n ds) (ht : isHighSurrogate n → ¬ BeginsLow t)
      (h : SpelledText s t) : SpelledText (.ofNat n :: s) ('\\' :: 'u' :: (ds ++ t))
  | pair {m n ds es s t} (hm : SpelledUnit m ds) (hn : SpelledUnit n es) (hhigh : isHighSurrogate m)
      (hlow : isLowSurrogate n) (h : SpelledText s t) :
      SpelledText (.ofNat (0x10000 + (m - 0xD800) * 0x400 + (n - 0xDC00)) :: s)
        ('\\' :: 'u' :: (ds ++ ('\\' :: 'u' :: (es ++ t) : Text)))

lemma hexDigit?_bounds {c : CodePoint} {k : Nat} (h : hexDigit? c = some k) :
    k < 16 ∧ 48 ≤ c.toNat ∧ c.toNat < 128 := by
  have h0 : ('0' ≤ c ∧ c ≤ '9') ↔ 48 ≤ c.toNat ∧ c.toNat ≤ 57 := Iff.rfl
  have ha : ('a' ≤ c ∧ c ≤ 'f') ↔ 97 ≤ c.toNat ∧ c.toNat ≤ 102 := Iff.rfl
  have hA : ('A' ≤ c ∧ c ≤ 'F') ↔ 65 ≤ c.toNat ∧ c.toNat ≤ 70 := Iff.rfl
  rw [hexDigit?] at h
  simp only [h0,ha,hA] at h
  split at h
  · cases h
    omega
  split at h
  · cases h
    omega
  split at h
  · cases h
    omega
  · cases h

lemma hexDigit?_eq_some_iff {c : CodePoint} {k : Nat} :
    hexDigit? c = some k ↔ k < 16 ∧ c.toLower = Nat.digitChar k := by
  have hascii : ∀ n < 128, ∀ k < 16,
      hexDigit? (.ofNat n) = some k ↔ (CodePoint.ofNat n).toLower = Nat.digitChar k := by
    decide +kernel
  have hdigits : ∀ k < 16, (Nat.digitChar k).toNat < 128 := by decide
  by_cases hc : c.toNat < 128
  · have h := hascii c.toNat hc k
    rw [CodePoint.ofNat_toNat] at h
    constructor
    · exact fun hk => ⟨(hexDigit?_bounds hk).1,(h (hexDigit?_bounds hk).1).1 hk⟩
    · exact fun ⟨hk,hlower⟩ => (h hk).2 hlower
  · refine iff_of_false (fun h => hc (hexDigit?_bounds h).2.2) ?_
    rintro ⟨hk,hlower⟩
    rw [Text.toLower_of_beyond (by omega)] at hlower
    exact hc (hlower ▸ hdigits k hk)

/-- The first four characters spell a unit. -/
lemma unit?_eq_some_iff {t : Text} {n : Nat} :
    unit? t = some n ↔ ∃ ds r, t = ds ++ r ∧ SpelledUnit n ds := by
  constructor
  · intro h
    obtain ⟨x,y,z,w,r,rfl⟩ : ∃ x y z w r, t = x :: y :: z :: w :: r := by
      unfold unit? at h
      split at h
      · exact ⟨_,_,_,_,_,rfl⟩
      · cases h
    simp only [unit?,Option.bind_eq_bind,Option.bind_eq_some_iff,Option.pure_def,Option.some.injEq] at h
    obtain ⟨a,ha,b,hb,c,hc,d,hd,rfl⟩ := h
    obtain ⟨ha,hx⟩ := hexDigit?_eq_some_iff.1 ha
    obtain ⟨hb,hy⟩ := hexDigit?_eq_some_iff.1 hb
    obtain ⟨hc,hz⟩ := hexDigit?_eq_some_iff.1 hc
    obtain ⟨hd,hw⟩ := hexDigit?_eq_some_iff.1 hd
    exact ⟨[x,y,z,w],r,rfl,a,b,c,d,ha,hb,hc,hd,rfl,by simp [hx,hy,hz,hw]⟩
  · rintro ⟨ds,r,rfl,a,b,c,d,ha,hb,hc,hd,rfl,hds⟩
    obtain ⟨x,ds,rfl,hx,hds⟩ := List.map_eq_cons_iff.1 hds
    obtain ⟨y,ds,rfl,hy,hds⟩ := List.map_eq_cons_iff.1 hds
    obtain ⟨z,ds,rfl,hz,hds⟩ := List.map_eq_cons_iff.1 hds
    obtain ⟨w,ds,rfl,hw,hds⟩ := List.map_eq_cons_iff.1 hds
    obtain rfl := List.map_eq_nil_iff.1 hds
    simp [unit?,hexDigit?_eq_some_iff.2 ⟨ha,hx⟩,hexDigit?_eq_some_iff.2 ⟨hb,hy⟩,
      hexDigit?_eq_some_iff.2 ⟨hc,hz⟩,hexDigit?_eq_some_iff.2 ⟨hd,hw⟩]

lemma SpelledUnit.unit?_append {n : Nat} {ds : Text} (h : SpelledUnit n ds) (r : Text) :
    unit? (ds ++ r) = some n :=
  unit?_eq_some_iff.2 ⟨ds,r,rfl,h⟩

lemma SpelledUnit.length {n : Nat} {ds : Text} (h : SpelledUnit n ds) : ds.length = 4 := by
  obtain ⟨a,b,c,d,-,-,-,-,-,hds⟩ := h
  simpa using congrArg List.length hds

lemma SpelledUnit.drop {n : Nat} {ds : Text} (h : SpelledUnit n ds) (r : Text) :
    (ds ++ r).drop 4 = r := by
  rw [← h.length,List.drop_left]

lemma escaped?_eq_some_iff {d c : CodePoint} : escaped? d = some c ↔ (d,c) ∈ shortForms := by
  constructor
  · intro h
    unfold escaped? at h
    split at h <;> cases h <;> decide
  · intro h
    simp only [shortForms,List.mem_cons,Prod.mk.injEq,List.not_mem_nil,or_false] at h
    rcases h with ⟨rfl,rfl⟩ | ⟨rfl,rfl⟩ | ⟨rfl,rfl⟩ | ⟨rfl,rfl⟩ | ⟨rfl,rfl⟩ | ⟨rfl,rfl⟩ | ⟨rfl,rfl⟩ |
      ⟨rfl,rfl⟩
    all_goals rfl

lemma readUnit_pair {m n : Nat} {ds es r : Text} (hm : SpelledUnit m ds) (hn : SpelledUnit n es)
    (hhigh : isHighSurrogate m) (hlow : isLowSurrogate n) (hr : r ≠ []) (position : Nat) :
    readUnit position (ds ++ ('\\' :: 'u' :: (es ++ r) : Text)) = .char (ofPair m n) 11 := by
  simp [readUnit,hm.drop,hm.unit?_append,hn.drop,hn.unit?_append,hhigh,hlow,hr]

/-- A unit with no second half behind it. Where a unit that has one coming behind it follows, that has to be
well formed. -/
lemma readUnit_alone {n : Nat} {ds t : Text} (hn : SpelledUnit n ds) (ht : t ≠ [])
    (hnext : isHighSurrogate n → ∀ r, t = ('\\' :: 'u' :: r : Text) →
      ∃ m, unit? r = some m ∧ ¬ isLowSurrogate m)
    (position : Nat) : readUnit position (ds ++ t) = .char (.ofNat n) 5 := by
  simp only [readUnit,hn.drop,hn.unit?_append,List.isEmpty_iff,if_neg ht]
  split
  · rename_i r
    split
    · rename_i h
      obtain ⟨m,hm,hlow⟩ := hnext h.1 r rfl
      simp [hm,hlow]
    · rfl
  · rfl

/-- What a unit that is read has been: the first half of a pair and its second half, or a unit with no second
half behind it. -/
lemma readUnit_char {position more : Nat} {t : Text} {c : CodePoint}
    (h : readUnit position t = .char c more) :
    ∃ n ds w, t = ds ++ w ∧ SpelledUnit n ds ∧
      ((∃ m es r, w = ('\\' :: 'u' :: (es ++ r) : Text) ∧ SpelledUnit m es ∧ isHighSurrogate n ∧
          isLowSurrogate m ∧ c = ofPair n m ∧ more = 11) ∨
        (c = .ofNat n ∧ more = 5 ∧ (isHighSurrogate n → ∀ m r, w = ('\\' :: 'u' :: r : Text) →
          unit? r = some m → (r.drop 4).isEmpty = false → ¬ isLowSurrogate m))) := by
  unfold readUnit at h
  split at h
  · cases h
  split at h
  · cases h
  rename_i n hn
  obtain ⟨ds,w,rfl,hds⟩ := unit?_eq_some_iff.1 hn
  rw [hds.drop] at h
  refine ⟨n,ds,w,rfl,hds,?_⟩
  split at h
  · rename_i r
    split at h
    · rename_i hhigh
      split at h
      · cases h
      rename_i m hm
      split at h
      · rename_i hlow
        obtain ⟨rfl,rfl⟩ := Written.char.inj h
        obtain ⟨es,r,rfl,hes⟩ := unit?_eq_some_iff.1 hm
        exact .inl ⟨m,es,_,rfl,hes,hhigh.1,hlow,rfl,rfl⟩
      · rename_i hlow
        obtain ⟨rfl,rfl⟩ := Written.char.inj h
        refine .inr ⟨rfl,rfl,fun _ k r' hr hk _ => ?_⟩
        cases hr
        cases hm.symm.trans hk
        exact hlow
    · rename_i hhigh
      obtain ⟨rfl,rfl⟩ := Written.char.inj h
      refine .inr ⟨rfl,rfl,fun hn' m r' hr _ hne => absurd ⟨hn',?_⟩ hhigh⟩
      cases hr
      exact hne
  · rename_i hno
    obtain ⟨rfl,rfl⟩ := Written.char.inj h
    exact .inr ⟨rfl,rfl,fun _ m r hr => absurd hr (hno _)⟩

/-- A spelling never has anything but a unit behind `\u`. -/
lemma SpelledText.exists_unit {s t : Text} (h : SpelledText s ('\\' :: 'u' :: t)) :
    ∃ n ds u, t = ds ++ u ∧ SpelledUnit n ds := by
  cases h with
  | raw hc hq hb h => exact absurd rfl hb
  | short hd h => simp [shortForms] at hd
  | unit hn ht h => exact ⟨_,_,_,rfl,hn⟩
  | pair hm hn hhigh hlow h => exact ⟨_,_,_,rfl,hm⟩

lemma readWritten_raw {c : CodePoint} (hc : 0x20 ≤ c.toNat) (hq : c ≠ '"') (hb : c ≠ '\\')
    (opening position : Nat) (t : Text) : readWritten opening position c t = .char c 0 := by
  simp only [readWritten,if_neg hq,if_neg hb]
  exact if_neg (by omega)

lemma readWritten_short {d c : CodePoint} (hd : (d,c) ∈ shortForms) (opening position : Nat) (t : Text) :
    readWritten opening position '\\' (d :: t) = .char c 1 := by
  have hu : d ≠ 'u' := by
    rintro rfl
    revert hd
    simp [shortForms]
  simp [readWritten,hu,escaped?_eq_some_iff.2 hd]

lemma readWritten_unit (opening position : Nat) (t : Text) :
    readWritten opening position '\\' ('u' :: t) = readUnit position t := by
  simp [readWritten]

/-- One character in front of a string that is read; `w` is all but the first of what it takes. -/
lemma readString_append {opening position : Nat} {c d : CodePoint} {w t s r : Text}
    (hw : readWritten opening position c (w ++ (t ++ ('"' :: r : Text))) = .char d w.length)
    (h : ∀ p, readString opening p (t ++ ('"' :: r : Text)) = .ok (s,p + (t.length + 1),r)) :
    readString opening position (c :: (w ++ t) ++ ('"' :: r : Text)) =
      .ok (d :: s,position + ((c :: (w ++ t)).length + 1),r) := by
  have hat : position + 1 + w.length + (t.length + 1) =
      position + ((c :: (w ++ t)).length + 1) := by
    rw [List.length_cons,List.length_append]
    omega
  rw [List.cons_append,List.append_assoc,readString,hw]
  simp only [List.drop_left,h,hat]
  rfl

/-- A text is read from any of its spellings. -/
theorem readString_spelled {s t : Text} (h : SpelledText s t) (opening position : Nat) (r : Text) :
    readString opening position (t ++ ('"' :: r : Text)) = .ok (s,position + (t.length + 1),r) := by
  induction h generalizing position with
  | nil => simp [readString,readWritten]
  | raw hc hq hb h ih => exact readString_append (w := ([] : Text)) (readWritten_raw hc hq hb ..) ih
  | @short d c s t hd h ih => exact readString_append (w := [d]) (readWritten_short hd ..) ih
  | @pair m n ds es s t hm hn hhigh hlow h ih =>
    have hw : readWritten opening position '\\'
        (('u' :: (ds ++ ('\\' :: 'u' :: es : Text)) : Text) ++ (t ++ ('"' :: r : Text))) =
        .char (ofPair m n) ('u' :: (ds ++ ('\\' :: 'u' :: es : Text)) : Text).length := by
      have hlen : ('u' :: (ds ++ ('\\' :: 'u' :: es : Text)) : Text).length = 11 := by
        simp [hm.length,hn.length]
      rw [hlen,← readUnit_pair hm hn hhigh hlow (r := t ++ ('"' :: r : Text)) (by simp) position]
      simp [readWritten]
    have hread := readString_append hw ih
    simpa [ofPair] using hread
  | @unit n ds s t hn ht h ih =>
    refine readString_append (w := 'u' :: ds) ?_ ih
    rw [List.length_cons,hn.length]
    refine (readWritten_unit ..).trans (readUnit_alone hn (by simp) (fun hhigh r' hr => ?_) position)
    obtain ⟨u,rfl⟩ : ∃ u : Text, t = ('\\' :: 'u' :: u : Text) := by
      obtain _ | ⟨a,_ | ⟨b,u⟩⟩ := t <;> simp_all
    obtain ⟨m,es,u,rfl,hm⟩ := h.exists_unit
    simp only [List.cons_append,List.cons.injEq,true_and,List.append_assoc] at hr
    subst hr
    exact ⟨m,hm.unit?_append _,fun hlow => ht hhigh ⟨m,es,u,rfl,hm,hlow⟩⟩

lemma readUnit_ne_closing (position : Nat) (t : Text) : readUnit position t ≠ .closing := by
  unfold readUnit
  repeat' split
  all_goals nofun

lemma readWritten_closing {opening position : Nat} {c : CodePoint} {t : Text}
    (h : readWritten opening position c t = .closing) : c = '"' := by
  unfold readWritten at h
  split at h
  · assumption
  split at h
  · split at h
    · cases h
    split at h
    · exact (readUnit_ne_closing _ _ h).elim
    split at h <;> cases h
  split at h <;> cases h

/-- What a character that is read has been: itself, a letter behind a backslash or a unit. -/
lemma readWritten_char {opening position more : Nat} {c d : CodePoint} {t : Text}
    (h : readWritten opening position c t = .char d more) :
    (0x20 ≤ c.toNat ∧ c ≠ '"' ∧ c ≠ '\\' ∧ d = c ∧ more = 0) ∨
      (c = '\\' ∧ ∃ e r, t = e :: r ∧ (e,d) ∈ shortForms ∧ more = 1) ∨
      (c = '\\' ∧ ∃ r, t = ('u' :: r : Text) ∧ readUnit position r = .char d more) := by
  unfold readWritten at h
  split at h
  · cases h
  rename_i hq
  split at h
  · rename_i hb
    split at h
    · cases h
    rename_i e r
    split at h
    · rename_i hu
      exact .inr (.inr ⟨hb,r,by rw [hu],h⟩)
    split at h
    · rename_i hd
      obtain ⟨rfl,rfl⟩ := Written.char.inj h
      exact .inr (.inl ⟨hb,e,r,rfl,escaped?_eq_some_iff.1 hd,rfl⟩)
    · cases h
  · rename_i hb
    split at h
    · cases h
    · obtain ⟨rfl,rfl⟩ := Written.char.inj h
      exact .inl ⟨by omega,hq,hb,rfl,rfl⟩

/-- A unit in front of a spelling. -/
lemma SpelledText.of_readUnit {position more : Nat} {d : CodePoint} {t s u r : Text}
    (h : readUnit position t = .char d more) (ht : ('u' :: t : Text).drop more = u ++ ('"' :: r : Text))
    (hu : SpelledText s u) :
    ∃ v, ('\\' :: 'u' :: t : Text) = v ++ ('"' :: r : Text) ∧ SpelledText (d :: s) v := by
  obtain ⟨n,ds,w,rfl,hn,⟨m,es,w,rfl,hm,hhigh,hlow,hd,hmore⟩ | ⟨hd,hmore,hnext⟩⟩ := readUnit_char h
  · have hlen : more = ('u' :: (ds ++ ('\\' :: 'u' :: es : Text)) : Text).length := by
      simp [hmore,hm.length,hn.length]
    have hsplit : ('u' :: (ds ++ ('\\' :: 'u' :: (es ++ w) : Text)) : Text) =
        ('u' :: (ds ++ ('\\' :: 'u' :: es : Text)) : Text) ++ w := by
      simp
    rw [hsplit,hlen,List.drop_left] at ht
    rw [hd,ht]
    exact ⟨_,by simp,hu.pair hn hm hhigh hlow⟩
  · have hlen : more = ('u' :: ds : Text).length := by simp [hmore,hn.length]
    rw [← List.cons_append,hlen,List.drop_left] at ht
    rw [hd,ht]
    refine ⟨_,by simp,hu.unit hn fun hhigh ⟨m,es,v,hv,hm,hlow⟩ => ?_⟩
    subst hv ht
    refine hnext hhigh m (es ++ (v ++ ('"' :: r : Text))) (by simp) (hm.unit?_append _) ?_ hlow
    rw [hm.drop]
    simp

/-- What is read is what was spelled. -/
theorem exists_spelledText {opening position q : Nat} {t s r : Text}
    (h : readString opening position t = .ok (s,q,r)) :
    ∃ u, t = u ++ ('"' :: r : Text) ∧ SpelledText s u := by
  fun_induction readString opening position t generalizing s q r with
  | case1 => cases h
  | case2 position c t hw =>
    obtain rfl := readWritten_closing hw
    cases h
    exact ⟨[],rfl,.nil⟩
  | case3 => cases h
  | case4 position c t d more hw ih =>
    cases hrest : readString opening (position + 1 + more) (t.drop more) with
    | error f => rw [hrest] at h; cases h
    | ok x =>
      obtain ⟨s',q',r'⟩ := x
      rw [hrest] at h
      cases h
      obtain ⟨u,ht,hu⟩ := ih hrest
      obtain ⟨hc,hq,hb,rfl,rfl⟩ | ⟨rfl,e,t,rfl,hd,rfl⟩ | ⟨rfl,t,rfl,hunit⟩ := readWritten_char hw
      · exact ⟨d :: u,congrArg (d :: ·) ht,.raw hc hq hb hu⟩
      · exact ⟨'\\' :: e :: u,congrArg (fun x => ('\\' :: e :: x : Text)) ht,.short hd hu⟩
      · exact hu.of_readUnit hunit ht

end ShellTemplate.Json
