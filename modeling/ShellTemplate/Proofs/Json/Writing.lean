import Mathlib.Data.List.Chain
import ShellTemplate.Json.Writer
import ShellTemplate.Proofs.Json.Grammar
import ShellTemplate.Proofs.Text.Encoding

/-! JSON that is written in ASCII. Every text has a spelling in it, and so has every object of texts. -/
namespace ShellTemplate.Json

/-- A unit of 16 bits takes four digits. -/
lemma hex_unit {n : Nat} (h : n < 0x10000) :
    Text.hex 4 n = [n / 16 / 16 / 16,n / 16 / 16 % 16,n / 16 % 16,n % 16].map fun k =>
      .scalar k.digitChar := by
  have hdigits : ∀ m, Nat.toDigits 16 m =
      if m < 16 then [m.digitChar] else Nat.toDigits 16 (m / 16) ++ [(m % 16).digitChar] :=
    fun m => Nat.toDigits_eq_if (by decide)
  rw [Text.hex,hdigits n]
  split
  · have h1 : n / 16 = 0 := by omega
    have h0 : n % 16 = n := by omega
    simp [h1,h0]
  rw [hdigits (n / 16)]
  split
  · have h2 : n / 16 / 16 = 0 := by omega
    have h1 : n / 16 % 16 = n / 16 := by omega
    simp [h2,h1]
  rw [hdigits (n / 16 / 16)]
  split
  · have h3 : n / 16 / 16 / 16 = 0 := by omega
    have h2 : n / 16 / 16 % 16 = n / 16 / 16 := by omega
    simp [h3,h2]
  rw [hdigits (n / 16 / 16 / 16),if_pos (by omega)]
  simp

lemma spelledUnit_hex {n : Nat} (h : n < 0x10000) : SpelledUnit n (Text.hex 4 n) := by
  have hlower : ∀ k < 16, (CodePoint.scalar k.digitChar).toLower = .scalar k.digitChar := by decide
  refine ⟨n / 16 / 16 / 16,n / 16 / 16 % 16,n / 16 % 16,n % 16,by omega,by omega,by omega,by omega,
    by omega,?_⟩
  rw [hex_unit h]
  simp only [List.map_cons,List.map_nil]
  rw [hlower _ (by omega),hlower _ (by omega),hlower _ (by omega),hlower _ (by omega)]

/-- No first half of a pair stands right before a second half. -/
def Unpaired (t : Text) : Prop :=
  t.IsChain fun c d => ¬ (isHighSurrogate c.toNat ∧ isLowSurrogate d.toNat)

instance (t : Text) : Decidable (Unpaired t) := inferInstanceAs (Decidable (List.IsChain _ t))

/-- A character beyond the first 65536 is written as its two units. -/
lemma SpelledText.twoUnits {c : CodePoint} {m n : Nat} {t u : Text} (h : SpelledText t u)
    (hc : 0x10000 ≤ c.toNat) (hm : 0xD800 + (c.toNat - 0x10000) / 0x400 = m)
    (hn : 0xDC00 + (c.toNat - 0x10000) % 0x400 = n) :
    SpelledText (c :: t) (writtenUnit m ++ writtenUnit n ++ u) := by
  have hlt := c.toNat_lt
  have hhigh : isHighSurrogate m := by
    simp only [isHighSurrogate,Bool.and_eq_true,decide_eq_true_eq]
    omega
  have hlow : isLowSurrogate n := by
    simp only [isLowSurrogate,Bool.and_eq_true,decide_eq_true_eq]
    omega
  have hnumber : 0x10000 + (m - 0xD800) * 0x400 + (n - 0xDC00) = c.toNat := by omega
  have hspelled := h.pair (spelledUnit_hex (n := m) (by omega)) (spelledUnit_hex (n := n) (by omega))
    hhigh hlow
  rw [hnumber,CodePoint.ofNat_toNat] at hspelled
  simpa [writtenUnit] using hspelled

/-- Written characters begin with a second half only if the first of them is one. -/
lemma isLowSurrogate_of_beginsLow {c : CodePoint} {u : Text} (h : BeginsLow (writtenChar c ++ u)) :
    isLowSurrogate c.toNat := by
  obtain ⟨n,es,v,hv,hn,hlow⟩ := h
  have hunit : ∀ m w, m < 0x10000 → writtenUnit m ++ w = ('\\' :: 'u' :: (es ++ v) : Text) → m = n := by
    intro m w hm heq
    have hes : Text.hex 4 m ++ w = es ++ v := by simpa [writtenUnit] using heq
    have hm' := (spelledUnit_hex hm).unit?_append w
    rw [hes,hn.unit?_append] at hm'
    exact (Option.some.inj hm').symm
  have hlt := c.toNat_lt
  unfold writtenChar at hv
  split at hv
  · simp at hv
  split at hv
  · simp at hv
  split at hv
  · simp_all
  split at hv
  · rename_i hone
    rwa [hunit _ _ hone hv]
  · rename_i hone
    rw [List.append_assoc] at hv
    have heq := hunit _ _ (by omega) hv
    simp only [isLowSurrogate,Bool.and_eq_true,decide_eq_true_eq] at hlow
    omega

lemma SpelledText.writtenChar {t u : Text} (h : SpelledText t u) (c : CodePoint)
    (hu : isHighSurrogate c.toNat → ¬ BeginsLow u) : SpelledText (c :: t) (writtenChar c ++ u) := by
  unfold Json.writtenChar
  split
  · rename_i hq
    subst hq
    exact .short (by decide) h
  split
  · rename_i hb
    subst hb
    exact .short (by decide) h
  rename_i hq hb
  split
  · rename_i hshown
    exact .raw hshown.1 hq hb h
  split
  · rename_i hone
    have hspelled := h.unit (spelledUnit_hex hone) hu
    rwa [CodePoint.ofNat_toNat] at hspelled
  · rename_i hone
    exact h.twoUnits (by omega) rfl rfl

/-- What is written of a text spells it, unless two halves of it would be read as a pair. -/
theorem spelledText_written {t : Text} (h : Unpaired t) : SpelledText t (t.flatMap writtenChar) := by
  induction t with
  | nil => exact .nil
  | cons c t ih =>
    refine (ih (List.IsChain.tail h)).writtenChar c fun hhigh hu => ?_
    cases t with
    | nil => obtain ⟨_,_,_,hu,-⟩ := hu; cases hu
    | cons d t =>
      rw [List.flatMap_cons] at hu
      exact (List.isChain_cons_cons.1 h).1 ⟨hhigh,isLowSurrogate_of_beginsLow hu⟩

lemma spelledName_written {k : Text} (h : Unpaired k) : SpelledName k (writtenText k) :=
  ⟨[],k.flatMap writtenChar,[],rfl,nofun,nofun,spelledText_written h⟩

/-- What is written of an object of texts is that object. -/
theorem spelled_write_texts {n : Nat} {es : List (Text × Text)}
    (h : ∀ e ∈ es, Unpaired e.1 ∧ Unpaired e.2) :
    Spelled (n + 1) (.spaced (.object (es.map fun e => (e.1,.text e.2))))
      (write (.object (es.map fun e => (e.1,.text e.2)))) := by
  have hvalue : ∀ {t}, Unpaired t → Spelled n (.spaced (.text t)) (writtenText t) := by
    intro t ht
    have hspaced := Spelled.spaced (a := []) (b := []) nofun nofun
      (.scalar (n := n) (.text (spelledText_written ht)) (.text t))
    simpa [writtenText] using hspaced
  have hmembers : ∀ e (es : List (Text × Text)), (∀ d ∈ e :: es, Unpaired d.1 ∧ Unpaired d.2) →
      Spelled n (.members ((e :: es).map fun e => (e.1,.text e.2)))
        (Text.joined [','] (writeMembers ((e :: es).map fun e => (e.1,.text e.2)))) := by
    intro e es hes
    obtain ⟨⟨hk,hv⟩,hrest⟩ := List.forall_mem_cons.1 hes
    induction es generalizing e with
    | nil =>
      have hlast := Spelled.lastMember (spelledName_written hk) (hvalue hv)
      simpa [writeMembers,write,Text.joined] using hlast
    | cons d es ih =>
      obtain ⟨⟨hk',hv'⟩,hrest'⟩ := List.forall_mem_cons.1 hrest
      have hmore := Spelled.member (spelledName_written hk) (hvalue hv) (ih d hrest hrest' hk' hv')
      simpa [writeMembers,write,Text.joined,List.intercalate_cons_cons] using hmore
  have hobject : Spelled (n + 1) (.value (.object (es.map fun e => (e.1,.text e.2))))
      (write (.object (es.map fun e => (e.1,.text e.2)))) := by
    cases es with
    | nil => exact .emptyObject (a := []) nofun
    | cons e es => exact .object (hmembers e es h)
  simpa using Spelled.spaced (a := []) (b := []) nofun nofun hobject

open Text.Utf8 (HasBytes)

lemma SpelledUnit.lt {n : Nat} {ds : Text} (h : SpelledUnit n ds) : n < 0x10000 := by
  obtain ⟨a,b,c,d,ha,hb,hc,hd,rfl,-⟩ := h
  omega

lemma toNat_pair {m n : Nat} (hhigh : isHighSurrogate m) (hlow : isLowSurrogate n) :
    0x10000 ≤ (CodePoint.ofNat (0x10000 + (m - 0xD800) * 0x400 + (n - 0xDC00))).toNat := by
  simp only [isHighSurrogate,isLowSurrogate,Bool.and_eq_true,decide_eq_true_eq] at hhigh hlow
  rw [CodePoint.toNat_ofNat (by omega)]
  omega

/-- Where no half of a pair stands by itself, only a unit is read as a second half. -/
lemma SpelledText.beginsLow {d : CodePoint} {s t : Text} (h : SpelledText s t) (ht : HasBytes t)
    (hs : s.head? = some d) (hd : isLowSurrogate d.toNat) : BeginsLow t := by
  cases h with
  | nil => cases hs
  | raw hc hq hb h =>
    obtain rfl := Option.some.inj hs
    simp only [isLowSurrogate,Bool.and_eq_true,decide_eq_true_eq] at hd
    exact absurd ⟨by omega,hd.2⟩ (ht _ List.mem_cons_self)
  | short hshort h =>
    obtain rfl := Option.some.inj hs
    have hall : ∀ x ∈ shortForms, isLowSurrogate x.2.toNat = false := by decide
    cases (hall _ hshort).symm.trans hd
  | unit hn _ h =>
    obtain rfl := Option.some.inj hs
    rw [CodePoint.toNat_ofNat (by have := hn.lt; omega)] at hd
    exact ⟨_,_,_,rfl,hn,hd⟩
  | pair hm hn hhigh hlow h =>
    have hbeyond := toNat_pair hhigh hlow
    rw [Option.some.inj hs] at hbeyond
    simp only [isLowSurrogate,Bool.and_eq_true,decide_eq_true_eq] at hd
    omega

lemma unpaired_cons {c : CodePoint} {s : Text} (hs : Unpaired s)
    (h : ∀ d, s.head? = some d → isHighSurrogate c.toNat → ¬ isLowSurrogate d.toNat) :
    Unpaired (c :: s) := by
  cases s with
  | nil => exact .singleton _
  | cons d s => exact .cons_cons (fun ⟨hc,hd⟩ => h d rfl hc hd) hs

/-- A text that is spelled in characters with bytes holds no pair of halves. -/
theorem SpelledText.unpaired {s t : Text} (h : SpelledText s t) (ht : HasBytes t) : Unpaired s := by
  induction h with
  | nil => exact .nil
  | @raw c s t hc hq hb h ih =>
    obtain ⟨hbytes,ht⟩ := List.forall_mem_cons.1 ht
    refine unpaired_cons (ih ht) fun d _ hhigh => absurd ?_ hbytes
    simp only [isHighSurrogate,Bool.and_eq_true,decide_eq_true_eq] at hhigh
    omega
  | @short d c s t hs h ih =>
    have hshort : ∀ x ∈ shortForms, isHighSurrogate x.2.toNat = false := by decide
    refine unpaired_cons (ih fun e he => ht e (by simp [he])) fun e _ hhigh => ?_
    cases (hshort _ hs).symm.trans hhigh
  | @unit n ds s t hn hlow h ih =>
    have ht : HasBytes t := fun e he => ht e (by simp [he])
    refine unpaired_cons (ih ht) fun d hd hhigh hdlow => ?_
    rw [CodePoint.toNat_ofNat (by have := hn.lt; omega)] at hhigh
    exact hlow hhigh (h.beginsLow ht hd hdlow)
  | @pair m n ds es s t hm hn hhigh hlow h ih =>
    refine unpaired_cons (ih fun e he => ht e (by simp [he])) fun d _ hc => ?_
    have hbeyond := toNat_pair hhigh hlow
    generalize CodePoint.toNat _ = k at hc hbeyond
    simp only [isHighSurrogate,Bool.and_eq_true,decide_eq_true_eq] at hc
    omega

lemma SpelledName.unpaired {k t : Text} (h : SpelledName k t) (ht : HasBytes t) : Unpaired k := by
  obtain ⟨a,u,b,rfl,-,-,hu⟩ := h
  exact hu.unpaired fun c hc => ht c (by simp [hc])

/-- The texts in a phrase, as far as they are members of an object, and the names of these. -/
def Phrase.AllUnpaired : Phrase → Prop
  | .value (.text s) | .spaced (.text s) => Unpaired s
  | .value (.object ms) | .spaced (.object ms) | .members ms =>
    ∀ m ∈ ms, Unpaired m.1 ∧ ∀ s, m.2 = .text s → Unpaired s
  | _ => True

/-- A phrase that is spelled in characters with bytes holds no pair of halves. -/
theorem Spelled.unpaired {n : Nat} {p : Phrase} {t : Text} (h : Spelled n p t) (ht : HasBytes t) :
    p.AllUnpaired := by
  induction h with
  | scalar hs hv =>
    cases hv with
    | text s =>
      cases hs with
      | number h => cases h
      | text h => exact h.unpaired fun c hc => ht c (by simp [hc])
    | _ => trivial
  | emptyObject => exact fun m hm => by cases hm
  | object h ih => exact ih fun c hc => ht c (by simp [hc])
  | @spaced n v a t b ha hb h ih =>
    have hv := ih fun c hc => ht c (by simp [hc])
    cases v <;> exact hv
  | @lastMember n k v q t hk hv ih =>
    have hv' := ih fun c hc => ht c (by simp [hc])
    have hk' := hk.unpaired fun c hc => ht c (by simp [hc])
    exact List.forall_mem_singleton.2 ⟨hk',by rintro s rfl; exact hv'⟩
  | @member n k v ms q t u hk hv h ihv ih =>
    have hv' := ihv fun c hc => ht c (by simp [hc])
    have hk' := hk.unpaired fun c hc => ht c (by simp [hc])
    exact List.forall_mem_cons.2 ⟨⟨hk',by rintro s rfl; exact hv'⟩,ih fun c hc => ht c (by simp [hc])⟩
  | _ => trivial

end ShellTemplate.Json
