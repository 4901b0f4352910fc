import Mathlib.Data.List.Basic
import Mathlib.Data.List.TakeWhile
import Mathlib.Tactic.Lemma
import ShellTemplate.Proofs.Text.Newlines
import ShellTemplate.Text.Utf8

/-! UTF-8 read and written. The bytes that can be read are those that some text is written as, and they are
read as that text. -/
namespace ShellTemplate.Text.Utf8

/-- What may follow a first byte. -/
def Follows (b : UInt8) : List UInt8 → Prop
  | [] => True
  | c :: cs => maySecond b c ∧ ∀ d ∈ cs, isContinuation d

lemma following?_eq_some_iff {b : UInt8} {n : Nat} : following? b = some n ↔
    (b.toNat < 0x80 ∧ n = 0) ∨ (0xC2 ≤ b.toNat ∧ b.toNat < 0xE0 ∧ n = 1) ∨
      (0xE0 ≤ b.toNat ∧ b.toNat < 0xF0 ∧ n = 2) ∨ (0xF0 ≤ b.toNat ∧ b.toNat < 0xF5 ∧ n = 3) := by
  simp only [following?,UInt8.lt_iff_toNat_lt]
  simp only [UInt8.reduceToNat]
  repeat' split
  all_goals
    simp only [Option.some.injEq,reduceCtorEq,false_iff]
    omega

lemma isContinuation_iff {c : UInt8} : isContinuation c ↔ 0x80 ≤ c.toNat ∧ c.toNat < 0xC0 := by
  simp [isContinuation,UInt8.lt_iff_toNat_lt,UInt8.le_iff_toNat_le]

lemma maySecond_iff {b c : UInt8} : maySecond b c ↔ 0x80 ≤ c.toNat ∧ c.toNat < 0xC0 ∧
    (b.toNat = 0xE0 → 0xA0 ≤ c.toNat) ∧ (b.toNat = 0xED → c.toNat < 0xA0) ∧
    (b.toNat = 0xF0 → 0x90 ≤ c.toNat) ∧ (b.toNat = 0xF4 → c.toNat < 0x90) := by
  simp [maySecond,isContinuation_iff,UInt8.lt_iff_toNat_lt,UInt8.le_iff_toNat_le,← UInt8.toNat_inj]
  omega

lemma readable_append {b : UInt8} {others : List UInt8} (h : Follows b others) (r : List UInt8) :
    readable b others.length (others ++ r) = others := by
  rw [readable,List.take_left]
  cases others with
  | nil => rfl
  | cons c cs =>
    simp only [if_pos h.1]
    rw [List.takeWhile_eq_self_iff.2 fun d hd => h.2 d hd]

/-- A sequence that is read to its end. -/
lemma readable_eq_take {b : UInt8} {n : Nat} {r : List UInt8} (h : (readable b n r).length = n) :
    readable b n r = r.take n ∧ (r.take n).length = n ∧ Follows b (r.take n) := by
  have hle : (r.take n).length ≤ n := List.length_take_le ..
  unfold readable at h ⊢
  cases htake : r.take n with
  | nil =>
    rw [htake] at h
    exact ⟨rfl,h,trivial⟩
  | cons c cs =>
    simp only [htake] at h hle ⊢
    split at h
    · rename_i hc
      have hshort := (List.takeWhile_prefix isContinuation (l := cs)).length_le
      have hcs : cs.takeWhile isContinuation = cs := by
        refine (List.takeWhile_prefix isContinuation).eq_of_length ?_
        simp only [List.length_cons] at h hle
        omega
      refine ⟨by rw [if_pos hc,hcs],by rwa [hcs] at h,hc,fun d hd => ?_⟩
      exact List.takeWhile_eq_self_iff.1 hcs d hd
    · cases h
      cases htake

/-- The number that the bytes of a sequence spell. -/
def number (b : UInt8) : List UInt8 → Nat
  | [] => b.toNat
  | [c] => b.toNat % 0x20 * 0x40 + c.toNat % 0x40
  | [c,d] => (b.toNat % 0x10 * 0x40 + c.toNat % 0x40) * 0x40 + d.toNat % 0x40
  | c :: d :: e :: _ =>
    ((b.toNat % 0x08 * 0x40 + c.toNat % 0x40) * 0x40 + d.toNat % 0x40) * 0x40 + e.toNat % 0x40

lemma toNat_scalar (b : UInt8) (others : List UInt8) (hlen : others.length ≤ 3)
    (h : number b others < 0xD800 ∨ 0xDFFF < number b others ∧ number b others < 0x110000) :
    (scalar b others).val.toNat = number b others := by
  have hnumber : scalar b others = Char.ofNat (number b others) := by
    obtain _ | ⟨c,_ | ⟨d,_ | ⟨e,_ | ⟨f,others⟩⟩⟩⟩ := others
    · rfl
    · rfl
    · rfl
    · rfl
    · simp only [List.length_cons] at hlen
      omega
  rw [hnumber,Char.ofNat,dif_pos h]
  rfl

lemma ofNat_eq {b : UInt8} {n : Nat} (h : n = b.toNat) : UInt8.ofNat n = b := by
  rw [h,UInt8.ofNat_toNat]

/-- A sequence that is read as a character is what the character is written as. -/
lemma encode_scalar {b : UInt8} {others : List UInt8} (hn : following? b = some others.length)
    (hf : Follows b others) : String.utf8EncodeChar (scalar b others) = b :: others := by
  obtain ⟨hb,hlen⟩ | ⟨hlow,hhigh,hlen⟩ | ⟨hlow,hhigh,hlen⟩ | ⟨hlow,hhigh,hlen⟩ :=
    following?_eq_some_iff.1 hn
  · obtain rfl := List.length_eq_zero_iff.1 hlen
    have hv := toNat_scalar b [] (by simp) (by simp only [number]; omega)
    simp only [String.utf8EncodeChar,hv,number]
    rw [if_pos (by omega),ofNat_eq rfl]
  · obtain ⟨c,rfl⟩ := List.length_eq_one_iff.1 hlen
    have hc := maySecond_iff.1 hf.1
    have hv := toNat_scalar b [c] (by simp) (by simp only [number]; omega)
    simp only [String.utf8EncodeChar,hv,number]
    rw [if_neg (by omega),if_pos (by omega),ofNat_eq (b := b) (by omega),ofNat_eq (b := c) (by omega)]
  · obtain ⟨c,d,rfl⟩ := List.length_eq_two.1 hlen
    have hc := maySecond_iff.1 hf.1
    have hd := isContinuation_iff.1 (hf.2 d (by simp))
    have hv := toNat_scalar b [c,d] (by simp) (by simp only [number]; omega)
    simp only [String.utf8EncodeChar,hv,number]
    rw [if_neg (by omega),if_neg (by omega),if_pos (by omega),ofNat_eq (b := b) (by omega),
      ofNat_eq (b := c) (by omega),ofNat_eq (b := d) (by omega)]
  · obtain ⟨c,d,e,rfl⟩ := List.length_eq_three.1 hlen
    have hc := maySecond_iff.1 hf.1
    have hd := isContinuation_iff.1 (hf.2 d (by simp))
    have he := isContinuation_iff.1 (hf.2 e (by simp))
    have hv := toNat_scalar b [c,d,e] (by simp) (by simp only [number]; omega)
    simp only [String.utf8EncodeChar,hv,number]
    rw [if_neg (by omega),if_neg (by omega),if_neg (by omega),ofNat_eq (b := b) (by omega),
      ofNat_eq (b := c) (by omega),ofNat_eq (b := d) (by omega),ofNat_eq (b := e) (by omega)]

/-- The bytes that a character is written as are read as the character. -/
lemma exists_encode (c : Char) : ∃ b others, String.utf8EncodeChar c = b :: others ∧
    following? b = some others.length ∧ Follows b others ∧ scalar b others = c := by
  have hc : c.val.toNat < 0xD800 ∨ 0xDFFF < c.val.toNat ∧ c.val.toNat < 0x110000 := c.valid
  have hscalar : ∀ {b others}, others.length ≤ 3 → number b others = c.val.toNat → scalar b others = c := by
    intro b others hlen hnumber
    exact Char.toNat_inj.1 ((toNat_scalar _ _ hlen (hnumber ▸ hc)).trans hnumber)
  simp only [String.utf8EncodeChar]
  split
  · refine ⟨_,_,rfl,following?_eq_some_iff.2 (.inl ⟨?_,rfl⟩),trivial,hscalar (by simp) ?_⟩
    all_goals
      simp only [number,UInt8.toNat_ofNat']
      omega
  split
  · refine ⟨_,_,rfl,following?_eq_some_iff.2 (.inr (.inl ⟨?_,?_,rfl⟩)),⟨maySecond_iff.2 ?_,nofun⟩,
      hscalar (by simp) ?_⟩
    all_goals
      simp only [number,UInt8.toNat_ofNat']
      omega
  split
  · refine ⟨_,_,rfl,following?_eq_some_iff.2 (.inr (.inr (.inl ⟨?_,?_,rfl⟩))),
      ⟨maySecond_iff.2 ?_,List.forall_mem_singleton.2 (isContinuation_iff.2 ?_)⟩,hscalar (by simp) ?_⟩
    all_goals
      simp only [number,UInt8.toNat_ofNat']
      omega
  · refine ⟨_,_,rfl,following?_eq_some_iff.2 (.inr (.inr (.inr ⟨?_,?_,rfl⟩))),
      ⟨maySecond_iff.2 ?_,List.forall_mem_cons.2 ⟨isContinuation_iff.2 ?_,
        List.forall_mem_singleton.2 (isContinuation_iff.2 ?_)⟩⟩,hscalar (by simp) ?_⟩
    all_goals
      simp only [number,UInt8.toNat_ofNat']
      omega

lemma decodeFrom_cons {position n : Nat} {b : UInt8} {r : List UInt8} (hn : following? b = some n)
    (hr : (readable b n r).length = n) : decodeFrom position (b :: r) =
      (decodeFrom (position + 1 + n) (r.drop n)).map (.scalar (scalar b (readable b n r)) :: ·) := by
  rw [decodeFrom,hn]
  simp only [if_pos hr]

lemma decodeFrom_encode {t : Text} {bytes : List UInt8} (h : encode? t = some bytes) (position : Nat) :
    decodeFrom position bytes = .ok t := by
  fun_induction encode? t generalizing bytes position with
  | case1 =>
    cases h
    rw [decodeFrom]
  | case2 c t ih =>
    obtain ⟨rest,ht,rfl⟩ := Option.map_eq_some_iff.1 h
    obtain ⟨b,others,heq,hn,hf,hc⟩ := exists_encode c
    have hread := readable_append hf rest
    rw [heq,List.cons_append,decodeFrom_cons hn (by rw [hread]),hread,hc,List.drop_left,ih ht]
    rfl
  | case3 => cases h

lemma encode_of_decodeFrom {position : Nat} {bytes : List UInt8} {t : Text}
    (h : decodeFrom position bytes = .ok t) : encode? t = some bytes := by
  fun_induction decodeFrom position bytes generalizing t with
  | case1 => cases h; rfl
  | case2 => cases h
  | case3 position b r n hn others hlen =>
    rename_i ih
    subst others
    cases hrest : decodeFrom (position + 1 + n) (r.drop n) with
    | error f => rw [hrest] at h; cases h
    | ok t' =>
      rw [hrest] at h
      cases h
      obtain ⟨hread,hlen',hf⟩ := readable_eq_take hlen
      rw [← hlen'] at hn
      rw [hread,encode?,ih hrest,encode_scalar hn hf,Option.map_some,List.cons_append,
        List.take_append_drop]
  | case4 => cases h
  | case5 => cases h

/-- The bytes that can be read are those that a text is written as. -/
theorem decode_eq_ok_iff {bytes : List UInt8} {t : Text} :
    decode bytes = .ok t ↔ encode? t = some bytes :=
  ⟨encode_of_decodeFrom,fun h => decodeFrom_encode h 0⟩

/-- No half of a surrogate pair stands in a text, so that it has bytes. -/
def HasBytes (t : Text) : Prop := ∀ c ∈ t, ¬ (0xD800 ≤ c.toNat ∧ c.toNat < 0xE000)

lemma hasBytes_of_encode? {t : Text} {bytes : List UInt8} (h : encode? t = some bytes) : HasBytes t := by
  fun_induction encode? t generalizing bytes with
  | case1 => nofun
  | case2 c t ih =>
    obtain ⟨rest,ht,-⟩ := Option.map_eq_some_iff.1 h
    have hvalid := c.valid
    change c.toNat.isValidChar at hvalid
    refine List.forall_mem_cons.2 ⟨?_,ih ht⟩
    simp only [Nat.isValidChar,CodePoint.toNat_scalar] at hvalid ⊢
    omega
  | case3 => cases h

lemma HasBytes.normalizeNewlines {t : Text} (h : HasBytes t) : HasBytes (normalizeNewlines t) := by
  fun_induction Text.normalizeNewlines t with
  | case1 => exact h
  | case2 t ih =>
    obtain ⟨-,ht⟩ := List.forall_mem_cons.1 (List.forall_mem_cons.1 h).2
    exact List.forall_mem_cons.2 ⟨by decide,ih ht⟩
  | case3 c t _ ih =>
    obtain ⟨hc,ht⟩ := List.forall_mem_cons.1 h
    refine List.forall_mem_cons.2 ⟨?_,ih ht⟩
    split
    · decide
    · exact hc

lemma HasBytes.exists_encode {t : Text} (h : HasBytes t) : ∃ bytes, encode? t = some bytes := by
  fun_induction encode? t with
  | case1 => exact ⟨[],rfl⟩
  | case2 c t ih =>
    obtain ⟨bytes,hbytes⟩ := ih (List.forall_mem_cons.1 h).2
    exact ⟨_,congrArg (Option.map _) hbytes⟩
  | case3 n t =>
    have hn := n.isLt
    refine absurd ?_ (h (.surrogate n) List.mem_cons_self)
    simp only [CodePoint.toNat]
    omega

end ShellTemplate.Text.Utf8
