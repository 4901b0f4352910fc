import Mathlib.Tactic.Lemma
import ShellTemplate.Text.Lowercase

/-! The lower case of a text, as far as it lies in ASCII. Two characters beyond ASCII have a lower case
within it; every other ASCII character in a lower case comes from an ASCII character. -/
namespace ShellTemplate.Text

/-- Whether only ASCII characters have this in their lower case. The letter `i` is in that of U+0130, and
`k` is that of the sign for kelvin. -/
def isLowerOfAscii (d : CodePoint) : Bool := 0 < d.toNat && d.toNat < 0x80 && d != 'i' && d != 'k'

/-- No other capital beyond ASCII has a lower case within it. -/
lemma caseRuns_beyond : ∀ r ∈ caseRuns,
    0x80 ≤ (r.first : Int) + r.shift ∨ r.first = r.last ∧ (r.first : Int) + r.shift = 107 := by
  decide +kernel

lemma toLower_of_beyond {c : CodePoint} (h : 0x80 ≤ c.toNat) : c.toLower = c := by
  cases c with
  | scalar c =>
    refine congrArg CodePoint.scalar (dif_neg ?_)
    rintro ⟨-,hz⟩
    have hle : c.toNat ≤ 90 := hz
    have hge : 0x80 ≤ c.toNat := h
    omega
  | surrogate n => rfl

lemma toNat_ofNat_beyond {n : Nat} (h : 0x80 ≤ n) :
    0x80 ≤ (CodePoint.ofNat n).toNat ∨ (CodePoint.ofNat n).toNat = 0 := by
  rw [CodePoint.ofNat]
  split
  · exact .inl (by simp only [CodePoint.toNat]; omega)
  · by_cases hn : n.isValidChar
    · rw [CodePoint.toNat_scalar,Char.ofNat,dif_pos hn]
      exact .inl h
    · rw [CodePoint.toNat_scalar,Char.ofNat,dif_neg hn]
      exact .inr rfl

lemma mem_lowerChar {c d : CodePoint} (hd : isLowerOfAscii d) : d ∈ lowerChar c ↔ c.toLower = d := by
  simp only [isLowerOfAscii,Bool.and_eq_true,decide_eq_true_eq,bne_iff_ne,ne_eq] at hd
  obtain ⟨⟨⟨hpos,hlt⟩,hi⟩,hk⟩ := hd
  unfold lowerChar
  split
  · simp [eq_comm]
  · rename_i hc
    rw [toLower_of_beyond (by omega)]
    have hcd : c ≠ d := by
      rintro rfl
      exact hc hlt
    split
    · have hdot : d ≠ '\u0307' := by
        rintro rfl
        exact absurd hlt (by decide)
      simp [hcd,hi,hdot]
    · split
      · rename_i r hr
        have hmem := List.mem_of_find?_eq_some hr
        have hcov : r.covers c.toNat := by simpa using List.find?_some hr
        simp only [CaseRun.covers,Bool.and_eq_true,decide_eq_true_eq] at hcov
        obtain ⟨⟨hfirst,hlast⟩,-⟩ := hcov
        refine iff_of_false ?_ hcd
        intro h
        have hx : d = .ofNat (c.toNat + r.shift).toNat := List.mem_singleton.1 h
        obtain hb | ⟨hone,hb⟩ := caseRuns_beyond r hmem
        · have := toNat_ofNat_beyond (n := (c.toNat + r.shift).toNat) (by omega)
          rw [← hx] at this
          omega
        · rw [show (c.toNat + r.shift).toNat = 107 by omega] at hx
          exact hk hx
      · simp [eq_comm]

/-- A capital sigma has a lower case beyond ASCII wherever it stands. -/
lemma lowerAt_eq_or (before : Text) (c : CodePoint) (after : Text) :
    lowerAt before c after = lowerChar c ∨ c = 'Σ' ∧ lowerAt before c after = (['ς'] : Text) := by
  unfold lowerAt
  split
  · rename_i h
    exact .inr ⟨h.1,rfl⟩
  · exact .inl rfl

lemma mem_lowerAt {c d : CodePoint} (hd : isLowerOfAscii d) (before after : Text) :
    d ∈ lowerAt before c after ↔ c.toLower = d := by
  obtain h | ⟨rfl,h⟩ := lowerAt_eq_or before c after
  · rw [h,mem_lowerChar hd]
  · rw [h,List.mem_singleton]
    simp only [isLowerOfAscii,Bool.and_eq_true,decide_eq_true_eq] at hd
    refine iff_of_false ?_ ?_
    all_goals
      rintro rfl
      exact absurd hd.1.1.2 (by decide)

lemma lowerAt_of_toLower {c d : CodePoint} (hd : isLowerOfAscii d) (h : c.toLower = d)
    (before after : Text) : lowerAt before c after = [d] := by
  have hbounds := hd
  simp only [isLowerOfAscii,Bool.and_eq_true,decide_eq_true_eq] at hbounds
  obtain hc | hc := Nat.lt_or_ge c.toNat 0x80
  · obtain heq | ⟨rfl,-⟩ := lowerAt_eq_or before c after
    · rw [heq,lowerChar,if_pos hc,h]
    · exact absurd hc (by decide)
  · rw [toLower_of_beyond hc] at h
    subst h
    omega

lemma lowerAt_ne_nil (before : Text) (c : CodePoint) (after : Text) : lowerAt before c after ≠ [] := by
  unfold lowerAt lowerChar
  repeat' split
  all_goals simp

lemma mem_lowerFrom {d : CodePoint} (hd : isLowerOfAscii d) (before t : Text) :
    d ∈ lowerFrom before t ↔ ∃ c ∈ t, c.toLower = d := by
  induction t generalizing before with
  | nil => simp [lowerFrom]
  | cons c t ih =>
    rw [lowerFrom,List.mem_append,mem_lowerAt hd,ih]
    simp

lemma mem_lower {d : CodePoint} (hd : isLowerOfAscii d) (t : Text) :
    d ∈ lower t ↔ ∃ c ∈ t, c.toLower = d := mem_lowerFrom hd [] t

lemma after?_lowerFrom {mark : Text} (hm : ∀ d ∈ mark, isLowerOfAscii d) (before t : Text) :
    (after? mark (lowerFrom before t)).isSome ↔
      ∃ m rest, t = m ++ rest ∧ m.map CodePoint.toLower = mark := by
  induction mark generalizing before t with
  | nil => exact iff_of_true rfl ⟨[],t,rfl,rfl⟩
  | cons d mark ih =>
    have hd := hm d (by simp)
    cases t with
    | nil => simp [lowerFrom,after?]
    | cons c t =>
      rw [lowerFrom]
      by_cases hc : c.toLower = d
      · rw [lowerAt_of_toLower hd hc,List.singleton_append,after?,if_pos rfl,
          ih fun e he => hm e (by simp [he])]
        constructor
        · rintro ⟨m,rest,rfl,rfl⟩
          exact ⟨c :: m,rest,rfl,by simp [hc]⟩
        · rintro ⟨m,rest,ht,hmap⟩
          cases m with
          | nil => cases hmap
          | cons e m =>
            obtain ⟨-,rfl⟩ := List.cons.inj ht
            exact ⟨m,rest,rfl,(List.cons.inj hmap).2⟩
      · obtain ⟨x,xs,hx⟩ := List.exists_cons_of_ne_nil (lowerAt_ne_nil before c t)
        have hxd : d ≠ x := by
          rintro rfl
          exact hc ((mem_lowerAt hd before t).1 (by simp [hx]))
        rw [hx,List.cons_append,after?,if_neg hxd]
        refine iff_of_false (by simp) ?_
        rintro ⟨m,rest,ht,hmap⟩
        cases m with
        | nil => cases hmap
        | cons e m =>
          obtain ⟨rfl,-⟩ := List.cons.inj ht
          exact hc (List.cons.inj hmap).1

/-- A mark of such characters begins the lower case of exactly the texts that begin with it in any case of
ASCII. -/
theorem after?_lower {mark : Text} (hm : ∀ d ∈ mark, isLowerOfAscii d) (t : Text) :
    (after? mark (lower t)).isSome ↔ ∃ m rest, t = m ++ rest ∧ m.map CodePoint.toLower = mark :=
  after?_lowerFrom hm [] t

end ShellTemplate.Text
