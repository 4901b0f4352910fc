import ShellTemplate.Proofs.Json.Numbers
import ShellTemplate.Proofs.Json.Strings

/-! The lexemes of a text, as they are spelled. A symbol is read where it begins, and what is read is
space, a symbol behind space, or nothing more. -/
namespace ShellTemplate.Json

/-- Space between symbols. -/
def Space (t : Text) : Prop := ∀ c ∈ t, isSpace c

instance (t : Text) : Decidable (Space t) := List.decidableBAll (isSpace ·) t

/-- `s.Spelled t`: the text `t` is the symbol `s`. -/
inductive Symbol.Spelled : Symbol → Text → Prop
  | openObject : Spelled .openObject ['{']
  | closeObject : Spelled .closeObject ['}']
  | openArray : Spelled .openArray ['[']
  | closeArray : Spelled .closeArray [']']
  | colon : Spelled .colon [':']
  | comma : Spelled .comma [',']
  | null : Spelled .null "null".toText
  | yes : Spelled (.bool true) "true".toText
  | no : Spelled (.bool false) "false".toText
  | notNumber : Spelled (.float "NaN".toText) "NaN".toText
  | infinity : Spelled (.float "Infinity".toText) "Infinity".toText
  | minusInfinity : Spelled (.float "-Infinity".toText) "-Infinity".toText
  | number {s t} (h : SpelledNumber s t) : Spelled s t
  | text {s t} (h : SpelledText s t) : Spelled (.text s) ('"' :: (t ++ (['"'] : Text)))

lemma mark?_some {c : CodePoint} {s : Symbol} (h : mark? c = some s) :
    s.Spelled [c] ∧ isSpace c = false ∧ c ≠ '"' := by
  unfold mark? at h
  split at h <;> cases h
  all_goals exact ⟨by constructor,by decide,by decide⟩

lemma isDecimal_ne {c d : CodePoint} (hc : isDecimal c) (hd : isDecimal d = false) : c ≠ d := by
  rintro rfl
  rw [hc] at hd
  cases hd

lemma mark?_decimal {c : CodePoint} (h : isDecimal c) : mark? c = none := by
  unfold mark?
  split
  all_goals first | rfl | exact absurd h (by decide)

/-- A number begins with a digit or with a sign and a digit. -/
lemma SpelledNumber.begins {s : Symbol} {u : Text} (h : SpelledNumber s u) :
    ∃ c t, isDecimal c ∧ (u = c :: t ∨ u = ('-' :: c :: t : Text)) := by
  have hsign : ∀ negative {whole : Text} (t : Text), Whole whole →
      ∃ c v, isDecimal c ∧ (signOf negative ++ whole ++ t = c :: v ∨
        signOf negative ++ whole ++ t = ('-' :: c :: v : Text)) := by
    intro negative whole t hw
    obtain ⟨c,cs,rfl,hc⟩ := hw.head
    cases negative
    · exact ⟨c,cs ++ t,hc,.inl rfl⟩
    · exact ⟨c,cs ++ t,hc,.inr rfl⟩
  cases h with
  | int hw => simpa using hsign _ [] hw
  | float hw hp hs h => rw [List.append_assoc]; exact hsign _ _ hw

lemma word?_decimal {c : CodePoint} (h : isDecimal c) (t : Text) :
    word? (c :: t) = none ∧ word? ('-' :: c :: t : Text) = none := by
  have hne : ∀ d, isDecimal d = false → d ≠ c := fun d hd => (isDecimal_ne h hd).symm
  constructor
  · simp [word?,words,String.toText,Text.after?,hne 'n' rfl,hne 't' rfl,hne 'f' rfl,hne 'N' rfl,hne 'I' rfl,
      hne '-' rfl]
  · simp [word?,words,String.toText,Text.after?,hne 'I' rfl]

/-- A word is read as a symbol and cannot begin anything else. -/
lemma mem_words {u : Text} {s : Symbol} (h : (u,s) ∈ words) :
    s.Spelled u ∧ (∀ r, word? (u ++ r) = some (s,u.length)) ∧
      ∃ c t, u = c :: t ∧ isSpace c = false ∧ c ≠ '"' ∧ mark? c = none := by
  simp only [words,List.mem_cons,Prod.mk.injEq,List.not_mem_nil,or_false] at h
  rcases h with ⟨rfl,rfl⟩ | ⟨rfl,rfl⟩ | ⟨rfl,rfl⟩ | ⟨rfl,rfl⟩ | ⟨rfl,rfl⟩ | ⟨rfl,rfl⟩
  all_goals exact ⟨by constructor,fun _ => rfl,_,_,rfl,by decide,by decide,rfl⟩

lemma word?_some {t : Text} {s : Symbol} {n : Nat} (h : word? t = some (s,n)) :
    ∃ u r, t = u ++ r ∧ (u,s) ∈ words ∧ n = u.length := by
  obtain ⟨⟨u,s'⟩,hfind,heq⟩ := Option.map_eq_some_iff.1 h
  obtain ⟨rfl,rfl⟩ := Prod.mk.inj heq
  have hbegins := List.find?_some hfind
  obtain ⟨r,hr⟩ := Option.isSome_iff_exists.1 hbegins
  exact ⟨u,r,Text.after?_eq_some.1 hr,List.mem_of_find?_eq_some hfind,rfl⟩

lemma lexFrom_space {a : Text} (h : Space a) (position : Nat) (t : Text) :
    lexFrom position (a ++ t) = lexFrom (position + a.length) t := by
  induction a generalizing position with
  | nil => rfl
  | cons c a ih =>
    obtain ⟨hc,ha⟩ := List.forall_mem_cons.1 h
    rw [List.cons_append,lexFrom,if_pos hc,ih ha,List.length_cons,Nat.add_right_comm,Nat.add_assoc]

/-- A word or a number is read as far as it goes. -/
lemma lexFrom_taken {c : CodePoint} {u r : Text} {s : Symbol} (hspace : isSpace c = false)
    (hquote : c ≠ '"') (hmark : mark? c = none)
    (htaken : (word? (c :: u ++ r)).or (number? (c :: u ++ r)) = some (s,(c :: u).length))
    (position : Nat) :
    lexFrom position (c :: u ++ r) = (lexFrom (position + (c :: u).length) r).push position s := by
  rw [List.cons_append] at htaken ⊢
  rw [lexFrom,if_neg (by simp [hspace]),if_neg hquote]
  simp only [hmark,htaken,List.length_cons,Nat.add_sub_cancel,List.drop_left]
  rw [Nat.add_assoc,Nat.add_comm 1]

lemma lexFrom_mark {c : CodePoint} {s : Symbol} (h : mark? c = some s) (position : Nat) (t : Text) :
    lexFrom position (c :: t) = (lexFrom (position + 1) t).push position s := by
  obtain ⟨-,hspace,hquote⟩ := mark?_some h
  rw [lexFrom,if_neg (by simp [hspace]),if_neg hquote]
  simp only [h]

lemma lexFrom_quote {position next : Nat} {t s r : Text}
    (h : readString position (position + 1) t = .ok (s,next,r)) :
    lexFrom position ('"' :: t) = (lexFrom next r).push position (.text s) := by
  have hspace : isSpace '"' = false := by decide
  rw [lexFrom,if_neg (by simp [hspace]),if_pos rfl]
  split
  · rename_i heq
    cases heq.symm.trans h
    rfl
  · rename_i heq
    cases heq.symm.trans h

lemma lexFrom_word {u : Text} {s : Symbol} (h : (u,s) ∈ words) (position : Nat) (r : Text) :
    lexFrom position (u ++ r) = (lexFrom (position + u.length) r).push position s := by
  obtain ⟨-,hword,c,t,rfl,hspace,hquote,hmark⟩ := mem_words h
  exact lexFrom_taken hspace hquote hmark (by rw [hword,Option.some_or]) position

lemma lexFrom_number {u : Text} {s : Symbol} (h : SpelledNumber s u) {r : Text} (hr : Ends r)
    (position : Nat) :
    lexFrom position (u ++ r) = (lexFrom (position + u.length) r).push position s := by
  have hnumber := number?_append h hr
  obtain ⟨c,t,hc,rfl | rfl⟩ := h.begins
  · have hspace : isSpace c = false := by
      simp [isSpace,isDecimal_ne hc (d := ' ') rfl,isDecimal_ne hc (d := '\t') rfl,
        isDecimal_ne hc (d := '\n') rfl,isDecimal_ne hc (d := '\r') rfl]
    exact lexFrom_taken hspace (isDecimal_ne hc rfl) (mark?_decimal hc)
      (by rw [List.cons_append,(word?_decimal hc _).1,← hnumber]; rfl) position
  · exact lexFrom_taken (by decide) (by decide) rfl
      (by rw [List.cons_append,List.cons_append,(word?_decimal hc _).2,← hnumber]; rfl) position

/-- A symbol is read where it begins, a number only if nothing follows that would belong to it. -/
theorem lexFrom_spelled {s : Symbol} {u : Text} (h : s.Spelled u) {r : Text}
    (hr : SpelledNumber s u → Ends r) (position : Nat) :
    lexFrom position (u ++ r) = (lexFrom (position + u.length) r).push position s := by
  cases h with
  | number h => exact lexFrom_number h (hr h) position
  | @text s t h =>
    have hread := lexFrom_quote (readString_spelled h position (position + 1) r)
    simpa [Nat.add_assoc,Nat.add_comm 1] using hread
  | null | yes | no | notNumber | infinity | minusInfinity =>
    exact lexFrom_word (by simp [words]) position r
  | openObject | closeObject | openArray | closeArray | colon | comma => exact lexFrom_mark rfl position r

/-- What a text begins with: nothing but space, something that is no symbol, or a symbol behind space. -/
theorem lexFrom_cases (position : Nat) (t : Text) :
    (Space t ∧ (lexFrom position t).lexemes = [] ∧ (lexFrom position t).stop = .done) ∨
      ((lexFrom position t).lexemes = [] ∧ (lexFrom position t).stop ≠ .done) ∨
      ∃ a u r s p q, t = a ++ (u ++ r) ∧ Space a ∧ u ≠ [] ∧ s.Spelled u ∧
        lexFrom position t = (lexFrom q r).push p s := by
  fun_induction lexFrom position t with
  | case1 position => exact .inl ⟨nofun,rfl,rfl⟩
  | case2 position c r hc ih =>
    obtain ⟨hspace,hdone⟩ | hstop | ⟨a,u,r,s,p,q,rfl,ha,hu⟩ := ih
    · exact .inl ⟨List.forall_mem_cons.2 ⟨hc,hspace⟩,hdone⟩
    · exact .inr (.inl hstop)
    · exact .inr (.inr ⟨c :: a,u,r,s,p,q,rfl,List.forall_mem_cons.2 ⟨hc,ha⟩,hu⟩)
  | case3 position r s next r' h hspace ih =>
    obtain ⟨u,rfl,hu⟩ := exists_spelledText h
    exact .inr (.inr ⟨[],'"' :: (u ++ (['"'] : Text)),r',_,_,_,by simp,nofun,by simp,.text hu,rfl⟩)
  | case4 position r hspace f h => exact .inr (.inl ⟨rfl,nofun⟩)
  | case5 position c r hspace hquote s hmark ih =>
    exact .inr (.inr ⟨[],[c],r,s,_,_,rfl,nofun,by simp,(mark?_some hmark).1,rfl⟩)
  | case6 position c r hspace hquote hmark s n htaken ih =>
    obtain ⟨u,r',ht,hu,hne,rfl⟩ : ∃ u r', c :: r = u ++ r' ∧ s.Spelled u ∧ u ≠ [] ∧ n = u.length := by
      obtain hword | ⟨-,hnumber⟩ := Option.or_eq_some_iff.1 htaken
      · obtain ⟨u,r',ht,hu,hn⟩ := word?_some hword
        obtain ⟨hspelled,-,d,v,rfl,-⟩ := mem_words hu
        exact ⟨_,r',ht,hspelled,nofun,hn⟩
      · obtain ⟨u,r',ht,hu,hn⟩ := number?_some hnumber
        refine ⟨u,r',ht,.number hu,?_,hn⟩
        obtain ⟨d,v,-,rfl | rfl⟩ := hu.begins <;> nofun
    obtain ⟨d,v,rfl⟩ := List.exists_cons_of_ne_nil hne
    obtain ⟨rfl,rfl⟩ := List.cons.inj ht
    have hdrop : (v ++ r').drop v.length = r' := List.drop_left
    exact .inr (.inr ⟨[],c :: v,r',s,position,position + 1 + v.length,rfl,nofun,nofun,hu,
      congrArg (fun x => (lexFrom (position + 1 + v.length) x).push position s) hdrop⟩)
  | case7 position c r hspace hquote hmark htaken => exact .inr (.inl ⟨rfl,nofun⟩)

end ShellTemplate.Json
