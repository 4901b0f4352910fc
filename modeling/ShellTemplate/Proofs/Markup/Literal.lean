import Mathlib.Data.List.Infix
import ShellTemplate.Proofs.Markup.Shown

/-! Texts that an escape keeps as they are. Colons and backslashes are the signs that codes and escapes are
made of; whatever the showing of a text replaces or drops takes some of them away, and nothing brings them
back, so that a text is shown as it is just if it keeps its signs. -/
namespace ShellTemplate.Markup

/-- A character of which a code or an escape is made. -/
def isSign (c : CodePoint) : Bool := c = ':' || c = '\\'

/-- How many signs are in a text. -/
def signs (t : Text) : Nat := t.countP isSign

@[simp] lemma signs_nil : signs [] = 0 := rfl

@[simp] lemma signs_append (t u : Text) : signs (t ++ u) = signs t + signs u := List.countP_append

@[simp] lemma signs_cons (c : CodePoint) (t : Text) :
    signs (c :: t) = signs t + if isSign c then 1 else 0 := List.countP_cons

namespace Emoji

/-- Whether an emoji stands for a code. -/
def isKnown (code : Text) : Bool := (named? (Text.lower (parts code).1)).isSome

/-- The codes in a text, from left to right, known or not. -/
def codes : Text → List Text
  | [] => []
  | c :: t =>
    match _h : if c = ':' then readCode? t else none with
    | some (code,r) => code :: codes r
    | none => codes t
termination_by t => t.length
decreasing_by
  · split at _h
    · have := readCode?_length _h; simp only [List.length_cons]; omega
    · cases _h
  · exact Nat.lt_succ_self _

lemma readCode?_eq {t code r : Text} (h : readCode? t = some (code,r)) : t = code ++ (':' :: r : Text) := by
  unfold readCode? at h
  split at h
  · rename_i hc
    split at h
    · cases h
    · cases h
      exact (Text.cutAt?_eq_some.1 hc).1
  · cases h

/-- No emoji has a sign in it. -/
lemma signs_people : peopleTable.all fun e => signs (e.2.map .scalar) = 0 := by decide +kernel

set_option maxRecDepth 20000 in
lemma signs_others : othersTable.all fun e => signs (e.2.map .scalar) = 0 := by decide +kernel

lemma signs_lookup {table : List (String × List Char)}
    (h : table.all fun e => signs (e.2.map .scalar) = 0) {name emoji : Text}
    (hl : (byName table).lookup name = some emoji) : signs emoji = 0 := by
  induction table with
  | nil => cases hl
  | cons e table ih =>
    rw [List.all_cons,Bool.and_eq_true] at h
    simp only [byName,List.map_cons,List.lookup_cons] at hl
    split at hl
    · cases hl
      simpa using h.1
    · exact ih h.2 hl

lemma signs_toned {tone : CodePoint} (ht : isSign tone = false) {emoji : Text} (h : signs emoji = 0) :
    signs (toned tone emoji) = 0 := by
  fun_cases toned tone emoji with
  | case1 a t => simp_all
  | case2 a t => simp_all
  | case3 => rfl

lemma signs_named? {name emoji : Text} (h : named? name = some emoji) : signs emoji = 0 := by
  unfold named? at h
  obtain h | ⟨-,h⟩ := Option.or_eq_some_iff.1 h
  · exact signs_lookup signs_others h
  · obtain h | ⟨-,h⟩ := Option.or_eq_some_iff.1 h
    · exact signs_lookup signs_people h
    · unfold tonedNamed? at h
      obtain ⟨⟨tone,c⟩,hmem,h⟩ := List.exists_of_findSome?_eq_some h
      have hc : isSign c = false := by
        have hall : ∀ e ∈ tones, isSign e.2 = false := by decide
        exact hall _ hmem
      obtain ⟨base,-,h⟩ := Option.bind_eq_some_iff.1 h
      obtain ⟨emoji,hl,h⟩ := Option.bind_eq_some_iff.1 h
      cases h
      exact signs_toned hc (signs_lookup signs_people hl)

lemma signs_variant (code : Text) : signs (parts code).2 = 0 := by
  unfold parts
  split <;> rfl

/-- What stands for a code has fewer signs than the code, unless it is the code itself. -/
lemma shown_cases (code : Text) :
    (isKnown code = false ∧ shown code = (':' :: (code ++ ([':'] : Text)) : Text)) ∨
    (isKnown code ∧ signs (shown code) = 0) := by
  unfold isKnown shown
  cases h : named? (Text.lower (parts code).1) with
  | none => exact .inl ⟨rfl,by simp only [h]⟩
  | some emoji =>
    refine .inr ⟨rfl,?_⟩
    simp only [h,signs_append,signs_named? h,signs_variant]

lemma code_induction {P : Text → Prop} (nil : P [])
    (cons : ∀ (c : CodePoint) (t : Text), (c = ':' → readCode? t = none) → P t → P (c :: t))
    (code : ∀ t code r : Text, readCode? t = some (code,r) → P r → P (':' :: t)) (t : Text) : P t := by
  fun_induction codes t with
  | case1 => exact nil
  | case2 c t code' r h ih =>
    split at h
    · subst c
      exact code t code' r h ih
    · cases h
  | case3 c t h ih =>
    refine cons c t (fun hc => ?_) ih
    rwa [dif_pos hc] at h

lemma readCode?_here {c : CodePoint} {t : Text} (h : c = ':' → readCode? t = none) :
    (if c = ':' then readCode? t else none) = none := by
  split
  · exact h ‹_›
  · rfl

lemma codes_nil : codes [] = [] := by rw [codes]

lemma codes_cons {c : CodePoint} {t : Text} (h : c = ':' → readCode? t = none) :
    codes (c :: t) = codes t := by
  rw [codes]
  split
  · rename_i h'; cases (readCode?_here h).symm.trans h'
  · rfl

lemma codes_code {t code r : Text} (h : readCode? t = some (code,r)) :
    codes (':' :: t) = code :: codes r := by
  rw [codes]
  split
  · rename_i h'; rw [if_pos rfl,h] at h'; cases h'; rfl
  · rename_i h'; rw [if_pos rfl,h] at h'; cases h'

/-- One colon makes no code. -/
lemma codes_of_oneColon {t : Text} (h : t.count (':' : CodePoint) ≤ 1) : codes t = [] := by
  induction t using code_induction with
  | nil => exact codes_nil
  | cons c t hc ih =>
    rw [List.count_cons] at h
    rw [codes_cons hc,ih (by omega)]
  | code t code r hread _ =>
    rw [readCode?_eq hread,List.count_cons_self,List.count_append,List.count_cons_self] at h
    omega

lemma replace_nil : replace [] = [] := by rw [replace]

lemma replace_cons {c : CodePoint} {t : Text} (h : c = ':' → readCode? t = none) :
    replace (c :: t) = c :: replace t := by
  rw [replace]
  split
  · rename_i h'; cases (readCode?_here h).symm.trans h'
  · rfl

lemma replace_code {t code r : Text} (h : readCode? t = some (code,r)) :
    replace (':' :: t) = shown code ++ replace r := by
  rw [replace]
  split
  · rename_i h'; rw [if_pos rfl,h] at h'; cases h'; rfl
  · rename_i h'; rw [if_pos rfl,h] at h'; cases h'

/-- The replacing of codes leaves a text as it is if it knows none of them, and else takes signs away. -/
lemma replace_cases (t : Text) :
    ((∀ code ∈ codes t, isKnown code = false) ∧ replace t = t) ∨
    ((∃ code ∈ codes t, isKnown code) ∧ signs (replace t) < signs t) := by
  induction t using code_induction with
  | nil => exact .inl ⟨by simp [codes_nil],replace_nil⟩
  | cons c t h ih =>
    rw [codes_cons h,replace_cons h]
    obtain ⟨hc,ht⟩ | ⟨hc,hlt⟩ := ih
    · exact .inl ⟨hc,by rw [ht]⟩
    · exact .inr ⟨hc,by rw [signs_cons,signs_cons]; omega⟩
  | code t code r h ih =>
    have hle : signs (replace r) ≤ signs r := by
      obtain ⟨-,ht⟩ | ⟨-,hlt⟩ := ih
      · rw [ht]
      · exact hlt.le
    have ht := readCode?_eq h
    have hcolon : isSign ':' := rfl
    rw [codes_code h,replace_code h]
    obtain ⟨hunknown,hshown⟩ | ⟨hknown,hshown⟩ := shown_cases code
    · rw [hshown]
      obtain ⟨hc,hr⟩ | ⟨⟨k,hk,hkk⟩,hlt⟩ := ih
      · exact .inl ⟨by simpa [hunknown] using hc,by rw [hr,ht]; simp⟩
      · refine .inr ⟨⟨k,List.mem_cons_of_mem _ hk,hkk⟩,?_⟩
        rw [ht]
        simp [hcolon]
        omega
    · refine .inr ⟨⟨code,List.mem_cons_self,hknown⟩,?_⟩
      rw [ht]
      simp [hcolon,hshown]
      omega

lemma replace_of_unknown {t : Text} (h : ∀ code ∈ codes t, isKnown code = false) : replace t = t := by
  obtain ⟨-,ht⟩ | ⟨⟨code,hmem,hknown⟩,-⟩ := replace_cases t
  · exact ht
  · exact absurd hknown (Bool.eq_false_iff.1 (h code hmem))

/-- What no colon is in stays behind anything. -/
lemma replace_append {u : Text} (hu : (':' : CodePoint) ∉ u) (t : Text) :
    replace (t ++ u) = replace t ++ u := by
  have hread : ∀ t, readCode? (t ++ u) = (readCode? t).map fun x => (x.1,x.2 ++ u) := by
    intro t
    unfold readCode?
    rw [cutAt?_append hu]
    cases Text.cutAt? ':' t with
    | none => rfl
    | some x => cases hb : x.1.any Text.isBlank <;> simp [hb]
  induction t using code_induction with
  | nil => rw [replace_nil,List.nil_append,replace_of_noColon hu]
  | cons c t h ih =>
    have h' : c = ':' → readCode? (t ++ u) = none := fun hc => by rw [hread,h hc]; rfl
    rw [List.cons_append,replace_cons h',ih,replace_cons h]
    rfl
  | code t code r h ih =>
    have h' : readCode? (t ++ u) = some (code,r ++ u) := by rw [hread,h]; rfl
    rw [List.cons_append,replace_code h',ih,replace_code h,List.append_assoc]

end Emoji

/-- The dropping of backslashes leaves a text as it is if none stands before an opening bracket, and else
takes signs away. -/
lemma dropEscapes_cases (t : Text) :
    (¬ (['\\','['] : Text) <:+: t ∧ dropEscapes t = t) ∨
    ((['\\','['] : Text) <:+: t ∧ signs (dropEscapes t) < signs t) := by
  fun_induction dropEscapes t with
  | case1 => exact .inl ⟨by simp,rfl⟩
  | case2 t ih =>
    have hle : signs (dropEscapes t) ≤ signs t := by
      obtain ⟨-,ht⟩ | ⟨-,hlt⟩ := ih
      · rw [ht]
      · exact hlt.le
    refine .inr ⟨⟨[],t,rfl⟩,?_⟩
    have hb : isSign '\\' := rfl
    simp [hb]
    omega
  | case3 c t hc ih =>
    have hiff : (['\\','['] : Text) <:+: c :: t ↔ (['\\','['] : Text) <:+: t := by
      rw [List.infix_cons_iff]
      refine or_iff_right ?_
      rintro ⟨u,hu⟩
      simp only [List.cons_append,List.nil_append,List.cons.injEq] at hu
      exact hc u hu.1.symm hu.2.symm
    rw [hiff]
    obtain ⟨hno,ht⟩ | ⟨hin,hlt⟩ := ih
    · exact .inl ⟨hno,by rw [ht]⟩
    · exact .inr ⟨hin,by rw [signs_cons,signs_cons]; omega⟩

lemma dropEscapes_append {u : Text} (hu : u.head? ≠ some ('[' : CodePoint)) (t : Text) :
    dropEscapes (t ++ u) = dropEscapes t ++ dropEscapes u := by
  fun_induction dropEscapes t with
  | case1 => rfl
  | case2 t ih => rw [List.cons_append,List.cons_append,dropEscapes,ih]; rfl
  | case3 c t hc ih =>
    rw [List.cons_append,dropEscapes,ih,List.cons_append]
    intro v hc' hv
    cases t with
    | nil =>
      rw [List.nil_append] at hv
      exact hu (by rw [hv]; rfl)
    | cons d t =>
      obtain ⟨rfl,-⟩ := List.cons.inj hv
      exact hc t hc' rfl

/-- A text that means nothing but itself: no emoji stands for a code in it, and no backslash stands before
an opening bracket. -/
structure Literal (t : Text) : Prop where
  unknown : ∀ code ∈ Emoji.codes t, Emoji.isKnown code = false
  escapes : ¬ (['\\','['] : Text) <:+: t

lemma Literal.plainShown_eq {t : Text} (h : Literal t) : plainShown t = t := by
  have hdrop : dropEscapes t = t := by
    obtain ⟨-,ht⟩ | ⟨hin,-⟩ := dropEscapes_cases t
    · exact ht
    · exact absurd hin h.escapes
  rw [plainShown,hdrop,Emoji.replace_of_unknown h.unknown]

/-- A text that is shown without tags keeps its signs just if it means nothing but itself. -/
lemma plainShown_cases (t : Text) : Literal t ∨ signs (plainShown t) < signs t := by
  rw [plainShown]
  obtain ⟨hno,hdrop⟩ | ⟨-,hdrop⟩ := dropEscapes_cases t
  · rw [hdrop]
    obtain ⟨hunknown,-⟩ | ⟨-,hlt⟩ := Emoji.replace_cases t
    · exact .inl ⟨hunknown,hno⟩
    · exact .inr hlt
  · obtain ⟨-,ht⟩ | ⟨-,hlt⟩ := Emoji.replace_cases (dropEscapes t)
    · exact .inr (by rwa [ht])
    · exact .inr (hlt.trans hdrop)

end ShellTemplate.Markup
