import ShellTemplate.Proofs.Markup.Literal

/-! What is shown of an escaped text. The escape keeps its tags from being tags, but not what is around them
from being shown as plain text is, with emoji for codes, and a backslash at the end comes out twice. -/
namespace ShellTemplate.Markup

/-- What is shown of a mark that has been escaped, with the text before it. -/
def Mark.spelled (m : Mark) : Text :=
  plainShown m.before ++ (List.replicate m.backslashes '\\' : Text) ++ plainShown m.bracketed

/-- What is shown of a text that has been escaped. -/
def spelled (t : Text) : Text :=
  (marks t).1.flatMap Mark.spelled
    ++ plainShown ((marks t).2 ++ (if endsWithBackslash t then ['\\'] else [] : Text))

/-- The stretches in which a text is shown: what is before each tag, the tag in its brackets, and what is
behind the last one. -/
def stretches (t : Text) : List Text := (marks t).1.flatMap (fun m => [m.before,m.bracketed]) ++ [(marks t).2]

/-- A text that an escape keeps: each of its stretches means nothing but itself, and it does not end with
exactly one backslash. -/
structure Verbatim (t : Text) : Prop where
  literal : ∀ u ∈ stretches t, Literal u
  ending : endsWithBackslash t = false

lemma plainShown_cons {c : CodePoint} (hc : isSign c = false) (t : Text) :
    plainShown (c :: t) = c :: plainShown t := by
  have hcolon : c ≠ ':' := by rintro rfl; cases hc
  have hback : c ≠ '\\' := by rintro rfl; cases hc
  have hdrop : dropEscapes (c :: t) = c :: dropEscapes t := by
    rw [dropEscapes]
    exact fun u hu => absurd hu hback
  rw [plainShown,hdrop,Emoji.replace_cons fun h => absurd h hcolon,plainShown]

lemma putBefore_escaped (t : Text) (ms : List Mark) (u : Text) :
    putBefore t (ms.map Mark.escaped,u) =
      ((putBefore t (ms,u)).1.map Mark.escaped,(putBefore t (ms,u)).2) := by
  cases ms <;> rfl

/-- A character that is no sign is shown wherever it stands. -/
lemma flatMap_putBefore {c : CodePoint} (hc : isSign c = false) (ms : List Mark) (u : Text) :
    (putBefore [c] (ms,u)).1.flatMap Mark.spelled ++ plainShown (putBefore [c] (ms,u)).2 =
      c :: (ms.flatMap Mark.spelled ++ plainShown u) := by
  cases ms with
  | nil => exact plainShown_cons hc u
  | cons m ms =>
    simp only [putBefore,List.flatMap_cons,Mark.spelled,List.singleton_append,plainShown_cons hc]
    rfl

/-- What is shown of a label in a style and an escaped text behind it. -/
lemma render_escaped {tag label : Text} (h : IsStyle tag) (hl : untagged label) (evaluate : Evaluator)
    (t : Text) :
    render evaluate ('[' :: (tag ++
      (']' :: (label ++ ('[' :: '/' :: (tag ++ (']' :: ' ' :: escape t : Text)) : Text)) : Text))) =
      .ok ((plainShown label ++ (' ' :: spelled t : Text)).filter fun c => !isControl c) := by
  have hmarks : marks (' ' :: escape t) = putBefore [' '] (marks (escape t)) :=
    marks_untagged (t := [' ']) (by decide) (escape t)
  have hs := h.marksShown_around evaluate hl (' ' :: escape t) 0 []
  have htail := congrArg Prod.snd (h.marks_around hl (' ' :: escape t))
  rw [hmarks,marks_escape,putBefore_escaped] at hs htail
  rw [marksShown_escaped] at hs
  have hspelled := flatMap_putBefore (c := ' ') rfl (marks t).1
    ((marks t).2 ++ (if endsWithBackslash t then ['\\'] else [] : Text))
  unfold render
  simp only [hs,htail]
  rw [spelled,← hspelled,← List.append_assoc]
  rfl

lemma Mark.spelled_eq {m : Mark} (hb : Literal m.before) (ht : Literal m.bracketed) :
    m.spelled = m.source := by
  rw [Mark.spelled,hb.plainShown_eq,ht.plainShown_eq,Mark.source]

lemma Mark.spelled_cases (m : Mark) :
    (Literal m.before ∧ Literal m.bracketed) ∨ signs m.spelled < signs m.source := by
  have hle : ∀ u, signs (plainShown u) ≤ signs u := fun u => by
    obtain h | h := plainShown_cases u
    · rw [h.plainShown_eq]
    · exact h.le
  have hb := hle m.before
  have ht := hle m.bracketed
  simp only [Mark.spelled,Mark.source,signs_append]
  obtain hb' | hb' := plainShown_cases m.before
  · obtain ht' | ht' := plainShown_cases m.bracketed
    · exact .inl ⟨hb',ht'⟩
    · exact .inr (by omega)
  · exact .inr (by omega)

/-- Marks are shown as they are, or with fewer signs. -/
lemma flatMap_spelled_cases (ms : List Mark) :
    ((∀ u ∈ ms.flatMap (fun m => [m.before,m.bracketed]), Literal u) ∧
      ms.flatMap Mark.spelled = ms.flatMap Mark.source) ∨
    signs (ms.flatMap Mark.spelled) < signs (ms.flatMap Mark.source) := by
  induction ms with
  | nil => exact .inl ⟨nofun,rfl⟩
  | cons m ms ih =>
    simp only [List.flatMap_cons,signs_append]
    obtain ⟨hb,ht⟩ | hm := m.spelled_cases
    · rw [Mark.spelled_eq hb ht]
      obtain ⟨hall,hms⟩ | hlt := ih
      · refine .inl ⟨fun u hu => ?_,by rw [hms]⟩
        simp only [List.cons_append,List.nil_append,List.mem_cons] at hu
        obtain rfl | rfl | hu := hu
        · exact hb
        · exact ht
        · exact hall u hu
      · exact .inr (by omega)
    · obtain ⟨-,hms⟩ | hlt := ih
      · exact .inr (by rw [hms]; omega)
      · exact .inr (by omega)

lemma Verbatim.spelled_eq {t : Text} (h : Verbatim t) : spelled t = t := by
  have hms := marks_source t
  have hliteral := h.literal
  rw [stretches] at hliteral
  rw [spelled,h.ending]
  have htail : Literal (marks t).2 := hliteral _ (by simp)
  have hmarks : ∀ m ∈ (marks t).1, m.spelled = m.source := fun m hm =>
    Mark.spelled_eq (hliteral _ (List.mem_append_left _ (List.mem_flatMap.2 ⟨m,hm,by simp⟩)))
      (hliteral _ (List.mem_append_left _ (List.mem_flatMap.2 ⟨m,hm,by simp⟩)))
  rw [List.flatMap_congr hmarks]
  simp only [Bool.false_eq_true,if_false,List.append_nil,htail.plainShown_eq,hms]

/-- A text that does not end with a single backslash is kept, or it is shown with fewer signs. -/
lemma spelled_cases {t : Text} (hend : endsWithBackslash t = false) :
    Verbatim t ∨ signs (spelled t) < signs t := by
  have hms := congrArg signs (marks_source t)
  rw [signs_append] at hms
  simp only [spelled,hend,Bool.false_eq_true,if_false,List.append_nil,signs_append]
  obtain ⟨hall,heq⟩ | hlt := flatMap_spelled_cases (marks t).1
  · obtain htail | htail := plainShown_cases (marks t).2
    · refine .inl ⟨fun u hu => ?_,hend⟩
      obtain hu | hu := List.mem_append.1 hu
      · exact hall u hu
      · rwa [List.mem_singleton.1 hu]
    · exact .inr (by rw [heq]; omega)
  · obtain htail | htail := plainShown_cases (marks t).2
    · exact .inr (by rw [htail.plainShown_eq]; omega)
    · exact .inr (by omega)

/-- Two backslashes at the end stay. -/
lemma plainShown_backslashes (t : Text) :
    plainShown (t ++ (['\\','\\'] : Text)) = plainShown t ++ (['\\','\\'] : Text) := by
  have hdrop := dropEscapes_append (u := ['\\','\\']) (by decide) t
  have hpair : dropEscapes ['\\','\\'] = (['\\','\\'] : Text) := rfl
  rw [plainShown,hdrop,hpair,Emoji.replace_append (by decide),plainShown]

/-- A single backslash at the end is shown as two. -/
lemma spelled_doubled {t : Text} (hend : endsWithBackslash t) :
    ∃ u, spelled t = u ++ (['\\','\\'] : Text) := by
  have hms := marks_source t
  rw [spelled,if_pos hend]
  generalize marks t = x at hms ⊢
  obtain ⟨ms,tail⟩ := x
  obtain rfl | ⟨v,c,rfl⟩ := tail.eq_nil_or_concat'
  · -- the text would end with a tag
    obtain rfl | ⟨ms,m,rfl⟩ := ms.eq_nil_or_concat'
    · obtain rfl : t = [] := by simpa using hms.symm
      cases hend
    · obtain ⟨w,hw⟩ := m.exists_source
      simp only [List.flatMap_append,List.flatMap_singleton,hw,← List.append_assoc,List.append_nil] at hms
      rw [← hms,endsWithBackslash_concat] at hend
      cases hend
  · simp only [← List.append_assoc] at hms
    rw [← hms,endsWithBackslash_concat,Bool.and_eq_true,beq_iff_eq] at hend
    obtain ⟨rfl,-⟩ := hend
    simp only [List.append_assoc,List.singleton_append,plainShown_backslashes]
    exact ⟨_,(List.append_assoc ..).symm⟩

end ShellTemplate.Markup
