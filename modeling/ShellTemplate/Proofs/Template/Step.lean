import Mathlib.Tactic.Lemma
import Mathlib.Tactic.SplitIfs
import ShellTemplate.Template.Pass

/-! What one character does to a pass, and what that means for a stretch of characters. -/
namespace ShellTemplate.Template

/-- No key fails. -/
def Answers (ask : Lookup) : Prop := ∀ asked key f, ask asked key ≠ .failure f

/-- A complete slot is asked for, and leads outside unless its key fails. -/
lemma close_cases (ask : Lookup) (s : Slot) (p : Progress) :
    (∃ q, close ask s p = .ok (.outside,q) ∧ q.asked = p.asked ++ [s.key]) ∨
      ∃ e f, close ask s p = .error e ∧ e.asked = p.asked ++ [s.key] ∧ e.outcome = .error f ∧
        ask p.asked s.key = .failure f := by
  unfold close Progress.fill
  cases hr : ask p.asked s.key with
  | value v => exact .inl ⟨_,rfl,rfl⟩
  | failure f => exact .inr ⟨_,f,rfl,rfl,rfl,rfl⟩
  | absent => cases s.fallback <;> exact .inl ⟨_,rfl,rfl⟩

lemma close_ok {ask : Lookup} {s : Slot} {p p' : Progress} {r : Reading}
    (h : close ask s p = .ok (r,p')) : r = .outside := by
  obtain ⟨q,hq,-⟩ | ⟨e,f,he,-⟩ := close_cases ask s p
  · rw [hq] at h
    cases h
    rfl
  · rw [he] at h
    cases h

/-- The slot that a character completes. -/
def completed : Reading → CodePoint → Option Slot
  | .percent name, c => if c = '%' ∧ name ≠ [] then some ⟨.dos,name,none⟩ else none
  | .braced name false, c => if c = '}' then some ⟨.sh,Text.trim name,none⟩ else none
  | .fallback name value _ false, c =>
    if c = '}' then some ⟨.sh,Text.trim name,some value⟩ else none
  | _, _ => none

lemma step_some {r : Reading} {c : CodePoint} {s : Slot} (h : completed r c = some s) (sw : Switches)
    (ask : Lookup) (p : Progress) : step sw ask (r,p) c = close ask s p := by
  unfold completed at h
  split at h
  · obtain ⟨⟨hc,hn⟩,rfl⟩ := by simpa using h
    simp [step,hc,hn]
  · obtain ⟨hc,rfl⟩ := by simpa using h
    simp [step,hc]
  · obtain ⟨hc,rfl⟩ := by simpa using h
    simp [step,hc]
  · cases h

/-- What a character outside of everything leads to, and what is written for it. -/
inductive Opens (sw : Switches) : CodePoint → Reading → Text → Prop
  | percent (h : sw.dos) : Opens sw '%' (.percent []) []
  | dollar (h : sw.sh) : Opens sw '$' .dollar []
  | backslash (h : sw.sh) : Opens sw '\\' .backslash []
  | other {c : CodePoint} (hd : c = '%' → ¬ sw.dos) (hs : c = '$' ∨ c = '\\' → ¬ sw.sh) :
      Opens sw c .outside [c]

/-- What a character leads to that completes no slot, and what is written for it. -/
inductive Moves (sw : Switches) : Reading → CodePoint → Reading → Text → Prop
  | opened {c r t} (h : Opens sw c r t) : Moves sw .outside c r t
  | escaped {c : CodePoint} : Moves sw .backslash c .outside (if c = '$' then ['$'] else ['\\',c] : Text)
  | twoPercents : Moves sw (.percent []) '%' .outside ['%']
  | letter {name} {c : CodePoint} (hc : c ≠ '%') (ha : Text.isAlphanumeric c) :
      Moves sw (.percent name) c (.percent (name ++ [c])) []
  | stopped {name r t} {c : CodePoint} (hc : c ≠ '%') (ha : ¬ Text.isAlphanumeric c) (h : Opens sw c r t) :
      Moves sw (.percent name) c r ('%' :: (name ++ t))
  | opener : Moves sw .dollar '{' (.braced [] false) []
  | noOpener {c : CodePoint} (hc : c ≠ '{') : Moves sw .dollar c .outside ['$',c]
  | nameEscape {name} : Moves sw (.braced name false) '\\' (.braced name true) []
  | nameEscaped {name} {c : CodePoint} :
      Moves sw (.braced name true) c
        (.braced (name ++ (if c = ':' then [':'] else ['\\',c] : Text)) false) []
  | separator {name} (hd : sw.defaults) :
      Moves sw (.braced name false) ':' (.fallback name [] [':'] false) []
  | nameChar {name} {c : CodePoint} (hb : c ≠ '}') (hs : c = ':' → ¬ sw.defaults) (he : c ≠ '\\') :
      Moves sw (.braced name false) c (.braced (name ++ [c]) false) []
  | defaultEscape {name value source} :
      Moves sw (.fallback name value source false) '\\'
        (.fallback name value (source ++ (['\\'] : Text)) true) []
  | defaultEscaped {name value source} {c : CodePoint} :
      Moves sw (.fallback name value source true) c
        (.fallback name (value ++ (if c = '{' ∨ c = '}' then [c] else ['\\',c] : Text))
          (source ++ [c]) false) []
  | defaultChar {name value source} {c : CodePoint} (hb : c ≠ '}') (he : c ≠ '\\') :
      Moves sw (.fallback name value source false) c
        (.fallback name (value ++ [c]) (source ++ [c]) false) []

lemma exists_opens (sw : Switches) (c : CodePoint) : ∃ r t, Opens sw c r t := by
  by_cases hp : c = '%' ∧ sw.dos = true
  · obtain ⟨rfl,h⟩ := hp
    exact ⟨_,_,.percent h⟩
  by_cases hd : c = '$' ∧ sw.sh = true
  · obtain ⟨rfl,h⟩ := hd
    exact ⟨_,_,.dollar h⟩
  by_cases hb : c = '\\' ∧ sw.sh = true
  · obtain ⟨rfl,h⟩ := hb
    exact ⟨_,_,.backslash h⟩
  · refine ⟨_,_,.other (fun hc h => hp ⟨hc,h⟩) fun hc h => ?_⟩
    obtain hc | hc := hc
    · exact hd ⟨hc,h⟩
    · exact hb ⟨hc,h⟩

lemma Opens.readOutside_eq {sw : Switches} {c : CodePoint} {r : Reading} {t : Text}
    (h : Opens sw c r t) (p : Progress) : readOutside sw p c = (r,p.write t) := by
  cases h with
  | percent h => simp [readOutside,h]
  | dollar h => simp [readOutside,h]
  | backslash h => simp [readOutside,h]
  | other hd hs =>
    have hp : ¬ (c = '%' ∧ sw.dos = true) := fun h => hd h.1 h.2
    have hm : ¬ (c = '$' ∧ sw.sh = true) := fun h => hs (.inl h.1) h.2
    have he : ¬ (c = '\\' ∧ sw.sh = true) := fun h => hs (.inr h.1) h.2
    simp [readOutside,hp,hm,he]

/-- A character that completes nothing leads somewhere. -/
lemma exists_moves {r : Reading} {c : CodePoint} (h : completed r c = none) (sw : Switches) :
    ∃ r' t, Moves sw r c r' t := by
  cases r with
  | outside =>
    obtain ⟨r',t,ho⟩ := exists_opens sw c
    exact ⟨r',t,.opened ho⟩
  | backslash => exact ⟨_,_,.escaped⟩
  | percent name =>
    by_cases hc : c = '%'
    · subst hc
      obtain rfl : name = [] := by simpa [completed] using h
      exact ⟨_,_,.twoPercents⟩
    by_cases ha : Text.isAlphanumeric c
    · exact ⟨_,_,.letter hc ha⟩
    · obtain ⟨r',t,ho⟩ := exists_opens sw c
      exact ⟨r',_,.stopped hc ha ho⟩
  | dollar =>
    by_cases hc : c = '{'
    · subst hc
      exact ⟨_,_,.opener⟩
    · exact ⟨_,_,.noOpener hc⟩
  | braced name escaped =>
    cases escaped with
    | true => exact ⟨_,_,.nameEscaped⟩
    | false =>
      have hb : c ≠ '}' := by simpa [completed] using h
      by_cases he : c = '\\'
      · subst he
        exact ⟨_,_,.nameEscape⟩
      by_cases hs : c = ':' ∧ sw.defaults = true
      · obtain ⟨rfl,hd⟩ := hs
        exact ⟨_,_,.separator hd⟩
      · exact ⟨_,_,.nameChar hb (fun hc hd => hs ⟨hc,hd⟩) he⟩
  | fallback name value source escaped =>
    cases escaped with
    | true => exact ⟨_,_,.defaultEscaped⟩
    | false =>
      have hb : c ≠ '}' := by simpa [completed] using h
      by_cases he : c = '\\'
      · subst he
        exact ⟨_,_,.defaultEscape⟩
      · exact ⟨_,_,.defaultChar hb he⟩

/-- Where it leads, the pass goes. -/
lemma Moves.step_eq {sw : Switches} {r r' : Reading} {c : CodePoint} {t : Text}
    (h : Moves sw r c r' t) (ask : Lookup) (p : Progress) :
    step sw ask (r,p) c = .ok (r',p.write t) := by
  cases h with
  | opened h => simp [step,h.readOutside_eq]
  | escaped => rfl
  | twoPercents => simp [step]
  | letter hc ha => simp [step,hc,ha]
  | stopped hc ha h => simp [step,hc,ha,h.readOutside_eq]
  | opener => simp [step]
  | noOpener hc => simp [step,hc]
  | nameEscape => simp [step]
  | nameEscaped => simp [step]
  | separator hd => simp [step,hd]
  | nameChar hb hs he =>
    have hc : ¬ (c = ':' ∧ sw.defaults = true) := fun h => hs h.1 h.2
    simp [step,hb,hc,he]
  | defaultEscape => simp [step]
  | defaultEscaped => simp [step]
  | defaultChar hb he => simp [step,hb,he]

/-- All that a step can do: it moves on, or it completes a slot and is outside. -/
theorem step_cases {sw : Switches} {ask : Lookup} {r r' : Reading} {p p' : Progress} {c : CodePoint}
    (h : step sw ask (r,p) c = .ok (r',p')) :
    (∃ t, Moves sw r c r' t ∧ p' = p.write t) ∨ ∃ s, completed r c = some s ∧ r' = .outside := by
  cases hc : completed r c with
  | none =>
    obtain ⟨r₁,t,hm⟩ := exists_moves hc sw
    rw [hm.step_eq] at h
    cases h
    exact .inl ⟨t,hm,rfl⟩
  | some s =>
    rw [step_some hc] at h
    exact .inr ⟨s,rfl,close_ok h⟩

/-- What a character does is settled by what the pass is in the middle of: it writes a text and leads on
to something, or it completes a slot. The context and what is written have no part in it. -/
theorem step_fixed (sw : Switches) (r : Reading) (c : CodePoint) :
    (∃ r' t, ∀ ask p, step sw ask (r,p) c = .ok (r',p.write t)) ∨
      ∃ s, ∀ ask p, step sw ask (r,p) c = close ask s p := by
  cases h : completed r c with
  | none =>
    obtain ⟨r',t,hm⟩ := exists_moves h sw
    exact .inl ⟨r',t,hm.step_eq⟩
  | some s => exact .inr ⟨s,step_some h sw⟩

/-- A context without failures lets every pass come to its end. -/
theorem pass_total {ask : Lookup} (h : Answers ask) (sw : Switches) (s : Reading × Progress)
    (t : Text) : ∃ s', pass sw ask s t = .ok s' := by
  induction t generalizing s with
  | nil => exact ⟨s,rfl⟩
  | cons c t ih =>
    obtain ⟨r,p⟩ := s
    rw [pass_cons]
    obtain ⟨r',u,hs⟩ | ⟨k,hs⟩ := step_fixed sw r c
    · rw [hs]
      exact ih _
    · obtain ⟨q,hq,-⟩ | ⟨e,f,-,-,-,hf⟩ := close_cases ask k p
      · rw [hs,hq]
        exact ih _
      · exact absurd hf (h p.asked k.key f)

/-- A pass is broken off by failures only. -/
theorem pass_error {sw : Switches} {ask : Lookup} {s : Reading × Progress} {t : Text}
    {e : Expansion} (h : pass sw ask s t = .error e) : ∃ f, e.outcome = .error f := by
  induction t generalizing s with
  | nil => simp at h
  | cons c t ih =>
    obtain ⟨r,p⟩ := s
    rw [pass_cons] at h
    obtain ⟨r',u,hs⟩ | ⟨k,hs⟩ := step_fixed sw r c
    · rw [hs] at h
      exact ih h
    · obtain ⟨q,hq,-⟩ | ⟨e',f,he,-,hf,-⟩ := close_cases ask k p
      · rw [hs,hq] at h
        exact ih h
      · rw [hs,he] at h
        cases h
        exact ⟨f,hf⟩

/-- Two passes over one text are always in the middle of the same thing. -/
theorem pass_reading {sw : Switches} {ask ask' : Lookup} {r r₁ r₂ : Reading}
    {p q p₁ q₁ : Progress} {t : Text} (h : pass sw ask (r,p) t = .ok (r₁,p₁))
    (h' : pass sw ask' (r,q) t = .ok (r₂,q₁)) : r₁ = r₂ := by
  induction t generalizing r p q with
  | nil =>
    simp only [pass_nil,Except.ok.injEq,Prod.mk.injEq] at h h'
    exact h.1.symm.trans h'.1
  | cons c t ih =>
    rw [pass_cons] at h h'
    obtain ⟨r',u,hs⟩ | ⟨k,hs⟩ := step_fixed sw r c
    · rw [hs] at h h'
      exact ih h h'
    · obtain ⟨p',hp,-⟩ | ⟨e,f,he,-⟩ := close_cases ask k p
      · obtain ⟨q',hq,-⟩ | ⟨e',f',he',-⟩ := close_cases ask' k q
        · rw [hs,hp] at h
          rw [hs,hq] at h'
          exact ih h h'
        · rw [hs,he'] at h'
          cases h'
      · rw [hs,he] at h
        cases h

end ShellTemplate.Template
