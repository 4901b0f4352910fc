import ShellTemplate.Proofs.Markup.Faults

/-! Tags that close nothing. The styles that are open are followed from tag to tag, and a text is shown
unless one of its tags closes a style that is not open there, or something is wrong with a tag by itself. -/
namespace ShellTemplate.Markup

/-- What a tag does to the styles that are open, of which the last one opened is first. Nothing is wrong with
a style that is closed. -/
inductive Turns (evaluate : Evaluator) : List Opened → Text → List Opened → Prop
  | opens {opened tag name} : (∀ word, tagName tag ≠ ('/' :: word : Text)) → nameIn (tagName tag) = .ok name →
      Turns evaluate opened tag (⟨name,tagParameters? tag⟩ :: opened)
  | closesLast {o opened tag word} : tagName tag = ('/' :: word : Text) → Text.trim word = [] →
      o.fault? evaluate = none → Turns evaluate (o :: opened) tag opened
  | closes {o later earlier tag word} : tagName tag = ('/' :: word : Text) → Text.trim word ≠ [] →
      nameIn (Text.trim word) = .ok o.name → (∀ p ∈ later, p.name ≠ o.name) → o.fault? evaluate = none →
      Turns evaluate (later ++ o :: earlier) tag (later ++ earlier)

/-- A tag closes a style that is not open, or the last one where none is. -/
inductive Strays (opened : List Opened) (position : Nat) (tag : Text) : Fault → Prop
  | unmatched {word name} : tagName tag = ('/' :: word : Text) → Text.trim word ≠ [] →
      nameIn (Text.trim word) = .ok name → (∀ o ∈ opened, o.name ≠ name) →
      Strays opened position tag (.unmatched tag position)
  | nothingToClose {word} : tagName tag = ('/' :: word : Text) → Text.trim word = [] → opened = [] →
      Strays opened position tag (.nothingToClose position)

/-- The styles that are open behind some tags, if some are open before them. Tags that are plain text
turn nothing. -/
inductive Leads (evaluate : Evaluator) : List Opened → List Mark → List Opened → Prop
  | nil {opened} : Leads evaluate opened [] opened
  | plain {opened m ms opened'} : m.backslashes % 2 = 1 → Leads evaluate opened ms opened' →
      Leads evaluate opened (m :: ms) opened'
  | turn {opened m ms between opened'} : m.backslashes % 2 = 0 → Turns evaluate opened m.tag between →
      Leads evaluate between ms opened' → Leads evaluate opened (m :: ms) opened'

/-- Some tags are shown up to the first of them that closes nothing. -/
inductive StraysIn (evaluate : Evaluator) (start : Nat) (opened : List Opened) (ms : List Mark) : Fault → Prop
  | mk {before m rest opened' f} : ms = before ++ m :: rest → Leads evaluate opened before opened' →
      m.backslashes % 2 = 0 →
      Strays opened' (start + (before.flatMap Mark.source).length + m.before.length + m.backslashes)
        m.tag f → StraysIn evaluate start opened ms f

/-- A text has a tag that closes nothing, nothing is wrong before it, and this is its fault. -/
def Stray (evaluate : Evaluator) (t : Text) : Fault → Prop := StraysIn evaluate 0 [] (marks t).1

variable {evaluate : Evaluator} {opened opened' between : List Opened} {tag : Text} {position start : Nat}
  {f : Fault} {m : Mark} {ms : List Mark}

lemma closed_cases (hev : ∀ t, ('[' : CodePoint) ∉ t → ('[' : CodePoint) ∉ (evaluate t).message) {o : Opened}
    (ho : o.Bare) (rest : List Opened) : (o.fault? evaluate = none ∧ closed evaluate o rest = .ok rest) ∨
    ∃ f, closed evaluate o rest = .error f ∧ ('[' : CodePoint) ∉ f.message := by
  unfold closed
  cases hf : o.fault? evaluate with
  | none => exact .inl ⟨rfl,rfl⟩
  | some f => exact .inr ⟨f,rfl,ho.fault hev hf⟩

/-- A style that is found by its name is the last one of that name. -/
lemma find?_cases (opened : List Opened) (name : Text) :
    (∃ later o earlier, opened = later ++ o :: earlier ∧ o.name = name ∧ (∀ p ∈ later, p.name ≠ name) ∧
      opened.find? (fun o => o.name = name) = some o ∧
      opened.eraseP (fun o => o.name = name) = later ++ earlier) ∨
    ((∀ o ∈ opened, o.name ≠ name) ∧ opened.find? (fun o => o.name = name) = none) := by
  cases hfind : opened.find? (fun o => o.name = name) with
  | none => exact .inr ⟨fun o ho => by simpa using List.find?_eq_none.1 hfind o ho,rfl⟩
  | some o =>
    obtain ⟨hname,later,earlier,rfl,hlater⟩ := List.find?_eq_some_iff_append.1 hfind
    obtain rfl : o.name = name := by simpa using hname
    refine .inl ⟨later,o,earlier,rfl,rfl,fun p hp => by simpa using hlater p hp,rfl,?_⟩
    rw [List.eraseP_append_right _ fun p hp => by simpa using hlater p hp,List.eraseP_cons_of_pos (by simp)]

/-- A tag turns what is open, or it closes nothing, or something else is wrong, which has no tag in its
message. -/
lemma afterTag_cases (hev : ∀ t, ('[' : CodePoint) ∉ t → ('[' : CodePoint) ∉ (evaluate t).message)
    (hopened : ∀ o ∈ opened, o.Bare) (htag : ('[' : CodePoint) ∉ tag) (position : Nat) :
    (∃ opened', afterTag evaluate opened position tag = .ok opened' ∧ Turns evaluate opened tag opened' ∧
      ∀ o ∈ opened', o.Bare) ∨
    (∃ f, afterTag evaluate opened position tag = .error f ∧ Strays opened position tag f) ∨
    ∃ f, afterTag evaluate opened position tag = .error f ∧ ('[' : CodePoint) ∉ f.message := by
  have hname : ∀ t, (∃ f, nameIn t = .error (.component f)) ∨ ∃ name, nameIn t = .ok name := by
    intro t
    rw [nameIn]
    cases styleName t with
    | error f => exact .inl ⟨f,rfl⟩
    | ok name => exact .inr ⟨name,rfl⟩
  unfold afterTag
  split
  · rename_i word hslash
    split
    · rename_i hblank
      cases opened with
      | nil => exact .inr (.inl ⟨_,rfl,.nothingToClose hslash hblank rfl⟩)
      | cons o opened =>
        obtain ⟨hf,hc⟩ | hc := closed_cases hev (hopened o List.mem_cons_self) opened
        · exact .inl ⟨_,hc,.closesLast hslash hblank hf,fun p hp => hopened p (List.mem_cons_of_mem o hp)⟩
        · exact .inr (.inr hc)
    · rename_i hblank
      obtain ⟨f,h⟩ | ⟨name,h⟩ := hname (Text.trim word)
      · exact .inr (.inr ⟨.component f,by rw [h]; rfl,f.bracket⟩)
      · simp only [h,bind,Except.bind]
        obtain ⟨later,o,earlier,rfl,rfl,hlater,hfind,herase⟩ | ⟨hno,hfind⟩ := find?_cases opened name
        · simp only [hfind,herase]
          obtain ⟨hf,hc⟩ | hc := closed_cases hev (hopened o (by simp)) (later ++ earlier)
          · refine .inl ⟨_,hc,.closes hslash hblank h hlater hf,fun p hp => hopened p ?_⟩
            obtain hp | hp := List.mem_append.1 hp
            · exact List.mem_append_left _ hp
            · exact List.mem_append_right _ (List.mem_cons_of_mem o hp)
          · exact .inr (.inr hc)
        · simp only [hfind]
          exact .inr (.inl ⟨_,rfl,.unmatched hslash hblank h hno⟩)
  · rename_i hslash
    obtain ⟨f,h⟩ | ⟨name,h⟩ := hname (tagName tag)
    · exact .inr (.inr ⟨.component f,by rw [h]; rfl,f.bracket⟩)
    · refine .inl ⟨_,by rw [h]; rfl,.opens (fun word hw => hslash word hw) h,fun o ho => ?_⟩
      obtain rfl | ho := List.mem_cons.1 ho
      · exact bare_of_tag htag
      · exact hopened o ho

lemma Turns.afterTag_eq (h : Turns evaluate opened tag opened') (position : Nat) :
    afterTag evaluate opened position tag = .ok opened' := by
  cases h with
  | opens hslash h =>
    unfold afterTag
    split
    · exact absurd ‹_› (hslash _)
    · rw [h]
      rfl
  | closesLast htag hblank hf => simp only [afterTag,htag,if_pos hblank,closed,hf]
  | @closes o later earlier _ word htag hblank h hlater hf =>
    have hfind : (later ++ o :: earlier).find? (fun p => p.name = o.name) = some o := by
      rw [List.find?_append,List.find?_eq_none.2 fun p hp => by simpa using hlater p hp]
      simp
    have herase : (later ++ o :: earlier).eraseP (fun p => p.name = o.name) = later ++ earlier := by
      rw [List.eraseP_append_right _ fun p hp => by simpa using hlater p hp,List.eraseP_cons_of_pos (by simp)]
    simp only [afterTag,htag,if_neg hblank,h,bind,Except.bind,hfind,herase,closed,hf]

lemma Strays.afterTag_eq (h : Strays opened position tag f) (evaluate : Evaluator) :
    afterTag evaluate opened position tag = .error f := by
  cases h with
  | @unmatched word name htag hblank h hno =>
    have hfind : opened.find? (fun o => o.name = name) = none :=
      List.find?_eq_none.2 fun o ho => by simpa using hno o ho
    simp only [afterTag,htag,if_neg hblank,h,bind,Except.bind,hfind]
  | nothingToClose htag hblank hopened => simp only [afterTag,htag,if_pos hblank,hopened]

lemma StraysIn.behind_plain (hodd : m.backslashes % 2 = 1)
    (h : StraysIn evaluate (start + m.source.length) opened ms f) :
    StraysIn evaluate start opened (m :: ms) f := by
  obtain ⟨rfl,hl,heven,hs⟩ := h
  refine ⟨List.cons_append.symm,.plain hodd hl,heven,?_⟩
  rwa [List.flatMap_cons,List.length_append,← Nat.add_assoc start]

lemma StraysIn.behind_turn (heven : m.backslashes % 2 = 0) (ht : Turns evaluate opened m.tag between)
    (h : StraysIn evaluate (start + m.source.length) between ms f) :
    StraysIn evaluate start opened (m :: ms) f := by
  obtain ⟨rfl,hl,hm,hs⟩ := h
  refine ⟨List.cons_append.symm,.turn heven ht hl,hm,?_⟩
  rwa [List.flatMap_cons,List.length_append,← Nat.add_assoc start]

lemma two_mul_half {n : Nat} (h : n % 2 = 0) : 2 * (n / 2) = n := by omega

/-- Tags are shown, or one of them closes nothing, or something else is wrong. -/
lemma marksShown_cases (hev : ∀ t, ('[' : CodePoint) ∉ t → ('[' : CodePoint) ∉ (evaluate t).message)
    (start : Nat) (hopened : ∀ o ∈ opened, o.Bare) (hms : ∀ m ∈ ms, ('[' : CodePoint) ∉ m.tag) :
    (∃ s, marksShown evaluate start opened ms = .ok s) ∨
    (∃ f, marksShown evaluate start opened ms = .error f ∧ StraysIn evaluate start opened ms f) ∨
    ∃ f, marksShown evaluate start opened ms = .error f ∧ ('[' : CodePoint) ∉ f.message := by
  induction ms generalizing start opened with
  | nil => exact .inl ⟨[],rfl⟩
  | cons m ms ih =>
    have hrest : ∀ m ∈ ms, ('[' : CodePoint) ∉ m.tag := fun k hk => hms k (List.mem_cons_of_mem m hk)
    obtain hodd | heven := Nat.mod_two_eq_zero_or_one m.backslashes |>.symm
    · simp only [marksShown,if_pos hodd]
      obtain ⟨s,h⟩ | ⟨f,h,hs⟩ | ⟨f,h,hs⟩ := ih (start + m.source.length) hopened hrest
      · exact .inl ⟨_,by rw [h]; rfl⟩
      · exact .inr (.inl ⟨f,by rw [h]; rfl,hs.behind_plain hodd⟩)
      · exact .inr (.inr ⟨f,by rw [h]; rfl,hs⟩)
    · simp only [marksShown,heven,Nat.zero_ne_one,if_false,two_mul_half heven]
      obtain ⟨between,ha,ht,hb⟩ | ⟨f,ha,hs⟩ | ⟨f,ha,hs⟩ := afterTag_cases hev hopened
        (hms m List.mem_cons_self) (start + m.before.length + m.backslashes)
      · obtain ⟨s,h⟩ | ⟨f,h,hs⟩ | ⟨f,h,hs⟩ := ih (start + m.source.length) hb hrest
        · exact .inl ⟨_,by rw [ha]; simp only [bind,Except.bind,h]; rfl⟩
        · exact .inr (.inl ⟨f,by rw [ha]; simp only [bind,Except.bind,h],hs.behind_turn heven ht⟩)
        · exact .inr (.inr ⟨f,by rw [ha]; simp only [bind,Except.bind,h],hs⟩)
      · exact .inr (.inl ⟨f,by rw [ha]; rfl,⟨(List.nil_append _).symm,.nil,heven,by simpa using hs⟩⟩)
      · exact .inr (.inr ⟨f,by rw [ha]; rfl,hs⟩)

/-- The first tag that closes nothing ends the showing. -/
lemma StraysIn.marksShown_eq (h : StraysIn evaluate start opened ms f) :
    marksShown evaluate start opened ms = .error f := by
  obtain ⟨rfl,hl,heven,hs⟩ := h
  induction hl generalizing start with
  | nil =>
    have ha := hs.afterTag_eq evaluate
    simp only [List.flatMap_nil,List.length_nil,Nat.add_zero] at ha
    simp only [List.nil_append,marksShown,heven,Nat.zero_ne_one,if_false,two_mul_half heven,ha]
    rfl
  | plain hodd _ ih =>
    rw [List.flatMap_cons,List.length_append,← Nat.add_assoc start] at hs
    simp only [List.cons_append,marksShown,if_pos hodd,ih hs]
    rfl
  | turn hturn ht _ ih =>
    rw [List.flatMap_cons,List.length_append,← Nat.add_assoc start] at hs
    simp only [List.cons_append,marksShown,hturn,Nat.zero_ne_one,if_false,ht.afterTag_eq,bind,
      Except.bind,ih hs]

lemma render_error {t : Text} (h : marksShown evaluate 0 [] (marks t).1 = .error f) :
    render evaluate t = .error f := by
  unfold render
  simp only [h]
  rfl

theorem Stray.render_eq {t : Text} (h : Stray evaluate t f) : render evaluate t = .error f :=
  render_error (StraysIn.marksShown_eq h)

/-- The tag of a mark is read as a tag wherever it stands in brackets. -/
lemma readTag?_of_mem {t : Text} {m : Mark} (h : m ∈ (marks t).1) (r : Text) :
    readTag? (m.tag ++ (']' :: r : Text)) = some (m.tag,r) := by
  induction t using marks_induction generalizing m with
  | nil => simp [marks_nil] at h
  | cons c t hc ih =>
    rw [marks_cons hc] at h
    generalize marks t = x at h ih
    obtain ⟨_ | ⟨k,ks⟩,tail⟩ := x
    · cases h
    · obtain rfl | h := List.mem_cons.1 h
      · exact ih (m := k) List.mem_cons_self
      · exact ih (List.mem_cons_of_mem k h)
  | mark t k u hk ih =>
    rw [marks_mark hk] at h
    obtain rfl | h := List.mem_cons.1 h
    · exact (readMark?_tag hk).2 r
    · exact ih h

/-- A text is shown, or a tag of it closes nothing, or something else is wrong with its tags, which has no tag
in its message. -/
theorem render_cases (hev : ∀ t, ('[' : CodePoint) ∉ t → ('[' : CodePoint) ∉ (evaluate t).message)
    (t : Text) :
    (∃ s, render evaluate t = .ok s) ∨ (∃ f, render evaluate t = .error f ∧ Stray evaluate t f) ∨
    ∃ f, render evaluate t = .error f ∧ ('[' : CodePoint) ∉ f.message := by
  have hms : ∀ m ∈ (marks t).1, ('[' : CodePoint) ∉ m.tag :=
    fun m hm => bracket_readTag? (readTag?_of_mem hm [])
  have hnone : ∀ o ∈ ([] : List Opened), o.Bare := nofun
  obtain ⟨s,h⟩ | ⟨f,h,hs⟩ | ⟨f,h,hs⟩ := marksShown_cases hev 0 hnone hms
  · refine .inl ⟨(s ++ plainShown (marks t).2).filter fun c => !isControl c,?_⟩
    unfold render
    simp only [h]
    rfl
  · exact .inr (.inl ⟨f,render_error h,hs⟩)
  · exact .inr (.inr ⟨f,render_error h,hs⟩)

end ShellTemplate.Markup
