import Mathlib.Data.List.Basic
import Mathlib.Tactic.Lemma
import ShellTemplate.Markup.Tag

/-! Where the tags of a text are, if the text is put together from others. A text without tags of its own
only adds to what stands before the next tag, and an escaped text has the tags of the text that was
escaped, each with an odd number of backslashes before it, and ends as it does but for a single backslash. -/
namespace ShellTemplate.Markup

/-- Marks with a text put in front of them. -/
def putBefore (t : Text) : List Mark × Text → List Mark × Text
  | (m :: ms,tail) => ({ m with before := t ++ m.before } :: ms,tail)
  | ([],tail) => ([],t ++ tail)

@[simp] lemma putBefore_nil (x : List Mark × Text) : putBefore [] x = x := by
  obtain ⟨_ | ⟨m,ms⟩,tail⟩ := x <;> rfl

lemma putBefore_putBefore (s t : Text) (x : List Mark × Text) :
    putBefore s (putBefore t x) = putBefore (s ++ t) x := by
  obtain ⟨_ | ⟨m,ms⟩,tail⟩ := x <;> simp [putBefore]

lemma marks_of_none {t : Text} (h : nextMark? t = none) : marks t = ([],t) := by
  rw [marks]
  split
  · rfl
  · rename_i h'; cases h.symm.trans h'

lemma marks_of_some {t r : Text} {m : Mark} (h : nextMark? t = some (m,r)) :
    marks t = (m :: (marks r).1,(marks r).2) := by
  rw [marks]
  split
  · rename_i h'; cases h.symm.trans h'
  · rename_i h'; cases h.symm.trans h'; rfl

lemma marks_nil : marks [] = ([],[]) := marks_of_none rfl

/-- A character that begins no tag. -/
lemma marks_cons {c : CodePoint} {t : Text} (h : readMark? (c :: t) = none) :
    marks (c :: t) = putBefore [c] (marks t) := by
  have hn : nextMark? (c :: t) =
      (nextMark? t).map fun x => ({ x.1 with before := c :: x.1.before },x.2) := by
    rw [nextMark?,h]
  cases hx : nextMark? t with
  | none =>
    rw [hx] at hn
    rw [marks_of_none hn,marks_of_none hx]
    rfl
  | some x =>
    obtain ⟨m,r⟩ := x
    rw [hx] at hn
    rw [marks_of_some hn,marks_of_some hx]
    rfl

/-- The tag that a text begins with. -/
lemma marks_mark {t r : Text} {m : Mark} (h : readMark? t = some (m,r)) :
    marks t = (m :: (marks r).1,(marks r).2) := by
  refine marks_of_some ?_
  cases t with
  | nil => cases h
  | cons c t => rw [nextMark?,h]

/-- Whether a closing bracket comes before any opening one. -/
def closes : Text → Bool
  | [] => false
  | c :: t => c == ']' || (c != '[' && closes t)

lemma closes_eq (t : Text) : closes t = (Text.cutAt? ']' t).any fun x => !x.1.contains '[' := by
  induction t with
  | nil => rfl
  | cons c t ih =>
    by_cases hc : c = ']'
    · simp [closes,Text.cutAt?,hc]
    · rw [closes,Text.cutAt?,if_neg hc,ih]
      have hc' : (c == ']') = false := beq_false_of_ne hc
      by_cases ho : c = '['
      · cases Text.cutAt? ']' t <;> simp [ho]
      · have ho' : (c != '[') = true := bne_iff_ne.2 ho
        cases Text.cutAt? ']' t <;> simp [hc',ho',Ne.symm ho]

lemma readTag?_cons (c : CodePoint) (t : Text) :
    (readTag? (c :: t)).isSome = (isTagStart c && closes t) := by
  rw [readTag?,closes_eq]
  cases isTagStart c with
  | false => rfl
  | true =>
    cases Text.cutAt? ']' t with
    | none => rfl
    | some x => by_cases hx : ('[' : CodePoint) ∈ x.1 <;> simp [hx]

/-- A tag can be read before anything else, too. -/
lemma readTag?_bracket {t tag r : Text} (h : readTag? t = some (tag,r)) (r' : Text) :
    readTag? (tag ++ (']' :: r' : Text)) = some (tag,r') := by
  cases t with
  | nil => cases h
  | cons c t =>
    rw [readTag?] at h
    split at h
    · rename_i hc
      split at h
      · rename_i body _ hb
        split at h
        · cases h
        · rename_i hn
          cases h
          have hcut : Text.cutAt? ']' (body ++ (']' :: r' : Text)) = some (body,r') :=
            Text.cutAt?_eq_some.2 ⟨rfl,(Text.cutAt?_eq_some.1 hb).2⟩
          rw [List.cons_append,readTag?,if_pos hc,hcut]
          simp only [hn]
          rfl
      · cases h
    · cases h

lemma readMark?_backslashes {tag t r : Text} (h : readTag? t = some (tag,r)) (n : Nat) :
    readMark? ((List.replicate n '\\' : Text) ++ ('[' :: t : Text)) = some (⟨[],n,tag⟩,r) := by
  induction n with
  | zero =>
    rw [List.replicate_zero,List.nil_append,readMark?,if_neg (by decide),if_pos rfl,h]
    rfl
  | succ n ih =>
    rw [List.replicate_succ,List.cons_append,readMark?,if_pos rfl,ih]
    rfl

lemma readMark?_tag {t r : Text} {m : Mark} (h : readMark? t = some (m,r)) :
    m.before = [] ∧ ∀ r', readTag? (m.tag ++ (']' :: r' : Text)) = some (m.tag,r') := by
  induction t generalizing m with
  | nil => cases h
  | cons c t ih =>
    rw [readMark?] at h
    split at h
    · obtain ⟨⟨m',r''⟩,hm,he⟩ := Option.map_eq_some_iff.1 h
      cases he
      exact ⟨(ih hm).1,(ih hm).2⟩
    · split at h
      · obtain ⟨⟨tag,r''⟩,ht,he⟩ := Option.map_eq_some_iff.1 h
        cases he
        exact ⟨rfl,readTag?_bracket ht⟩
      · cases h

/-- What is read of a tag once it has been escaped. -/
lemma readMark?_escaped {t r : Text} {m : Mark} (h : readMark? t = some (m,r)) (r' : Text) :
    readMark? (m.escaped.source ++ r') = some (m.escaped,r') := by
  obtain ⟨hb,ht⟩ := readMark?_tag h
  have hs : m.escaped.source ++ r' =
      (List.replicate m.escaped.backslashes '\\' : Text) ++
        ('[' :: (m.tag ++ (']' :: r' : Text)) : Text) := by
    simp [Mark.source,Mark.bracketed,Mark.escaped,hb]
  rw [hs,readMark?_backslashes (ht r')]
  simp [Mark.escaped,hb]

/-- A text ends, goes on with a character that begins no tag, or with a tag. -/
lemma marks_induction {P : Text → Prop} (nil : P [])
    (cons : ∀ c t, readMark? (c :: t) = none → P t → P (c :: t))
    (mark : ∀ t m r, readMark? t = some (m,r) → P r → P t) (t : Text) : P t := by
  induction hl : t.length using Nat.strongRecOn generalizing t with
  | _ n ih =>
    cases t with
    | nil => exact nil
    | cons c t =>
      cases h : readMark? (c :: t) with
      | none => exact cons c t h (ih t.length (by simp [← hl]) t rfl)
      | some x =>
        obtain ⟨m,r⟩ := x
        have hlen := congrArg List.length (readMark?_append h).2
        have := m.source_length
        rw [List.length_append,hl] at hlen
        exact mark _ m r h (ih r.length (by omega) r rfl)

/-- The text with the tags in it made plain text. -/
def guarded (t : Text) : Text := (marks t).1.flatMap (fun m => m.escaped.source) ++ (marks t).2

@[simp] lemma guarded_nil : guarded [] = [] := by simp [guarded,marks_nil]

lemma guarded_cons {c : CodePoint} {t : Text} (h : readMark? (c :: t) = none) :
    guarded (c :: t) = c :: guarded t := by
  simp only [guarded,marks_cons h]
  obtain ⟨_ | ⟨m,ms⟩,tail⟩ := marks t
  · rfl
  · simp [putBefore,Mark.escaped,Mark.source,Mark.bracketed]

lemma guarded_mark {t r : Text} {m : Mark} (h : readMark? t = some (m,r)) :
    guarded t = m.escaped.source ++ guarded r := by
  simp [guarded,marks_mark h]

lemma closes_mark {t r : Text} {m : Mark} (hb : m.before = []) (h : t = m.source ++ r) :
    closes t = false := by
  have hn : ∀ n,
      closes ((List.replicate n '\\' : Text) ++ ('[' :: (m.tag ++ (']' :: r : Text)) : Text)) = false := by
    intro n
    induction n with
    | zero => rfl
    | succ n ih => simpa [List.replicate_succ,closes] using ih
  rw [h]
  simpa [Mark.source,Mark.bracketed,hb] using hn m.backslashes

/-- No bracket has come or gone. -/
lemma closes_guarded (t : Text) : closes (guarded t) = closes t := by
  induction t using marks_induction with
  | nil => rw [guarded_nil]
  | cons c t h ih => rw [guarded_cons h,closes,closes,ih]
  | mark t m r h _ =>
    obtain ⟨hb,ht⟩ := readMark?_append h
    rw [closes_mark hb ht,guarded_mark h,closes_mark (m := m.escaped) hb rfl]

lemma readTag?_guarded {t : Text} (h : readTag? t = none) : readTag? (guarded t) = none := by
  cases t with
  | nil => rw [guarded_nil]; rfl
  | cons c t =>
    cases hm : readMark? (c :: t) with
    | none =>
      rw [guarded_cons hm,← Option.not_isSome_iff_eq_none,readTag?_cons,closes_guarded,
        ← readTag?_cons,h]
      decide
    | some x =>
      obtain ⟨m,r⟩ := x
      have hb := (readMark?_append hm).1
      have hs : m.escaped.source = ('\\' :: ((List.replicate (2 * m.backslashes) '\\' : Text) ++
          m.bracketed) : Text) := by
        simp [Mark.source,Mark.escaped,Mark.bracketed,hb,List.replicate_succ]
      rw [guarded_mark hm,hs]
      rfl

/-- Where no tag begins, none begins in the text with its tags made plain text. -/
lemma readMark?_guarded {c : CodePoint} {t : Text} (h : readMark? (c :: t) = none) :
    readMark? (c :: guarded t) = none := by
  induction t generalizing c with
  | nil => rwa [guarded_nil]
  | cons d t ih =>
    rw [readMark?] at h ⊢
    split
    · rename_i hc
      rw [if_pos hc,Option.map_eq_none_iff] at h
      rw [guarded_cons h,ih h]
      rfl
    · rename_i hc
      rw [if_neg hc] at h
      split
      · rename_i ho
        rw [if_pos ho,Option.map_eq_none_iff] at h
        rw [readTag?_guarded h]
        rfl
      · rfl

/-- The tags of a text stay where they are when they are made plain text. -/
theorem marks_guarded (t : Text) :
    marks (guarded t) = ((marks t).1.map Mark.escaped,(marks t).2) := by
  induction t using marks_induction with
  | nil => simp [marks_nil]
  | cons c t h ih =>
    rw [guarded_cons h,marks_cons (readMark?_guarded h),ih,marks_cons h]
    obtain ⟨_ | ⟨m,ms⟩,tail⟩ := marks t <;> rfl
  | mark t m r h ih =>
    rw [guarded_mark h,marks_mark (readMark?_escaped h _),ih,marks_mark h]
    rfl

lemma cutAt?_append {mark : CodePoint} {u : Text} (hu : mark ∉ u) (t : Text) :
    Text.cutAt? mark (t ++ u) = (Text.cutAt? mark t).map fun x => (x.1,x.2 ++ u) := by
  induction t with
  | nil =>
    cases h : Text.cutAt? mark u with
    | none => rw [List.nil_append,h]; rfl
    | some x => exact absurd ((Text.cutAt?_eq_some.1 h).1 ▸ by simp) hu
  | cons c t ih =>
    rw [List.cons_append,Text.cutAt?,Text.cutAt?,ih]
    split
    · rfl
    · simp [Option.map_map,Function.comp_def]

lemma readTag?_append_backslash (t : Text) :
    readTag? (t ++ (['\\'] : Text)) = (readTag? t).map fun x => (x.1,x.2 ++ (['\\'] : Text)) := by
  cases t with
  | nil => rfl
  | cons c t =>
    rw [List.cons_append,readTag?,readTag?,cutAt?_append (by decide)]
    cases isTagStart c with
    | false => rfl
    | true =>
      cases Text.cutAt? ']' t with
      | none => rfl
      | some x => by_cases hx : ('[' : CodePoint) ∈ x.1 <;> simp [hx]

lemma readMark?_append_backslash (t : Text) :
    readMark? (t ++ (['\\'] : Text)) = (readMark? t).map fun x => (x.1,x.2 ++ (['\\'] : Text)) := by
  induction t with
  | nil => rfl
  | cons c t ih =>
    rw [List.cons_append,readMark?,readMark?,ih,readTag?_append_backslash]
    split
    · simp [Option.map_map,Function.comp_def]
    · split
      · simp [Option.map_map,Function.comp_def]
      · rfl

/-- A backslash behind everything is in no tag. -/
lemma marks_append_backslash (t : Text) :
    marks (t ++ (['\\'] : Text)) = ((marks t).1,(marks t).2 ++ (['\\'] : Text)) := by
  induction t using marks_induction with
  | nil => rw [List.nil_append,marks_cons rfl,marks_nil]; rfl
  | cons c t h ih =>
    have h' : readMark? (c :: (t ++ (['\\'] : Text))) = none := by
      rw [← List.cons_append,readMark?_append_backslash,h]
      rfl
    rw [List.cons_append,marks_cons h',ih,marks_cons h]
    obtain ⟨_ | ⟨m,ms⟩,tail⟩ := marks t <;> rfl
  | mark t m r h ih =>
    have h' : readMark? (t ++ (['\\'] : Text)) = some (m,r ++ (['\\'] : Text)) := by
      rw [readMark?_append_backslash,h]
      rfl
    rw [marks_mark h',ih,marks_mark h]

lemma endsWithBackslash_concat (t : Text) (c : CodePoint) :
    endsWithBackslash (t ++ [c]) = (c == '\\' && t.getLast? != some ('\\' : CodePoint)) := by
  unfold endsWithBackslash
  rw [List.reverse_append,← List.head?_reverse]
  cases t.reverse with
  | nil => by_cases hc : c = '\\' <;> simp [hc]
  | cons d u =>
    by_cases hc : c = '\\'
    · subst c
      rfl
    · simp [hc]

lemma endsWithBackslash_append (t : Text) (u : Text) :
    endsWithBackslash (t ++ (']' :: u : Text)) = endsWithBackslash (']' :: u) := by
  obtain rfl | ⟨v,c,rfl⟩ := u.eq_nil_or_concat'
  · exact (endsWithBackslash_concat t ']').trans (endsWithBackslash_concat [] ']').symm
  · have h : (t ++ (']' :: v : Text)).getLast? = (']' :: v : Text).getLast? := by
      rw [List.getLast?_append,List.getLast?_cons,Option.some_or]
    rw [← List.cons_append,← List.append_assoc,endsWithBackslash_concat,endsWithBackslash_concat,h]

lemma Mark.exists_source (m : Mark) : ∃ v, m.source = v ++ ([']'] : Text) :=
  ⟨m.before ++ (List.replicate m.backslashes '\\' : Text) ++ ('[' :: m.tag : Text),
    by simp [Mark.source,Mark.bracketed]⟩

/-- A text and the text with its tags made plain text end alike. -/
lemma endsWithBackslash_guarded (t : Text) : endsWithBackslash (guarded t) = endsWithBackslash t := by
  have ht := marks_source t
  unfold guarded
  generalize marks t = x at ht ⊢
  obtain ⟨ms,tail⟩ := x
  obtain rfl | ⟨ms,m,rfl⟩ := ms.eq_nil_or_concat'
  · simpa using congrArg endsWithBackslash ht
  · obtain ⟨v,hv⟩ := m.exists_source
    obtain ⟨w,hw⟩ := m.escaped.exists_source
    rw [← ht]
    simp only [List.flatMap_append,List.flatMap_singleton,hv,hw,← List.append_assoc]
    rw [List.append_assoc _ ([']'] : Text),List.append_assoc _ ([']'] : Text),List.singleton_append,
      endsWithBackslash_append,endsWithBackslash_append]

/-- The tags of an escaped text are plain text, and a single backslash at its end has become two. -/
theorem marks_escape (t : Text) : marks (escape t) = ((marks t).1.map Mark.escaped,
    (marks t).2 ++ (if endsWithBackslash t then ['\\'] else [] : Text)) := by
  have he : escape t =
      if endsWithBackslash (guarded t) then guarded t ++ (['\\'] : Text) else guarded t := rfl
  rw [he,endsWithBackslash_guarded]
  split
  · rw [marks_append_backslash,marks_guarded]
  · rw [marks_guarded,List.append_nil]

end ShellTemplate.Markup
