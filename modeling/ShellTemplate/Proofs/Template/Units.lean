import ShellTemplate.Proofs.Template.Atom

/-! A text taken apart into its units. There is one way to do it from the start, and so a text that is put
in front of another keeps its own units as long as no backslash is left over at its end. A text may be
written with more backslashes than it has, and reads as itself where these are taken off again. -/
namespace ShellTemplate.Template

/-- Units are read as they were written, whatever comes after them. -/
@[simp] theorem units_spelled_append (as : List Atom) (t : Text) :
    units (spelled as ++ t) = as ++ units t := by
  induction as with
  | nil => rfl
  | cons a as ih =>
    cases a with
    | plain c h => simp [Atom.text,units_plain h,ih]
    | pair c => simp [Atom.text,units,ih]

@[simp] theorem loose_spelled_append (as : List Atom) (t : Text) :
    loose (spelled as ++ t) = loose t := by
  induction as with
  | nil => rfl
  | cons a as ih =>
    cases a with
    | plain c h => simp [Atom.text,loose_plain h,ih]
    | pair c => simp [Atom.text,loose,ih]

@[simp] lemma units_spelled (as : List Atom) : units (spelled as) = as := by
  simpa [units] using units_spelled_append as []

@[simp] lemma loose_spelled (as : List Atom) : loose (spelled as) = [] := by
  simpa [loose] using loose_spelled_append as []

/-- A text without a backslash left over is all units. -/
lemma spelled_units_of_loose {t : Text} (h : loose t = []) : spelled (units t) = t := by
  have hs := spelled_units t
  rwa [h,List.append_nil] at hs

lemma units_append {a : Text} (h : loose a = []) (t : Text) :
    units (a ++ t) = units a ++ units t := by
  have ha := units_spelled_append (units a) t
  rwa [spelled_units_of_loose h] at ha

lemma loose_append {a : Text} (h : loose a = []) (t : Text) : loose (a ++ t) = loose t := by
  have ha := loose_spelled_append (units a) t
  rwa [spelled_units_of_loose h] at ha

/-- The beginning of a text has no units that the text has not. -/
theorem units_beginning (t u : Text) : units t <+: units (t ++ u) := by
  have h := units_spelled_append (units t) (loose t ++ u)
  rw [← List.append_assoc,spelled_units] at h
  exact ⟨_,h.symm⟩

/-- Nor has the end of a text, if what stands before it holds no backslash. -/
theorem units_ending {a : Text} (h : ('\\' : CodePoint) ∉ a) (t : Text) : units t <:+ units (a ++ t) := by
  induction a with
  | nil => exact List.suffix_rfl
  | cons c a ih =>
    have hc : c ≠ '\\' := by
      rintro rfl
      exact h List.mem_cons_self
    rw [List.cons_append,units_plain hc]
    exact (ih fun ha => h (List.mem_cons_of_mem _ ha)).trans (List.suffix_cons _ _)

/-- A text without backslashes has no pairs, -/
lemma pair_not_mem {as : List Atom} (h : ('\\' : CodePoint) ∉ spelled as) (c : CodePoint) :
    Atom.pair c ∉ as :=
  fun hc => h (List.mem_flatMap.2 ⟨_,hc,by simp [Atom.text]⟩)

/-- and none is left over behind a text that does not end in one. -/
lemma loose_of_getLast? {t : Text} (h : t.getLast? ≠ some ('\\' : CodePoint)) : loose t = [] := by
  obtain hl | hl := dangling_loose t
  · exact hl
  · have hs := spelled_units t
    rw [hl] at hs
    exact absurd (by rw [← hs]; simp) h

lemma loose_of_not_mem {t : Text} (h : ('\\' : CodePoint) ∉ t) : loose t = [] :=
  loose_of_getLast? fun hl => h (List.mem_of_getLast? hl)

/-- A text that is all units, none of them barred. -/
structure Clear (barred : List Atom) (t : Text) : Prop where
  whole : loose t = []
  free : ∀ a ∈ units t, a ∉ barred

lemma clear_nil (barred : List Atom) : Clear barred [] := ⟨rfl,by simp [units]⟩

lemma Clear.push {barred : List Atom} {t : Text} (h : Clear barred t) {a : Atom} (ha : a ∉ barred) :
    Clear barred (t ++ a.text) := by
  have hu : units a.text = [a] := by simpa using units_spelled [a]
  have hl : loose a.text = [] := by simpa using loose_spelled [a]
  constructor
  · rw [loose_append h.whole,hl]
  · intro b hb
    rw [units_append h.whole,hu,List.mem_append,List.mem_singleton] at hb
    obtain hb | rfl := hb
    · exact h.free b hb
    · exact ha

/-- It goes on with a character that is no backslash or with a backslash and the next character. -/
lemma Clear.push_plain {barred : List Atom} {t : Text} (h : Clear barred t) {c : CodePoint}
    (hc : c ≠ '\\') (ha : Atom.plain c hc ∉ barred) : Clear barred (t ++ [c]) := h.push ha

lemma Clear.push_pair {barred : List Atom} {t : Text} (h : Clear barred t) {c : CodePoint}
    (ha : Atom.pair c ∉ barred) : Clear barred (t ++ (['\\',c] : Text)) := h.push ha

/-- The unit with a backslash before it, if it is one of these marks and has none. -/
def Atom.guard (marks : Text) : Atom → Atom
  | .plain c h => if c ∈ marks then .pair c else .plain c h
  | .pair c => .pair c

/-- The text with a backslash put before each of these marks that has none. -/
def guarded (marks t : Text) : Text := spelled ((units t).map (Atom.guard marks)) ++ loose t

lemma guarded_spelled_append (marks : Text) (as : List Atom) (t : Text) :
    guarded marks (spelled as ++ t) = spelled (as.map (Atom.guard marks)) ++ guarded marks t := by
  simp [guarded]

/-- Behind that no mark stands unpaired, and what does so did before. -/
lemma plain_not_mem_guard {marks : Text} {c : CodePoint} (hc : c ∈ marks) (h : c ≠ '\\')
    (as : List Atom) : Atom.plain c h ∉ as.map (Atom.guard marks) := by
  intro hm
  obtain ⟨a,-,ha⟩ := List.mem_map.1 hm
  cases a with
  | plain d hd =>
    by_cases hd' : d ∈ marks
    · simp [Atom.guard,hd'] at ha
    · simp only [Atom.guard,hd',if_false,Atom.plain.injEq] at ha
      exact hd' (ha ▸ hc)
  | pair d => simp [Atom.guard] at ha

lemma plain_mem_of_guard {marks : Text} {c : CodePoint} {h : c ≠ '\\'} {as : List Atom}
    (hm : Atom.plain c h ∈ as.map (Atom.guard marks)) : Atom.plain c h ∈ as := by
  obtain ⟨a,ha,he⟩ := List.mem_map.1 hm
  cases a with
  | plain d hd =>
    by_cases hd' : d ∈ marks
    · simp [Atom.guard,hd'] at he
    · simp only [Atom.guard,hd',if_false,Atom.plain.injEq] at he
      subst he
      exact ha
  | pair d => simp [Atom.guard] at he

/-- Characters are only taken off. -/
theorem unescaped_sublist (marks : Text) (as : List Atom) :
    (unescaped marks as).Sublist (spelled as) := by
  induction as with
  | nil => exact .slnil
  | cons a as ih =>
    have ha : (a.shed marks).Sublist a.text := by
      cases a with
      | plain => exact .refl _
      | pair c =>
        simp only [Atom.shed,Atom.text]
        split <;> simp
    exact ha.append ih

/-- Nothing is taken off exactly if no backslash stands before a mark. -/
theorem unescaped_eq_spelled_iff (marks : Text) (as : List Atom) :
    unescaped marks as = spelled as ↔ ∀ c ∈ marks, Atom.pair c ∉ as := by
  induction as with
  | nil => simp
  | cons a as ih =>
    cases a with
    | plain c h => simp [Atom.shed,Atom.text,ih]
    | pair c =>
      by_cases hc : c ∈ marks
      · have hl := (unescaped_sublist marks as).length_le
        constructor
        · intro h
          have he := congrArg List.length h
          simp only [unescaped_cons,spelled_cons,Atom.shed,hc,if_true,Atom.text,
            List.length_append,List.length_cons,List.length_nil] at he
          omega
        · intro h
          exact absurd List.mem_cons_self (h c hc)
      · simp only [unescaped_cons,spelled_cons,Atom.shed,hc,if_false,Atom.text,
          List.append_cancel_left_eq,ih,List.mem_cons,Atom.pair.injEq,not_or]
        constructor
        · intro h d hd
          exact ⟨fun he => hc (he ▸ hd),h d hd⟩
        · exact fun h d hd => (h d hd).2

/-- Where the backslashes before some marks are taken off, it makes no difference whether they were put
before fewer of them. -/
theorem unescaped_map_guard {marks more : Text} (hs : ∀ c ∈ marks, c ∈ more) (as : List Atom) :
    unescaped more (as.map (Atom.guard marks)) = unescaped more as := by
  induction as with
  | nil => rfl
  | cons a as ih =>
    have ha : (a.guard marks).shed more = a.shed more := by
      cases a with
      | plain c hc =>
        by_cases hm : c ∈ marks
        · simp [Atom.guard,Atom.shed,hm,hs c hm]
        · simp [Atom.guard,Atom.shed,hm]
      | pair c => rfl
    rw [List.map_cons,unescaped_cons,unescaped_cons,ha,ih]

/-- So a text comes back from it, if no backslash stood before any of the marks. -/
theorem unescaped_guard {marks more : Text} (hs : ∀ c ∈ marks, c ∈ more) {as : List Atom}
    (h : ∀ c ∈ more, Atom.pair c ∉ as) :
    unescaped more (as.map (Atom.guard marks)) = spelled as := by
  rw [unescaped_map_guard hs]
  exact (unescaped_eq_spelled_iff more as).2 h

end ShellTemplate.Template
