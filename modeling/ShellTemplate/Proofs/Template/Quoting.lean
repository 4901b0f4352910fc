import Mathlib.Data.List.DropRight
import ShellTemplate.Log.Notice
import ShellTemplate.Proofs.Template.Step
import ShellTemplate.Proofs.Template.Units

/-! Texts written as templates that stand for themselves. A `$` is written with a backslash and a `%` is
written twice, unless a backslash has taken it already; only a `$` behind an odd run of backslashes cannot
be written so, since its last backslash is taken off. -/
namespace ShellTemplate.Template

/-- The unit as it is written for itself. -/
def Atom.quoted (dos : Bool) : Atom → Text
  | .plain c _ => if c = '$' then ['\\','$'] else if c = '%' ∧ dos then ['%','%'] else [c]
  | .pair c => ['\\',c]

/-- The text as it is written for itself where expressions in braces are admitted. -/
def quoted (dos : Bool) (s : Text) : Text := (units s).flatMap (Atom.quoted dos) ++ loose s

/-- The text as it is written for itself where only names between two `%` are. -/
def doubled (s : Text) : Text := s.flatMap fun c : CodePoint => if c = '%' then ['%','%'] else [c]

/-- A run of backslashes of odd length, not part of a longer one, stands before a `$`. -/
def OddRun (s : Text) : Prop :=
  ∃ a n b, s = a ++ ((List.replicate (2*n+1) '\\' : Text) ++ ('$' :: b : Text)) ∧
    a.getLast? ≠ some ('\\' : CodePoint)

lemma spelled_replicate (n : Nat) :
    spelled (List.replicate n (.pair '\\')) = (List.replicate (2*n) '\\' : Text) := by
  induction n with
  | zero => rfl
  | succ n ih =>
    have hn : 2*(n+1) = 2*n+1+1 := by omega
    rw [List.replicate_succ,spelled_cons,ih,hn,List.replicate_succ,List.replicate_succ]
    rfl

/-- Units end in a backslash only if the last of them is one with another behind it. -/
lemma getLast?_spelled {as : List Atom} (h : as.getLast? ≠ some (.pair '\\')) :
    (spelled as).getLast? ≠ some ('\\' : CodePoint) := by
  obtain rfl | ⟨bs,a,rfl⟩ := as.eq_nil_or_concat
  · simp
  · rw [List.concat_eq_append] at h ⊢
    cases a with
    | plain c hc => simpa [Atom.text] using hc
    | pair c => simpa [Atom.text] using h

/-- Before a `$`, a run of an odd number of backslashes is a run of pairs and one backslash more. -/
lemma replicate_odd (n : Nat) (b : Text) :
    (List.replicate (2*n+1) '\\' : Text) ++ ('$' :: b : Text) =
      spelled (List.replicate n (.pair '\\')) ++ ('\\' :: '$' :: b : Text) := by
  rw [spelled_replicate,List.replicate_succ']
  simp

/-- Units end in a run of backslash pairs, which may be empty. -/
lemma exists_run (as : List Atom) :
    ∃ bs n, as = bs ++ List.replicate n (.pair '\\') ∧ bs.getLast? ≠ some (.pair '\\') := by
  let p : Atom → Bool := fun a => a = .pair '\\'
  have hrun : as.rtakeWhile p = List.replicate (as.rtakeWhile p).length (.pair '\\') := by
    apply List.eq_replicate_of_mem
    intro a ha
    simpa [p] using List.mem_rtakeWhile_imp ha
  refine ⟨as.rdropWhile p,(as.rtakeWhile p).length,?_,?_⟩
  · rw [← hrun,List.rdropWhile_append_rtakeWhile]
  · intro hl
    obtain ⟨hne,hl⟩ := List.mem_getLast?_eq_getLast hl
    have hlast := List.rdropWhile_last_not p as hne
    rw [← hl] at hlast
    exact hlast (by simp [p])

/-- The runs of odd length are those that leave a backslash for the `$`. -/
theorem oddRun_iff (s : Text) : OddRun s ↔ Atom.pair ('$' : CodePoint) ∈ units s := by
  constructor
  · rintro ⟨a,n,b,rfl,ha⟩
    rw [units_append (loose_of_getLast? ha),replicate_odd,units_spelled_append]
    simp [units]
  · intro h
    obtain ⟨as,cs,hu⟩ := List.append_of_mem h
    -- the pairs in front of the `$` make the run even, and the backslash of the `$` makes it odd
    obtain ⟨bs,n,rfl,hb⟩ := exists_run as
    refine ⟨spelled bs,n,spelled cs ++ loose s,?_,getLast?_spelled hb⟩
    have hs := spelled_units s
    rw [hu] at hs
    rw [replicate_odd]
    simpa [Atom.text] using hs.symm

instance (s : Text) : Decidable (OddRun s) := decidable_of_iff _ (oddRun_iff s).symm

section
variable {sw : Switches} {ask : Lookup}

/-- What leads from outside to outside bit by bit does so as a whole. -/
lemma pass_flatMap {α : Type} {f g : α → Text} {xs : List α}
    (h : ∀ x ∈ xs, ∀ p, pass sw ask (.outside,p) (f x) = .ok (.outside,p.write (g x)))
    (p : Progress) :
    pass sw ask (.outside,p) (xs.flatMap f) = .ok (.outside,p.write (xs.flatMap g)) := by
  induction xs generalizing p with
  | nil => simp
  | cons x xs ih =>
    have hx := h x List.mem_cons_self p
    have ih := ih (fun y hy => h y (List.mem_cons_of_mem _ hy)) (p.write (g x))
    rw [List.flatMap_cons,List.flatMap_cons,pass_append,hx]
    simpa [Except.bind] using ih

/-- A unit that is written for itself is copied. -/
lemma pass_quoted (h : sw.sh = true) {a : Atom} (ha : a ≠ .pair '$') (p : Progress) :
    pass sw ask (.outside,p) (a.quoted sw.dos) = .ok (.outside,p.write a.text) := by
  cases a with
  | plain c hc =>
    simp only [Atom.quoted,Atom.text]
    split_ifs with hd hp
    · subst hd
      simp [pass_cons,step,readOutside,h,Except.bind]
    · obtain ⟨rfl,hdos⟩ := hp
      simp [pass_cons,step,readOutside,hdos,Except.bind]
    · simp [pass_cons,step,readOutside,hc,hd,hp,Except.bind]
  | pair c =>
    have hc : c ≠ '$' := fun hc => ha (hc ▸ rfl)
    simp [Atom.quoted,Atom.text,pass_cons,step,readOutside,h,hc,Except.bind]

lemma pass_doubled (hsh : sw.sh = false) (hdos : sw.dos = true) (c : CodePoint) (p : Progress) :
    pass sw ask (.outside,p) (if c = '%' then ['%','%'] else [c]) =
      .ok (.outside,p.write [c]) := by
  by_cases hc : c = '%'
  · subst hc
    simp [pass_cons,step,readOutside,hdos,Except.bind]
  · simp [pass_cons,step,readOutside,hsh,hc,Except.bind]

/-- Behind what is copied, a last backslash is copied too. -/
lemma resume_loose (h : sw.sh = true) (s : Text) (p : Progress) :
    resume sw ask (.outside,p) (loose s) = (p.write (loose s)).finish := by
  obtain hl | hl := dangling_loose s
  · simp [hl,resume_nil,Reading.cut]
  · simp [hl,resume_cons,step,readOutside,h,resume_nil,Reading.cut]

end

lemma finish_write (s : Text) : (({} : Progress).write s).finish = ⟨[],[],.ok s⟩ := by
  simp [Progress.finish]

lemma expandWith_quoted {sw : Switches} (h : sw.sh = true) (ask : Lookup) {s : Text}
    (hs : ¬ OddRun s) : expandWith sw ask (quoted sw.dos s) = ⟨[],[],.ok s⟩ := by
  have hu : ∀ a ∈ units s, a ≠ .pair '$' := by
    rintro a ha rfl
    exact hs ((oddRun_iff s).2 ha)
  have hp : pass sw ask (.outside,{}) ((units s).flatMap (Atom.quoted sw.dos)) =
      .ok (.outside,({} : Progress).write (spelled (units s))) :=
    pass_flatMap (fun a ha p => pass_quoted h (hu a ha) p) {}
  rw [quoted,expandWith,resume_append,hp,proceed_ok,resume_loose h,Progress.write_write,spelled_units,
    finish_write]

lemma expandWith_doubled {sw : Switches} (hsh : sw.sh = false) (hdos : sw.dos = true)
    (ask : Lookup) (s : Text) : expandWith sw ask (doubled s) = ⟨[],[],.ok s⟩ := by
  have hp : pass sw ask (.outside,{}) (doubled s) =
      .ok (.outside,({} : Progress).write (s.flatMap fun c => [c])) :=
    pass_flatMap (fun c _ p => pass_doubled hsh hdos c p) {}
  unfold expandWith resume
  rw [hp]
  simp [Reading.cut,Progress.finish]

/-- Where expressions in braces are admitted, a text without an odd run of backslashes before a `$`
comes out of its quoted form as it is, whatever the context would do; where only names between two `%`
are, every text comes out of its doubled form. No key is asked for and nothing is logged. -/
theorem expandWith_literal (sw : Switches) (ask : Lookup) (s : Text) :
    (sw.sh = true → ¬ OddRun s →
      let e := expandWith sw ask (quoted sw.dos s)
      e.outcome = .ok s ∧ e.asked = [] ∧ e.notices = []) ∧
    (sw.sh = false → sw.dos = true →
      let e := expandWith sw ask (doubled s)
      e.outcome = .ok s ∧ e.asked = [] ∧ e.notices = []) := by
  constructor
  · intro hsh hs
    simp [expandWith_quoted hsh ask hs,Expansion.notices]
  · intro hsh hdos
    simp [expandWith_doubled hsh hdos ask s,Expansion.notices]

/-- Pairs of backslashes, a `%` that one of them takes, and a context that fails on every key. -/
theorem literal_of_marks :
    let ask : Lookup := fun _ k => .failure (.missingKey k)
    let s : Text := ['\\','\\','$','{','a','}','%','b','%','\\','%','\\']
    ¬ OddRun s ∧
    quoted true s = (['\\','\\','\\','$','{','a','}','%','%','b','%','%','\\','%','\\'] : Text) ∧
    (expandWith {} ask (quoted true s)).outcome = .ok s ∧
    (expandWith { sh := false } ask (doubled s)).outcome = .ok s := by
  intro ask s
  have hs : ¬ OddRun s := by decide
  exact ⟨hs,by decide,((expandWith_literal {} ask s).1 rfl hs).1,
    ((expandWith_literal { sh := false } ask s).2 rfl rfl).1⟩

end ShellTemplate.Template
