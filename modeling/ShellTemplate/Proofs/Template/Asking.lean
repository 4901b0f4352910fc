import ShellTemplate.Proofs.Template.Composition
import ShellTemplate.Proofs.Template.Grammar

/-! Where a pass asks. A slot is asked for at the character that completes it, and nothing else is ever
asked for. The way to such a character leads through the units of a name and of a default. -/
namespace ShellTemplate.Template

/-- From here the pass over a text completes this slot at one of its characters. -/
inductive Asks (sw : Switches) (ask : Lookup) : Reading × Progress → Text → Slot → Prop
  | now {r p c t s} (h : completed r c = some s) : Asks sw ask (r,p) (c :: t) s
  | later {u v c t s} (h : step sw ask u c = .ok v) (ht : Asks sw ask v t s) :
      Asks sw ask u (c :: t) s

section
variable {sw : Switches} {ask : Lookup}

lemma Asks.after_pass {u v : Reading × Progress} {a t : Text} {s : Slot}
    (hp : pass sw ask u a = .ok v) (h : Asks sw ask v t s) : Asks sw ask u (a ++ t) s := by
  induction a generalizing u with
  | nil =>
    cases hp
    exact h
  | cons c a ih =>
    rw [pass_cons] at hp
    cases hs : step sw ask u c with
    | ok w =>
      rw [hs] at hp
      exact .later hs (ih hp)
    | error e =>
      rw [hs] at hp
      cases hp

variable (sw ask)

/-- A template with one slot, which its last character completes. -/
theorem expandWith_completed {a : Text} {c : CodePoint} {r : Reading} {s : Slot}
    (hp : pass sw ask (.outside,{}) a = .ok (r,{})) (hc : completed r c = some s) :
    let e := expandWith sw ask (a ++ [c])
    e.asked = [s.key] ∧
    (∀ v, ask [] s.key = .value v → e.outcome = .ok v.shown) ∧
    (ask [] s.key = .absent → e.outcome = .ok (s.fallback.getD s.unresolved)) := by
  intro e
  have he : e = proceed sw ask (close ask s {}) [] := by
    simp only [e,expandWith_append,hp,proceed_ok,resume_cons,step_some hc]
  rw [he]
  unfold close Progress.fill
  cases hr : ask [] s.key with
  | value v => simp [Except.map,resume_nil,Progress.finish,Reading.cut]
  | failure f => simp [Except.map]
  | absent => cases s.fallback <;> simp [Except.map,resume_nil,Progress.finish,Reading.cut]

/-- A name behind `%` grows by letters and numbers. -/
lemma pass_percent {w : Text} (hw : ∀ c ∈ w, Text.isAlphanumeric c) (name : Text) (p : Progress) :
    pass sw ask (.percent name,p) w = .ok (.percent (name ++ w),p) := by
  induction w generalizing name with
  | nil => simp
  | cons c w ih =>
    have ha : Text.isAlphanumeric c := hw c List.mem_cons_self
    have hc : c ≠ '%' := by
      rintro rfl
      exact percent_not_alphanumeric ha
    have hs : step sw ask (.percent name,p) c = .ok (.percent (name ++ [c]),p) := by
      simp [step,hc,ha]
    have ih := ih (fun d hd => hw d (List.mem_cons_of_mem _ hd)) (name ++ [c])
    rw [pass_cons,hs]
    simpa [Except.bind] using ih

/-- A name behind `${` grows by its units, those that do not end it. -/
lemma pass_braced {n : List Atom} (hb : Atom.brace ∉ n) (hs : sw.defaults = true → Atom.colon ∉ n)
    (name : Text) (p : Progress) :
    pass sw ask (.braced name false,p) (spelled n) =
      .ok (.braced (name ++ unescaped nameMarks n) false,p) := by
  induction n generalizing name with
  | nil => simp
  | cons a n ih =>
    have hb' : Atom.brace ≠ a ∧ Atom.brace ∉ n := by simpa using hb
    have hs' : sw.defaults = true → Atom.colon ≠ a ∧ Atom.colon ∉ n := by simpa using hs
    have ha : pass sw ask (.braced name false,p) a.text =
        .ok (.braced (name ++ a.shed nameMarks) false,p) := by
      cases a with
      | plain c h =>
        have hc := Atom.plain_ne_brace hb'.1.symm
        have hd : ¬ (c = ':' ∧ sw.defaults = true) := by
          rintro ⟨rfl,hd⟩
          exact (hs' hd).1 rfl
        simp [Atom.text,Atom.shed,pass_cons,step,h,hc,hd,Except.bind]
      | pair c =>
        by_cases hc : c = ':' <;> simp [Atom.text,Atom.shed,pass_cons,step,nameMarks,hc,Except.bind]
    rw [spelled_cons,pass_append,ha]
    simpa [Except.bind] using ih hb'.2 (fun hd => (hs' hd).2) (name ++ a.shed nameMarks)

/-- A name from its `$` on. -/
lemma pass_name (h : sw.sh) {n : List Atom} (hb : Atom.brace ∉ n)
    (hs : sw.defaults = true → Atom.colon ∉ n) (p : Progress) :
    pass sw ask (.outside,p) ('$' :: '{' :: spelled n) =
      .ok (.braced (unescaped nameMarks n) false,p) := by
  have ho : pass sw ask (.outside,p) ['$','{'] = .ok (.braced [] false,p) := by
    simp [pass_cons,step,readOutside,h,Except.bind]
  have hn := pass_braced sw ask hb hs [] p
  rw [show ('$' :: '{' :: spelled n : Text) = (['$','{'] : Text) ++ spelled n from rfl,pass_append,ho]
  simpa [Except.bind] using hn

/-- A default grows by its units, all but the brace that ends it. -/
lemma pass_fallback {d : List Atom} (hb : Atom.brace ∉ d) (name value source : Text)
    (p : Progress) :
    pass sw ask (.fallback name value source false,p) (spelled d) =
      .ok (.fallback name (value ++ unescaped defaultMarks d) (source ++ spelled d) false,p) := by
  induction d generalizing value source with
  | nil => simp
  | cons a d ih =>
    have hb' : Atom.brace ≠ a ∧ Atom.brace ∉ d := by simpa using hb
    have ha : pass sw ask (.fallback name value source false,p) a.text =
        .ok (.fallback name (value ++ a.shed defaultMarks) (source ++ a.text) false,p) := by
      cases a with
      | plain c h =>
        have hc := Atom.plain_ne_brace hb'.1.symm
        simp [Atom.text,Atom.shed,pass_cons,step,h,hc,Except.bind]
      | pair c => simp [Atom.text,Atom.shed,pass_cons,step,defaultMarks,Except.bind]
    rw [spelled_cons,pass_append,ha]
    simpa [Except.bind] using ih hb'.2 (value ++ a.shed defaultMarks) (source ++ a.text)

/-- A name, a separator and a default. -/
lemma pass_default (h : sw.sh) (hd : sw.defaults = true) {n d : List Atom} (hn : Atom.brace ∉ n)
    (hs : Atom.colon ∉ n) (hb : Atom.brace ∉ d) (p : Progress) :
    pass sw ask (.outside,p) ('$' :: '{' :: (spelled n ++ (':' :: spelled d : Text))) =
      .ok (.fallback (unescaped nameMarks n) (unescaped defaultMarks d) (':' :: spelled d) false,p) := by
  have hname := pass_name sw ask h hn (fun _ => hs) p
  have hsep : step sw ask (.braced (unescaped nameMarks n) false,p) ':' =
      .ok (.fallback (unescaped nameMarks n) [] [':'] false,p) := by
    simp [step,hd]
  have hrest := pass_fallback sw ask hb (unescaped nameMarks n) [] [':'] p
  rw [show ('$' :: '{' :: (spelled n ++ (':' :: spelled d : Text)) : Text) =
    ('$' :: '{' :: spelled n : Text) ++ (':' :: spelled d : Text) from rfl,pass_append,hname]
  simpa [Except.bind,pass_cons,hsep] using hrest

end

end ShellTemplate.Template
