import Mathlib.Tactic.ByContra
import ShellTemplate.Log.Notice
import ShellTemplate.Proofs.Template.Filling
import ShellTemplate.Proofs.Template.Step

/-! Templates one behind the other. A template that ends outside of everything goes with every
continuation, and no other template does: whatever a pass is in the middle of, there is a continuation
that ends it, and then less comes out than if both were read apart. -/
namespace ShellTemplate.Template

/-- A pass over the template alone ends outside of everything: no backslash is left without its
character, no `%` and no name behind it without its end, no `$` without what follows it and no `${`
without its brace. -/
def SelfContained (sw : Switches) (a : Text) : Prop :=
  ∀ ask r p, pass sw ask (.outside,{}) a = .ok (r,p) → r = .outside

/-- A context in which every name stands for the empty text. -/
def blank : Text → Reply := fun _ => .value (.text [])

lemma answers_blank : Answers (.steady blank) := by
  intro asked k f
  simp [Lookup.steady,blank]

/-- Any context without failures shows whether a template is self-contained. -/
lemma selfContained_iff {sw : Switches} {ask : Lookup} (h : Answers ask) (a : Text) :
    SelfContained sw a ↔ ∃ p, pass sw ask (.outside,{}) a = .ok (.outside,p) := by
  obtain ⟨⟨r,p⟩,hp⟩ := pass_total h sw (.outside,{}) a
  constructor
  · intro hs
    have hr : r = .outside := hs ask r p hp
    exact ⟨p,hr ▸ hp⟩
  · rintro ⟨q,hq⟩ ask' r' p' hp'
    exact pass_reading hp' hq

instance (sw : Switches) (a : Text) : Decidable (SelfContained sw a) :=
  decidable_of_iff
    (((pass sw (.steady blank) (.outside,{}) a).map Prod.fst).toOption = some .outside) (by
      rw [selfContained_iff answers_blank]
      obtain ⟨⟨r,p⟩,hp⟩ := pass_total answers_blank sw (.outside,{}) a
      simp [hp,Except.map,Except.toOption])

/-- A backslash takes the brace away from the expression. -/
example : SelfContained {} ['$','{','a','}'] ∧ ¬ SelfContained {} ['$','{','a','\\','}'] := by
  decide

/-- What has been done before does not change what is done outside of everything. -/
lemma resume_outside_eq (sw : Switches) (ask : Lookup) (p : Progress) (t : Text) :
    resume sw ask (.outside,p) t =
      (expandWith sw (ask.after p.asked) t).after p.asked p.unresolved p.written.toList := by
  rw [resume_eq_fill,expandWith_eq_fill]

lemma expandWith_append (sw : Switches) (ask : Lookup) (a b : Text) :
    expandWith sw ask (a ++ b) = proceed sw ask (pass sw ask (.outside,{}) a) b :=
  resume_append sw ask _ a b

lemma expandWith_total {ask : Lookup} (h : Answers ask) (sw : Switches) (t : Text) :
    ∃ x, (expandWith sw ask t).outcome = .ok x := by
  obtain ⟨⟨r,p⟩,hp⟩ := pass_total h sw (.outside,{}) t
  refine ⟨(p.write r.cut).written.toList,?_⟩
  rw [expandWith,resume,hp]
  rfl

/-- Behind a self-contained template the context goes on where that template has left it. -/
theorem SelfContained.append {sw : Switches} {a : Text} (h : SelfContained sw a) (b : Text)
    (ask : Lookup) {e : Expansion} (he : expandWith sw ask a = e) :
    (∀ x, e.outcome = .ok x → expandWith sw ask (a ++ b) =
      (expandWith sw (ask.after e.asked) b).after e.asked e.unresolved x) ∧
    (∀ f, e.outcome = .error f → expandWith sw ask (a ++ b) = e) := by
  subst he
  rw [expandWith_append]
  unfold expandWith resume
  cases hp : pass sw ask (.outside,{}) a with
  | error e =>
    obtain ⟨f,hf⟩ := pass_error hp
    refine ⟨fun x hx => ?_,fun _ _ => rfl⟩
    rw [hf] at hx
    cases hx
  | ok s =>
    obtain ⟨r,p⟩ := s
    obtain rfl := h ask r p hp
    refine ⟨fun x hx => ?_,fun f hf => by cases hf⟩
    simp only [Reading.cut,Progress.write_nil,Progress.finish,Except.ok.injEq] at hx ⊢
    rw [proceed_ok,resume_outside_eq,hx]
    rfl

/-- A continuation that ends what a pass is in the middle of. A backslash may take the first brace. -/
def ending : Reading → Text
  | .outside => []
  | .backslash => ['$']
  | .percent _ => ['%']
  | .dollar => ['{','}']
  | .braced _ _ => ['}','}']
  | .fallback _ _ _ _ => ['}','}']

lemma close_blank (s : Slot) (p : Progress) :
    close (.steady blank) s p = .ok (.outside,{ p with asked := p.asked ++ [s.key] }) := by
  simp [close,Progress.fill,Lookup.steady,blank,Value.shown,Except.map]

/-- A pass that ends outside of everything gives out what it has written. -/
lemma resume_done (sw : Switches) (ask : Lookup) (p : Progress) :
    (resume sw ask (.outside,p) []).outcome = .ok p.written.toList := by
  simp [resume_nil,Reading.cut,Progress.finish]

/-- A closing brace outside of everything is copied. -/
lemma resume_brace (sw : Switches) (ask : Lookup) (p : Progress) :
    (resume sw ask (.outside,p) ['}']).outcome = .ok (p.written.toList ++ (['}'] : Text)) := by
  rw [resume_cons]
  simp [step,readOutside,resume_done]

/-- What is ended so adds one character at most. -/
lemma resume_ending (sw : Switches) (r : Reading) (p : Progress) :
    ∃ x, (resume sw (.steady blank) (r,p) (ending r)).outcome = .ok (p.written.toList ++ x) ∧
      x.length ≤ 1 := by
  cases r with
  | outside => exact ⟨[],by simp [ending,resume_done]⟩
  | backslash => exact ⟨['$'],by simp [ending,resume_cons,step,resume_done]⟩
  | percent name =>
    by_cases hn : name = []
    · exact ⟨['%'],by simp [ending,resume_cons,step,hn,resume_done]⟩
    · exact ⟨[],by simp [ending,resume_cons,step,hn,close_blank,resume_done]⟩
  | dollar => exact ⟨[],by simp [ending,resume_cons,step,close_blank,resume_done]⟩
  | braced name escaped =>
    unfold ending
    rw [resume_cons]
    cases escaped with
    | true => exact ⟨[],by simp [resume_cons,step,close_blank,resume_done]⟩
    | false => exact ⟨['}'],by simp [step,close_blank,resume_brace]⟩
  | fallback name value source escaped =>
    unfold ending
    rw [resume_cons]
    cases escaped with
    | true => exact ⟨[],by simp [resume_cons,step,close_blank,resume_done]⟩
    | false => exact ⟨['}'],by simp [step,close_blank,resume_brace]⟩

/-- Read by itself, an ending is copied. -/
lemma expand_ending (sw : Switches) (r : Reading) :
    (expand sw blank (ending r)).outcome = .ok (ending r) := by
  obtain ⟨sh,defaults,dos⟩ := sw
  cases r <;> cases sh <;> cases dos <;> rfl

lemma one_le_length_cut {r : Reading} (h : r ≠ .outside) : 1 ≤ r.cut.length := by
  cases r with
  | outside => exact absurd rfl h
  | _ => simp [Reading.cut]

lemma one_le_length_ending {r : Reading} (h : r ≠ .outside) : 1 ≤ (ending r).length := by
  cases r with
  | outside => exact absurd rfl h
  | _ => simp [ending]

/-- A template that goes with every continuation is self-contained: the blank context and the ending of
what is left open would show the difference. -/
theorem selfContained_of_append {sw : Switches} {a : Text}
    (h : ∀ (b : Text) (ask : Text → Reply), (∀ k f, ask k ≠ .failure f) →
      ∃ x y, (expand sw ask a).outcome = .ok x ∧ (expand sw ask b).outcome = .ok y ∧
        (expand sw ask (a ++ b)).outcome = .ok (x ++ y)) : SelfContained sw a := by
  obtain ⟨⟨r,q⟩,hq⟩ := pass_total answers_blank sw (.outside,{}) a
  rw [selfContained_iff answers_blank]
  by_contra hopen
  have hr : r ≠ .outside := by
    rintro rfl
    exact hopen ⟨q,hq⟩
  obtain ⟨x,y,hx,hy,hxy⟩ := h (ending r) blank fun k f => by simp [blank]
  obtain ⟨z,hz,hlen⟩ := resume_ending sw r q
  have hx' : x = q.written.toList ++ r.cut := by
    simpa [expand,expandWith,resume,hq,Progress.finish] using hx.symm
  have hy' : y = ending r := by simpa [expand_ending] using hy.symm
  have hz' : x ++ y = q.written.toList ++ z := by
    rw [expand,expandWith_append,hq,proceed_ok,hz] at hxy
    simpa using hxy.symm
  -- what was cut off and the ending are two characters at least, and only one of them comes out
  have hl := congrArg List.length hz'
  rw [hx',hy'] at hl
  simp only [List.length_append] at hl
  have hc := one_le_length_cut hr
  have he := one_le_length_ending hr
  omega

/-- Exactly the self-contained templates go with every continuation under every context without
failures. Under any context, one that remembers what it was asked or fails included, such a template is
expanded first and then what follows it, with the keys and the log of the one before those of the other
and with the first failure of the two. -/
theorem selfContained_iff_append (sw : Switches) (a : Text) :
    (SelfContained sw a ↔
      ∀ (b : Text) (ask : Text → Reply), (∀ k f, ask k ≠ .failure f) →
        ∃ x y, (expand sw ask a).outcome = .ok x ∧ (expand sw ask b).outcome = .ok y ∧
          (expand sw ask (a ++ b)).outcome = .ok (x ++ y)) ∧
    (SelfContained sw a → ∀ (b : Text) (ask : Lookup),
      let first := expandWith sw ask a
      let second := expandWith sw (ask.after first.asked) b
      let both := expandWith sw ask (a ++ b)
      (∀ x, first.outcome = .ok x →
        both.asked = first.asked ++ second.asked ∧
        both.notices = first.notices ++ second.notices ∧
        both.outcome = second.outcome.map (x ++ ·)) ∧
      ∀ f, first.outcome = .error f → both = first) := by
  constructor
  · constructor
    · intro h b ask hask
      have ha : Answers (.steady ask) := fun _ k f => hask k f
      obtain ⟨x,hx⟩ := expandWith_total ha sw a
      obtain ⟨y,hy⟩ := expandWith_total ha sw b
      have hab := (h.append b _ rfl).1 x hx
      refine ⟨x,y,hx,hy,?_⟩
      rw [expand,hab,Lookup.steady_after]
      simp [Expansion.after,hy,Except.map]
    · exact selfContained_of_append
  · intro h b ask
    obtain ⟨hok,herr⟩ := h.append b ask rfl
    refine ⟨?_,herr⟩
    intro x hx
    simp only [hok x hx]
    exact ⟨rfl,List.map_append,rfl⟩

/-- A context that tells what it was asked goes on with it in the second template. -/
theorem second_goes_on :
    let ask : Lookup := fun asked key => .value (.text (asked ++ [key]).flatten)
    let both := expandWith {} ask ['%','a','%','$','{','b','}']
    SelfContained {} ['%','a','%'] ∧
    (expandWith {} ask ['%','a','%']).outcome = .ok ['a'] ∧
    both.asked = [(['a'] : Text),['b']] ∧ both.notices = [] ∧ both.outcome = .ok ['a','a','b'] := by
  intro ask both
  have ha : SelfContained {} ['%','a','%'] := by decide
  have hx : (expandWith {} ask ['%','a','%']).outcome = .ok ['a'] := rfl
  obtain ⟨hasked,hnotices,hout⟩ :=
    ((selfContained_iff_append {} ['%','a','%']).2 ha ['$','{','b','}'] ask).1 ['a'] hx
  exact ⟨ha,hx,hasked,hnotices,hout⟩

end ShellTemplate.Template
