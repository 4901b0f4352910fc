import ShellTemplate.Proofs.Session.History

/-! Renderings in the midst of a session. A rendering takes the switches from the moment of the binding and
the values from its own moment, and it leaves the session as it was. -/
namespace ShellTemplate

/-- The outcome of a step that gives this or fails. -/
def StepOutcome.of {α : Type} (give : α → StepResult) (r : Except Failure α) (notices : List Notice) :
    StepOutcome :=
  ⟨(r.map give).mapError .failure,notices⟩

/-- Renderings of a text and then of what came of it, over and over: as many texts as are wanted, each of
the one before it, or a failure after fewer. -/
structure Repeated (fresh : Text → Expansion) (t : Text) (times : Nat) (outs : List Text)
    (r : Except Failure (List Text)) (notices : List Notice) : Prop where
  successive : List.IsChain (fun u v => (fresh u).outcome = .ok v) (t :: outs)
  result : r = .ok outs ∧ outs.length = times ∨ ∃ f, r = .error f ∧ outs.length < times ∧
    (fresh (outs.getLastD t)).outcome = .error f
  notices_eq : notices = ((t :: outs).take times).flatMap fun u => (fresh u).notices

namespace Session
variable {s s' : Session} {a : Step}

lemma step_render (s : Session) (t : Text) : (s.step (.render t)).2 =
    .of .out (s.bound.expand s.store t).outcome (s.bound.expand s.store t).notices := by
  simp only [step]
  split <;> rename_i h <;> rw [h] <;> rfl

lemma step_fold (s : Session) (t : Text) (times : Nat) : (s.step (.fold t times)).2 =
    .of .outs (renderAgain s.store s.bound times t).1 (renderAgain s.store s.bound times t).2 := by
  simp only [step]
  split <;> rename_i h <;> rw [h] <;> rfl

lemma repeated_renderAgain (st : Store) (b : Bound) (times : Nat) (t : Text) :
    ∃ outs, Repeated (b.expand st) t times outs (renderAgain st b times t).1
      (renderAgain st b times t).2 := by
  induction times generalizing t with
  | zero => exact ⟨[],.singleton _,.inl ⟨rfl,rfl⟩,rfl⟩
  | succ n ih =>
    cases h : (b.expand st t).outcome with
    | error f => exact ⟨[],.singleton _,.inr ⟨f,by simp [renderAgain,h]⟩,by simp [renderAgain,h]⟩
    | ok out =>
      obtain ⟨outs,hchain,hr,hn⟩ := ih out
      refine ⟨out :: outs,.cons_cons h hchain,?_,by simp [renderAgain,h,hn]⟩
      obtain ⟨hr,hl⟩ | ⟨f,hr,hl,hf⟩ := hr
      · exact .inl ⟨by simp [renderAgain,h,hr,Except.map],by simp [hl]⟩
      · exact .inr ⟨f,by simp [renderAgain,h,hr,Except.map],by simp [hl],by rwa [List.getLastD_cons]⟩

/-- What is bound and what the tables hold decide what comes of a look. -/
lemma look_same (ha : a.Looks) (hb : s.bound = s'.bound) (hst : s.store.Same s'.store) :
    (s.step a).2 = (s'.step a).2 := by
  have hask : s.bound.context.ask s.store = s'.bound.context.ask s'.store := by
    rw [hb,Context.ask_same hst]
  have hexpand : s.bound.expand s.store = s'.bound.expand s'.store := by
    funext t
    rw [Bound.expand,Bound.expand,hask,hb]
  cases ha with
  | get key =>
    simp only [step,hask]
    split <;> rfl
  | render t => rw [step_render,step_render,hexpand]
  | fold t times =>
    have hagain : renderAgain s.store s.bound times t = renderAgain s'.store s'.bound times t := by
      induction times generalizing t with
      | zero => rfl
      | succ n ih => simp only [renderAgain,hexpand,ih]
    rw [step_fold,step_fold,hagain]

/-- The same holds on both sides after a step that binds nothing. -/
lemma step_same (ha : ∀ sw, a.leftBound sw = none) (hb : s.bound = s'.bound)
    (hst : s.store.Same s'.store) :
    (s.step a).1.bound = (s'.step a).1.bound ∧ (s.step a).1.store.Same (s'.step a).1.store := by
  obtain ⟨-,hn,ht,he,-,hs⟩ := step_changes s a
  obtain ⟨-,hn',ht',he',-,hs'⟩ := step_changes s' a
  refine ⟨?_,fun name => ?_,fun key => ?_,?_⟩
  · rw [hs,hs',ha,ha,hb]
  · rw [he,he',hst.environment,hst.names]
  · rw [ht,ht',hst.shared]
  · rw [hn,hn',hst.names]

/-- Sessions that differ in the switches of the engine differ in nothing else until something is bound. -/
lemma after_same {steps : List Step} (h : ∀ p, .bind p ∈ steps → ∀ c, p.context ≠ .ok c)
    (hb : s.bound = s'.bound) (hst : s.store.Same s'.store) :
    (s.after steps).bound = (s'.after steps).bound ∧
      (s.after steps).store.Same (s'.after steps).store := by
  induction steps generalizing s s' with
  | nil => exact ⟨hb,hst⟩
  | cons a steps ih =>
    have ha : ∀ sw, a.leftBound sw = none := by
      intro sw
      cases a with
      | bind p =>
        cases hp : p.context with
        | ok c => exact absurd hp (h p List.mem_cons_self c)
        | error f => simp [hp,Except.toOption]
      | _ => rfl
    obtain ⟨hb,hst⟩ := step_same ha hb hst
    exact ih (fun p hp => h p (List.mem_cons_of_mem a hp)) hb hst

lemma step_engine (s : Session) (r : SwitchRequest) :
    s.bound = (s.step (.engine r)).1.bound ∧ s.store.Same (s.step (.engine r)).1.store := by
  obtain ⟨-,hn,ht,he,-,hs⟩ := step_changes s (.engine r)
  exact ⟨hs.symm,fun name => (he name).symm,fun key => (ht key).symm,hn.symm⟩

/-- A step that leaves the state alone can be left out of a run. -/
lemma steps_without {before : List Step} (h : ((s.after before).step a).1 = s.after before)
    (rest : List Step) :
    s.after (before ++ a :: rest) = s.after (before ++ rest) ∧
      (s.steps (before ++ a :: rest)).2.eraseIdx before.length = (s.steps (before ++ rest)).2 := by
  constructor
  · rw [after_append,after_append,after_cons,h]
  · rw [steps_around,h,steps_append,← length_steps s before]
    simp [List.eraseIdx_append_of_length_le]

/-- From every session and after all steps, a rendering through what is bound is one with the switches that
the engine had when the last binding was made, from the context bound there with the entries of the tables
that were set last and not taken out since; no other state has a say in it. Repeated renderings are such
ones one after the other. Requests for other switches make no difference to a look before the next
binding. And a step that fails, or looks, leaves everything as it was, and could be left out. -/
theorem bound_rendering (s : Session) (before rest : List Step) :
    (s.BoundAfter before (s.after before).bound ∧ s.EngineAfter before (s.after before).switches ∧
      s.Contents before (s.after before).store) ∧
    (∀ b now, s.BoundAfter before b → s.Contents before now → ∀ other,
      let fresh := Template.expand b.switches ((b.context.settled now).ask other)
      (∀ t, (s.steps (before ++ .render t :: rest)).2[before.length]? =
        some (.of .out (fresh t).outcome (fresh t).notices)) ∧
      ∀ t times, ∃ outs r notices, Repeated fresh t times outs r notices ∧
        (s.steps (before ++ .fold t times :: rest)).2[before.length]? = some (.of .outs r notices)) ∧
    (∀ r more a, (∀ p, .bind p ∈ more → ∀ c, p.context ≠ .ok c) → a.Looks →
      (s.steps (before ++ .engine r :: more ++ a :: rest)).2[(before ++ .engine r :: more).length]? =
        (s.steps (before ++ more ++ a :: rest)).2[(before ++ more).length]?) ∧
    (∀ a o, (s.steps (before ++ a :: rest)).2[before.length]? = some o →
      (∃ f, o.result = .error f) ∨ a.Looks →
      s.after (before ++ [a]) = s.after before ∧
      s.after (before ++ a :: rest) = s.after (before ++ rest) ∧
      (s.steps (before ++ a :: rest)).2.eraseIdx before.length = (s.steps (before ++ rest)).2) := by
  refine ⟨⟨boundAfter_iff.2 rfl,engineAfter_iff.2 rfl,contents_iff.2 (.refl _)⟩,?_,?_,?_⟩
  · intro b now hb hnow other fresh
    have hexpand : fresh = (s.after before).bound.expand (s.after before).store := by
      funext t
      have hask := funext (Context.ask_settled (contents_iff.1 hnow) other b.context)
      simp only [fresh,Bound.expand,boundAfter_iff.1 hb,hask]
    rw [hexpand]
    constructor
    · intro t
      rw [outcome_at,step_render]
    · intro t times
      obtain ⟨outs,h⟩ := repeated_renderAgain (s.after before).store (s.after before).bound times t
      exact ⟨outs,_,_,h,by rw [outcome_at,step_fold]⟩
  · intro r more a hmore ha
    obtain ⟨hb,hst⟩ := step_engine (s.after before) r
    obtain ⟨hb,hst⟩ := after_same hmore hb hst
    rw [outcome_at,outcome_at,after_append,after_append,after_cons]
    exact congrArg some (look_same ha hb hst).symm
  · intro a o ho h
    rw [outcome_at] at ho
    cases ho
    have hsame : ((s.after before).step a).1 = s.after before := by
      obtain ⟨f,hf⟩ | ha := h
      · exact step_failed hf
      · exact step_looks ha _
    exact ⟨by rw [after_append,after_cons,after_nil,hsame],steps_without hsame rest⟩

/-- An engine without names between two `%` is bound to two contexts over the shared table, one of them with
the environment beside it; then the engine admits them again, an entry and a variable get new values, and a
number cannot be bound. -/
theorem rendering_after_changes :
    let s := opening {} (.ofList [(['H'],['y'])]) (.ofList [(['a'],.text ['x'])])
    let shared : Plan := .offer (.context (.source .shared))
    let made := [.engine (.given (.ofList [("dosEnable".toText,.bool false)])),
      .bind (.chain [shared,.routed shared none])]
    let changed := [.set ['a'] (some (.text ['z'])),.setVariable ['H'] ['w']]
    let number : Step := .bind (.offer (.other .int))
    let t := "$\x7ba\x7d$\x7benv.H\x7d%a%".toText
    let b : Bound :=
      ⟨{ dos := false },.chain [.source .shared,.routed (.source .shared) .systemEnvironment]⟩
    let now : Store := { environment := .ofList [(['H'],['w'])], shared := .ofList [(['a'],.text ['z'])] }
    s.BoundAfter (made ++ changed) b ∧ s.Contents (made ++ changed) now ∧
    (s.steps (made ++ changed ++ [.render t])).2[4]? = some ⟨.ok (.out "zw%a%".toText),[]⟩ ∧
    (s.steps (made ++ .engine .shared :: changed ++ [.render t])).2[5]? =
      (s.steps (made ++ changed ++ [.render t])).2[4]? ∧
    s.after (made ++ changed ++ [number]) = s.after (made ++ changed) := by
  intro s shared made changed number t b now
  have hb : s.BoundAfter (made ++ changed) b := boundAfter_iff.2 rfl
  have hnow : s.Contents (made ++ changed) now := contents_iff.2 ⟨fun _ => rfl,fun _ => rfl,rfl⟩
  obtain ⟨-,hrender,-,hidle⟩ := bound_rendering s (made ++ changed) []
  obtain ⟨-,-,hengine,-⟩ := bound_rendering s made []
  have hexpand : Template.expand b.switches ((b.context.settled now).ask s.store) t =
      ⟨["a".toText,"env.H".toText],[],.ok "zw%a%".toText⟩ := by rfl
  refine ⟨hb,hnow,?_,?_,?_⟩
  · have h := (hrender b now hb hnow s.store).1 t
    rw [hexpand] at h
    exact h
  · exact hengine .shared changed (.render t) (by simp [changed]) (.render t)
  · exact (hidle number _ (outcome_at s _ _ _) (.inl ⟨_,rfl⟩)).1

end Session
end ShellTemplate
