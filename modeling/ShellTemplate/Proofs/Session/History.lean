import Mathlib.Data.List.Basic
import Mathlib.Data.List.Induction
import Mathlib.Tactic.Lemma
import ShellTemplate.Proofs.Context.Settled
import ShellTemplate.Session

/-! What stands after a run of a session. A step replaces a part of the state or leaves it alone, so that
each part is what was put there last. -/
namespace ShellTemplate

section
variable {α β : Type} {gives : List β → β → Option α} {first x y : α} {xs : List β} {a : β}

/-- No step puts anything there. What a step puts depends on the steps before it, too. -/
def Silent (gives : List β → β → Option α) (steps : List β) : Prop :=
  ∀ us b vs, steps = us ++ b :: vs → gives us b = none

/-- In a split of a longer sequence the last step is the one in the middle, or it is behind that one. -/
lemma split_snoc {us vs : List β} {b : β} (h : xs ++ [a] = us ++ b :: vs) :
    (us = xs ∧ b = a ∧ vs = []) ∨ ∃ ws, vs = ws ++ [a] ∧ xs = us ++ b :: ws := by
  obtain rfl | ⟨ws,c,rfl⟩ := vs.eq_nil_or_concat'
  · obtain ⟨hx,ha⟩ := List.append_inj' h rfl
    exact .inl ⟨hx.symm,by simpa using ha.symm,rfl⟩
  · rw [← List.cons_append,← List.append_assoc] at h
    obtain ⟨hx,ha⟩ := List.append_inj' h rfl
    exact .inr ⟨ws,by rw [ha],hx⟩

lemma silent_snoc : Silent gives (xs ++ [a]) ↔ Silent gives xs ∧ gives xs a = none := by
  constructor
  · intro h
    exact ⟨fun us b vs he => h us b (vs ++ [a]) (by simp [he]),h xs a [] rfl⟩
  · rintro ⟨h,ha⟩ us b vs he
    obtain ⟨rfl,rfl,-⟩ | ⟨ws,-,hx⟩ := split_snoc he
    · exact ha
    · exact h us b ws hx

/-- What stands after some steps: what was put there last, or else what stood there at first. -/
inductive Standing (gives : List β → β → Option α) (first : α) : List β → α → Prop
  | first {steps : List β} : Silent gives steps → Standing gives first steps first
  | given {xs ys : List β} {a : β} {x : α} : gives xs a = some x →
    Silent (fun us => gives (xs ++ a :: us)) ys → Standing gives first (xs ++ a :: ys) x

lemma standing_nil_iff : Standing gives first [] x ↔ first = x := by
  constructor
  · intro h
    generalize hs : [] = steps at h
    cases h with
    | first => rfl
    | given => simp at hs
  · rintro rfl
    exact .first fun us b vs h => by simp at h

/-- What stands has been put there by the last step, or it stood before one that puts nothing there. -/
lemma standing_snoc_iff : Standing gives first (xs ++ [a]) x ↔
    gives xs a = some x ∨ gives xs a = none ∧ Standing gives first xs x := by
  constructor
  · intro h
    generalize hs : xs ++ [a] = steps at h
    cases h with
    | first hsilent =>
      obtain ⟨hxs,ha⟩ := silent_snoc.1 (hs ▸ hsilent)
      exact .inr ⟨ha,.first hxs⟩
    | given hx hsilent =>
      obtain ⟨rfl,rfl,-⟩ | ⟨ws,rfl,rfl⟩ := split_snoc hs
      · exact .inl hx
      · obtain ⟨hws,ha⟩ := silent_snoc.1 hsilent
        exact .inr ⟨ha,.given hx hws⟩
  · rintro (hx | ⟨ha,h⟩)
    · exact .given hx fun us b vs h => by simp at h
    · cases h with
      | first hxs => exact .first (silent_snoc.2 ⟨hxs,ha⟩)
      | given hx hws =>
        rw [List.append_assoc,List.cons_append]
        exact .given hx (silent_snoc.2 ⟨hws,ha⟩)

end

namespace Step

/-- What a step leaves under a key of the shared table, where it touches the key. -/
@[simp] def leftInTable (key : Text) : Step → Option (Option Value)
  | .set k v => if k = key then some v else none
  | .delete k => if k = key then some none else none
  | _ => none

/-- What a step leaves in a variable, where it touches the variable and names can be encoded so. -/
@[simp] def leftInEnvironment (names : Text.Codec) (name : Text) : Step → Option (Option Text)
  | .setVariable n v =>
    if n = name ∧ VariableFault.of? names n v = none then some (some v) else none
  | .unsetVariable n => if n = name ∧ names.fault? n = none then some none else none
  | _ => none

/-- The switches that a step puts into the engine, in an environment. -/
@[simp] def leftInEngine (start : Settings) (environment : Bindings Text) : Step → Option Switches
  | .engine r => (r.resolve environment start).toOption
  | _ => none

/-- The binding that a step makes, of an engine with these switches. -/
@[simp] def leftBound (sw : Switches) : Step → Option Bound
  | .bind p => p.context.toOption.map fun c => ⟨sw,c⟩
  | _ => none

/-- A step that looks values up and puts nothing anywhere. -/
inductive Looks : Step → Prop
  | get (key : Text) : Looks (.get key)
  | render (t : Text) : Looks (.render t)
  | fold (t : Text) (times : Nat) : Looks (.fold t times)

end Step

namespace Session
variable {s s' : Session} {a : Step}

lemma step_looks (h : a.Looks) (s : Session) : (s.step a).1 = s := by
  cases h <;> simp only [step] <;> split <;> rfl

lemma getD_if {α : Type} (c : Prop) [Decidable c] (x y : α) :
    (if c then some x else none).getD y = if c then x else y := by
  split <;> rfl

/-- All that a step does to the state. -/
theorem step_changes (s : Session) (a : Step) :
    let s' := (s.step a).1
    s'.start = s.start ∧ s'.store.names = s.store.names ∧
    (∀ key, s'.store.shared.get? key = (a.leftInTable key).getD (s.store.shared.get? key)) ∧
    (∀ name, s'.store.environment.get? name =
      (a.leftInEnvironment s.store.names name).getD (s.store.environment.get? name)) ∧
    s'.switches = (a.leftInEngine s.start s.store.environment).getD s.switches ∧
    s'.bound = (a.leftBound s.switches).getD s.bound := by
  cases a with
  | set key v => cases v <;> simp [step,getD_if]
  | delete key => simp [step,getD_if]
  | setVariable name v => cases h : VariableFault.of? s.store.names name v <;> simp [step,h,getD_if]
  | unsetVariable name => cases h : s.store.names.fault? name <;> simp [step,h,getD_if]
  | engine r => cases h : r.resolve s.store.environment s.start <;> simp [step,h,Except.toOption]
  | bind p => cases h : p.context <;> simp [step,h,Except.toOption]
  | get key => simp [step_looks (.get key) s]
  | render t => simp [step_looks (.render t) s]
  | fold t times => simp [step_looks (.fold t times) s]

/-- A step that fails changes nothing. -/
theorem step_failed {f : StepFault} (h : (s.step a).2.result = .error f) : (s.step a).1 = s := by
  cases a with
  | set key v => cases v <;> cases h
  | delete => cases h
  | setVariable name v => cases hv : VariableFault.of? s.store.names name v <;> simp_all [step]
  | unsetVariable name => cases hv : s.store.names.fault? name <;> simp_all [step]
  | engine r => cases hr : r.resolve s.store.environment s.start <;> simp_all [step]
  | bind p => cases hp : p.context <;> simp_all [step]
  | get key => exact step_looks (.get key) s
  | render t => exact step_looks (.render t) s
  | fold t times => exact step_looks (.fold t times) s

/-- The session after some steps. -/
def after (s : Session) (steps : List Step) : Session := (s.steps steps).1

lemma steps_cons (s : Session) (a : Step) (steps : List Step) :
    s.steps (a :: steps) =
      (((s.step a).1.steps steps).1,(s.step a).2 :: ((s.step a).1.steps steps).2) := rfl

lemma steps_append (s : Session) (xs ys : List Step) :
    s.steps (xs ++ ys) = ((s.after xs).after ys,(s.steps xs).2 ++ ((s.after xs).steps ys).2) := by
  induction xs generalizing s with
  | nil => rfl
  | cons a xs ih =>
    rw [List.cons_append,steps_cons,ih]
    rfl

lemma length_steps (s : Session) (xs : List Step) : (s.steps xs).2.length = xs.length := by
  induction xs generalizing s with
  | nil => rfl
  | cons a xs ih => rw [steps_cons,List.length_cons,List.length_cons,ih]

@[simp] lemma after_nil (s : Session) : s.after [] = s := rfl

@[simp] lemma after_cons (s : Session) (a : Step) (xs : List Step) :
    s.after (a :: xs) = (s.step a).1.after xs := rfl

lemma after_append (s : Session) (xs ys : List Step) : s.after (xs ++ ys) = (s.after xs).after ys := by
  rw [after,steps_append]

/-- What a run gives before one of its steps, at it and behind it. -/
lemma steps_around (s : Session) (before : List Step) (a : Step) (rest : List Step) :
    let o := (s.after before).step a
    (s.steps (before ++ a :: rest)).2 = (s.steps before).2 ++ o.2 :: (o.1.steps rest).2 := by
  rw [steps_append,steps_cons]

/-- The outcome of the step in the midst of a run. -/
lemma outcome_at (s : Session) (before : List Step) (a : Step) (rest : List Step) :
    (s.steps (before ++ a :: rest)).2[before.length]? = some ((s.after before).step a).2 := by
  rw [steps_around,← length_steps s before]
  simp

/-- A part of the state that every step replaces by what it gives, or leaves alone, is what stands. -/
theorem standing_iff {α : Type} {f : Session → α} {gives : List Step → Step → Option α} {x : α}
    (hstep : ∀ xs a, f ((s.after xs).step a).1 = (gives xs a).getD (f (s.after xs)))
    (xs : List Step) : Standing gives (f s) xs x ↔ f (s.after xs) = x := by
  induction xs using List.reverseRecOn generalizing x with
  | nil => exact standing_nil_iff
  | append_singleton xs a ih =>
    rw [standing_snoc_iff,ih,after_append,after_cons,after_nil,hstep]
    cases gives xs a <;> simp

lemma start_after (s : Session) (xs : List Step) : (s.after xs).start = s.start := by
  induction xs using List.reverseRecOn with
  | nil => rfl
  | append_singleton xs a ih => rw [after_append,after_cons,after_nil,(step_changes _ a).1,ih]

lemma names_after (s : Session) (xs : List Step) : (s.after xs).store.names = s.store.names := by
  induction xs using List.reverseRecOn with
  | nil => rfl
  | append_singleton xs a ih => rw [after_append,after_cons,after_nil,(step_changes _ a).2.1,ih]

/-- The entries of the tables are those set last and not taken out since; names are encoded as ever. -/
structure Contents (s : Session) (steps : List Step) (now : Store) : Prop where
  table (key : Text) : Standing (fun _ => Step.leftInTable key) (s.store.shared.get? key) steps
    (now.shared.get? key)
  environment (name : Text) : Standing (fun _ => Step.leftInEnvironment s.store.names name)
    (s.store.environment.get? name) steps (now.environment.get? name)
  names : now.names = s.store.names

/-- The switches of the engine are those of the last request that was granted where it stood. -/
def EngineAfter (s : Session) : List Step → Switches → Prop :=
  Standing (fun xs => Step.leftInEngine s.start (s.after xs).store.environment) s.switches

/-- The binding is that of the last plan that could be carried out, with the switches that the engine had
there. -/
def BoundAfter (s : Session) : List Step → Bound → Prop :=
  Standing (fun xs => Step.leftBound (s.after xs).switches) s.bound

section
variable {steps : List Step}

lemma contents_iff {now : Store} : s.Contents steps now ↔ now.Same (s.after steps).store := by
  have htable (key : Text) := standing_iff (s := s) (f := fun s => s.store.shared.get? key)
    (x := now.shared.get? key) (fun xs a => (step_changes (s.after xs) a).2.2.1 key) steps
  have henvironment (name : Text) := standing_iff (s := s) (f := fun s => s.store.environment.get? name)
    (x := now.environment.get? name)
    (fun xs a => by rw [(step_changes (s.after xs) a).2.2.2.1 name,names_after]) steps
  constructor
  · rintro ⟨ht,he,hn⟩
    exact ⟨fun name => ((henvironment name).1 (he name)).symm,
      fun key => ((htable key).1 (ht key)).symm,hn.trans (names_after s steps).symm⟩
  · rintro ⟨he,ht,hn⟩
    exact ⟨fun key => (htable key).2 (ht key).symm,fun name => (henvironment name).2 (he name).symm,
      hn.trans (names_after s steps)⟩

lemma engineAfter_iff {sw : Switches} : s.EngineAfter steps sw ↔ (s.after steps).switches = sw := by
  refine standing_iff (f := Session.switches) (fun xs a => ?_) steps
  rw [(step_changes (s.after xs) a).2.2.2.2.1,start_after]

lemma boundAfter_iff {b : Bound} : s.BoundAfter steps b ↔ (s.after steps).bound = b :=
  standing_iff (f := Session.bound) (fun xs a => (step_changes (s.after xs) a).2.2.2.2.2) steps

end

end Session
end ShellTemplate
