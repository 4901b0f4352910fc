import ShellTemplate.Proofs.Command.Running

/-! Requests that are alike but for the template. Where it comes from is settled by one option, which no
other looks at, so their runs differ no more than the texts they find. -/
namespace ShellTemplate.Command

namespace Request

/-- The request without its template. -/
def untemplated (r : Request) : Request := { r with template := none, file := none }

/-- Two requests that differ at most in where their templates are. -/
def Like (r q : Request) : Prop := r.untemplated = q.untemplated

/-- Both are the same refusal, or both are requests that are alike. -/
inductive Alike : Except Refusal Request → Except Refusal Request → Prop
  | error {e} : Alike (.error e) (.error e)
  | ok {r q} : r.Like q → Alike (.ok r) (.ok q)

lemma Alike.trans {x y z : Except Refusal Request} (h : Alike x y) (h' : Alike y z) : Alike x z := by
  cases h with
  | error => exact h'
  | ok h =>
    cases h' with
    | ok h' => exact .ok (Eq.trans h h')

lemma Alike.bind {x y : Except Refusal Request} {f g : Request → Except Refusal Request}
    (h : Alike x y) (hfg : ∀ r q, r.Like q → Alike (f r) (g q)) : Alike (x.bind f) (y.bind g) := by
  cases h with
  | error => exact .error
  | ok h => exact hfg _ _ h

/-- Alike requests agree in all but the template. -/
lemma Like.eqs {r q : Request} (h : r.Like q) : r.assigned = q.assigned ∧ r.varsFile = q.varsFile ∧
    r.origin = q.origin ∧ r.sh = q.sh ∧ r.defaults = q.defaults ∧ r.dos = q.dos := by
  cases r
  cases q
  cases h
  exact ⟨rfl,rfl,rfl,rfl,rfl,rfl⟩

section
variable {w : World} {files : Files} {input : List UInt8}

/-- Alike requests run alike if they find the same template and the same variables. -/
lemma Like.run_eq {r q : Request} (h : r.Like q) (access : Access)
    (ht : r.templateIn w = q.templateIn { w with files, input })
    (hp : r.properties w = q.properties { w with files, input }) :
    r.run w access = q.run { w with files, input } access := by
  obtain ⟨-,-,horigin,hsh,hdefaults,hdos⟩ := h.eqs
  have hswitches : r.switches w = q.switches { w with files, input } := by
    rw [switches,switches,hsh,hdefaults,hdos]
  cases htemplate : r.templateIn w with
  | error f =>
    rw [run_template htemplate,run_template (ht ▸ htemplate)]
    rfl
  | ok t =>
    cases hproperties : r.properties w with
    | error f =>
      rw [run_properties access htemplate hproperties,
        run_properties access (ht ▸ htemplate) (hp ▸ hproperties)]
      rfl
    | ok x =>
      rw [run_rendered htemplate hproperties,run_rendered (ht ▸ htemplate) (hp ▸ hproperties),
        hswitches,horigin]
      rfl

end

end Request

end ShellTemplate.Command
