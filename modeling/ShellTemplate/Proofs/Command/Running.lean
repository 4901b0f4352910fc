import ShellTemplate.Proofs.Command.Reports
import ShellTemplate.Proofs.Command.Settling
import ShellTemplate.Proofs.Template.Keys

/-! All that the run of a request can come to: it fails on its template, on its variables, on what is
offered as a context or on a lookup, or else it prints the expansion of the template. -/
namespace ShellTemplate.Command

/-- The switches of a request. -/
def Request.switches (w : World) (r : Request) : Switches := w.settings.overlay r.sh r.defaults r.dos

/-- The properties of a request, with the notices of where they come from. -/
def Request.properties (w : World) (r : Request) : Except LoadFault (Bindings Text × List Notice) :=
  Properties.collect w.depth w.files (w.settings.varsPath w.usual) r.varsFile r.assigned.entries

namespace Request.Says
variable {w : World} {a : Arguments} {r : Request} (h : r.Says w.files a)
include h

lemma templateIn_operand {t : Text} (hoperands : a.operands = [t]) : r.templateIn w = .ok t := by
  have ht := h.template.symm.trans hoperands
  rw [templateIn]
  cases hr : r.template <;> simp_all

lemma templateIn_file {path : Text} {bytes : List UInt8} (hoperands : a.operands = [])
    (hlast : (a.values .file).getLast? = some path) (hpath : path ≠ (['-'] : Text))
    (hfound : w.files path = .file bytes) : r.templateIn w = decodeTemplate .universal bytes := by
  have ht := h.template.symm.trans hoperands
  have hfile := h.file
  rw [hlast] at hfile
  obtain ⟨f,hf,hr⟩ := hfile
  rw [openFile,if_neg hpath,hfound] at hf
  cases hf
  have hnone : r.template = none := by cases hr : r.template <;> simp_all
  rw [templateIn,hnone,hr]

lemma templateIn_input (hoperands : a.operands = [])
    (hlast : ∀ path, (a.values .file).getLast? = some path → path = (['-'] : Text)) :
    r.templateIn w = decodeTemplate w.newlines w.input := by
  have ht := h.template.symm.trans hoperands
  have hfile : r.file = none ∨ r.file = some .input := by
    have hfile := h.file
    split at hfile
    · rename_i path hpath
      obtain ⟨f,hf,hr⟩ := hfile
      rw [openFile,if_pos (hlast path hpath)] at hf
      cases hf
      exact .inr hr
    · exact .inl hfile
  have hnone : r.template = none := by cases hr : r.template <;> simp_all
  rw [templateIn,hnone]
  obtain hr | hr := hfile <;> rw [hr]

end Request.Says

namespace Request
variable {w : World} {access : Access} {r : Request} {t : Text} {properties : Bindings Text}
  {ns : List Notice} {ask : Lookup}

lemma run_template {f : Text.Utf8.Fault} (h : r.templateIn w = .error f) :
    r.run w access = .failed w.shown f.message [.notPrepared f.message] := by
  rw [run,h]

lemma run_properties (access : Access) {f : LoadFault} (ht : r.templateIn w = .ok t)
    (hp : r.properties w = .error f) :
    r.run w access = if f.isDepth then .crashed (.tooDeep f.message) []
      else .failed w.shown f.message [.notPrepared f.message] := by
  rw [properties] at hp
  rw [run,ht]
  simp only [hp]

/-- The run once the template and the properties are there. -/
lemma run_rendered (ht : r.templateIn w = .ok t) (hp : r.properties w = .ok (properties,ns)) :
    r.run w access =
      let report := renderWith (r.switches w) (access r.origin properties) t
      match report.1.error with
      | none => .written w report.1.text (ns ++ report.2)
      | some message => .failed w.shown message (ns ++ report.2) := by
  rw [Request.properties] at hp
  rw [run,ht]
  simp only [hp]
  rfl

lemma run_context {f : Failure} (ht : r.templateIn w = .ok t)
    (hp : r.properties w = .ok (properties,ns)) (ha : access r.origin properties = .error f) :
    r.run w access = .failed w.shown f.message (ns ++ [.notExpanded f.message]) := by
  rw [run_rendered ht hp,ha]
  rfl

lemma run_lookup {f : Failure} (ht : r.templateIn w = .ok t)
    (hp : r.properties w = .ok (properties,ns)) (ha : access r.origin properties = .ok ask)
    (ho : (Template.expandWith (r.switches w) ask t).outcome = .error f) :
    r.run w access = .failed w.shown f.message (ns ++ (Template.expandWith (r.switches w) ask t).notices ++
      [.notExpanded f.message]) := by
  rw [run_rendered ht hp,ha,List.append_assoc]
  simp only [renderWith,ho]
  rfl

lemma run_done {text : Text} (ht : r.templateIn w = .ok t)
    (hp : r.properties w = .ok (properties,ns)) (ha : access r.origin properties = .ok ask)
    (ho : (Template.expandWith (r.switches w) ask t).outcome = .ok text) :
    r.run w access =
      .written w text (ns ++ (Template.expandWith (r.switches w) ask t).notices) := by
  rw [run_rendered ht hp,ha]
  simp only [renderWith,ho]

end Request

/-- Why the run of a request fails. -/
inductive Reason
  | template (f : Text.Utf8.Fault)
  | properties (f : LoadFault)
  | context (f : Failure)

namespace Reason

def message : Reason → Text
  | .template f => f.message
  | .properties f => f.message
  | .context f => f.message

/-- What is noted before a reason is reported. -/
def notice : Reason → Notice
  | .template f => .notPrepared f.message
  | .properties f => .notPrepared f.message
  | .context f => .notExpanded f.message

/-- The one reason that goes without a report. -/
def isDepth : Reason → Bool
  | .properties f => f.isDepth
  | _ => false

end Reason

/-- The run of a request fails: its template is not text, its variables cannot be loaded, what is offered
is no context, or the context fails on a key, which is the first of the template's keys that it fails
on. -/
inductive Request.Fails (w : World) (access : Access) (r : Request) : Reason → Prop
  | template {f} : r.templateIn w = .error f → Fails w access r (.template f)
  | properties {t f} : r.templateIn w = .ok t → r.properties w = .error f →
      Fails w access r (.properties f)
  | noContext {t properties ns f} : r.templateIn w = .ok t → r.properties w = .ok (properties,ns) →
      access r.origin properties = .error f → Fails w access r (.context f)
  | lookup {t properties ns ask i f} : r.templateIn w = .ok t → r.properties w = .ok (properties,ns) →
      access r.origin properties = .ok ask →
      (ask.replies (Template.keys (Template.pieces (r.switches w) t)))[i]? = some (.failure f) →
      (∀ reply ∈ (ask.replies (Template.keys (Template.pieces (r.switches w) t))).take i,
        ∀ g, reply ≠ .failure g) → Fails w access r (.context f)

namespace Request
variable {w : World} {access : Access} {r : Request}

/-- A request that fails leaves the notice of its reason last and reports it, unless the reason is that
the variables nest too deeply. -/
lemma Fails.run_eq {reason : Reason} (h : r.Fails w access reason) :
    if reason.isDepth then r.run w access = .crashed (.tooDeep reason.message) []
    else ∃ ns, r.run w access = .failed w.shown reason.message (ns ++ [reason.notice]) := by
  cases h with
  | template ht => exact ⟨[],run_template ht⟩
  | properties ht hp =>
    rename_i t f
    have hrun := run_properties access ht hp
    cases hd : f.isDepth with
    | true =>
      rw [if_pos (show (Reason.properties f).isDepth from hd),hrun,if_pos hd]
      rfl
    | false =>
      rw [if_neg (show ¬ (Reason.properties f).isDepth from Bool.eq_false_iff.1 hd)]
      exact ⟨[],by rw [hrun,if_neg (Bool.eq_false_iff.1 hd)]; rfl⟩
  | noContext ht hp ha => exact ⟨_,run_context ht hp ha⟩
  | lookup ht hp ha hi hfirst =>
    refine ⟨_,run_lookup ht hp ha ?_⟩
    rw [Template.expandWith_eq_fill,Template.fill_of_failure _ _ _ _ hi hfirst]

lemma Fails.exit_eq {reason : Reason} (h : r.Fails w access reason) : (r.run w access).exit = 1 := by
  have hrun := h.run_eq
  split at hrun
  · rw [hrun]
    rfl
  · obtain ⟨ns,hrun⟩ := hrun
    rw [hrun,Outcome.exit_failed]

/-- The template of a request is expanded to a text. -/
def Expands (w : World) (access : Access) (r : Request) (text : Text) : Prop :=
  ∃ t properties ns ask, r.templateIn w = .ok t ∧ r.properties w = .ok (properties,ns) ∧
    access r.origin properties = .ok ask ∧
    (Template.expandWith (r.switches w) ask t).outcome = .ok text

end Request
end ShellTemplate.Command
