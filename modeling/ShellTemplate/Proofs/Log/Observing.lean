import ShellTemplate.Proofs.Command.Running
import ShellTemplate.Proofs.Context.Choice
import ShellTemplate.Proofs.Log.Writing

/-! The log observes and does nothing else. Whatever is done comes to the same in quiet, where nothing is
written, and otherwise each notice is written as it is, braces and all. -/
namespace ShellTemplate

namespace Log

lemma write_plain (quiet : Bool) (message : Text) :
    write quiet message [] = ⟨if quiet then [] else [message],[]⟩ := by
  cases quiet <;> rfl

lemma writeAll_eq (quiet : Bool) (ns : List Notice) :
    writeAll quiet ns = ⟨Notice.logged quiet ns,[]⟩ := by
  induction ns with
  | nil => cases quiet <;> rfl
  | cons n ns ih =>
    rw [writeAll,note,ih,write_plain]
    cases quiet <;> rfl

section
variable {α : Type} (fill : List α → Text → Except Text Text)

/-- Writing to the log, with arguments of any kind and any way to fill them in that may fail. -/
def writeBy (quiet : Bool) (message : Text) (args : List α) : Written :=
  if quiet then ⟨[],[]⟩
  else if args.isEmpty then ⟨[message],[]⟩
  else match fill args message with
    | .ok entry => ⟨[entry],[]⟩
    | .error fault => ⟨[],"Logging error: ".toText ++ fault ++ (['\n'] : Text)⟩

/-- What comes of one message. -/
inductive Comes (message : Text) (args : List α) : Written → Prop
  | plain : args = [] → Comes message args ⟨[message],[]⟩
  | filled {entry} : args ≠ [] → fill args message = .ok entry → Comes message args ⟨[entry],[]⟩
  | failed {fault} : args ≠ [] → fill args message = .error fault →
      Comes message args ⟨[],"Logging error: ".toText ++ fault ++ (['\n'] : Text)⟩

variable {fill} {message : Text} {args : List α}

lemma comes_write : Comes fill message args (writeBy fill false message args) := by
  cases args with
  | nil => exact .plain rfl
  | cons arg args =>
    have hargs : arg :: args ≠ [] := List.cons_ne_nil arg args
    cases hf : fill (arg :: args) message with
    | ok entry =>
      have hw : writeBy fill false message (arg :: args) = ⟨[entry],[]⟩ := by simp [writeBy,hf]
      exact hw ▸ .filled hargs hf
    | error fault =>
      have hw : writeBy fill false message (arg :: args) =
          ⟨[],"Logging error: ".toText ++ fault ++ (['\n'] : Text)⟩ := by simp [writeBy,hf]
      exact hw ▸ .failed hargs hf

lemma Comes.unique {v w : Written} (hv : Comes fill message args v) (hw : Comes fill message args w) :
    v = w := by
  cases hv <;> cases hw <;> simp_all

end

/-- Texts are filled in for placeholders. -/
lemma write_eq (quiet : Bool) (message : Text) (args : List Text) : write quiet message args =
    writeBy (fun args t => (Placeholder.fill args t).mapError Placeholder.Fault.message) quiet message
      args := by
  rw [write,writeBy]
  cases Placeholder.fill args message <;> rfl

end Log

/-- The same settings but for whether they keep quiet. -/
def Settings.inQuiet (s : Settings) (quiet : Bool) : Settings := { s with quiet }

namespace Command

/-- What a run asks its lookups for. -/
def asked (w : World) (access : Access) (args : List Text) : List Text :=
  match Request.read w.files args with
  | .error _ => []
  | .ok r =>
    match r.templateIn w, r.properties w with
    | .ok t, .ok (properties,_) =>
      match access r.origin properties with
      | .ok ask => (Template.expandWith (r.switches w) ask t).asked
      | .error _ => []
    | _, _ => []

end Command

/-- What there is to do. A step of a session, or a run of the command, goes by the settings. -/
inductive Operation
  | expand (sw : Switches) (ask : Lookup) (t : Text)
  | answer (p : Plan) (st : Store) (key : Text)
  | render (sw : Switches) (lookup : Except Failure Lookup) (t : Text)
  | check (d : Datum)
  | load (depth : Nat) (files : Files) (path : Text) (missingOk : Bool)
  | steps (environment : Bindings Text) (items : Bindings Value) (as : List Step)
  | run (w : Command.World) (access : Command.Access) (args : List Text)

/-- What comes of it for others to see, the log apart. -/
inductive Effect
  | expanded (asked : List Text) (outcome : Except Failure Text)
  | answered (a : Except Failure Answer)
  | rendered (asked : Except Failure (List Text)) (r : Report)
  | checked (serializable : Bool)
  | loaded (r : Except LoadFault (Bindings Text))
  | stepped (rs : List (Except StepFault StepResult))
  | ended (exit : Nat) (output errors : Text) (crash : Option Command.Crash) (asked : List Text)

namespace Operation

/-- What comes of an operation under some settings, and the notices that it leaves. -/
def perform (app : Settings) : Operation → Effect × List Notice
  | expand sw ask t =>
    let e := Template.expandWith sw ask t
    (.expanded e.asked e.outcome,e.notices)
  | answer p st key => (.answered (p.answers.map fun a => a st key),[])
  | render sw lookup t =>
    let (r,ns) := renderWith sw lookup t
    (.rendered (lookup.map fun ask => (Template.expandWith sw ask t).asked) r,ns)
  | check d =>
    let (b,ns) := d.isSerializable
    (.checked b,ns)
  | load depth files path missingOk =>
    match Properties.load depth files path missingOk with
    | .ok (properties,ns) => (.loaded (.ok properties),ns)
    | .error f => (.loaded (.error f),[])
  | steps environment items as =>
    let os := ((Session.opening app environment items).steps as).2
    (.stepped (os.map StepOutcome.result),os.flatMap StepOutcome.notices)
  | run w access args =>
    let w := { w with settings := app }
    let o := Command.runWith w access args
    (.ended o.exit o.output o.errors o.crash (Command.asked w access args),o.notices)

/-- What an operation writes under some settings. -/
def written (app : Settings) (op : Operation) : Log.Written := Log.writeAll app.quiet (op.perform app).2

/-- The same operation, which writes each notice where it comes up. -/
def performWriting (app : Settings) : Operation → Effect × Log.Written
  | expand sw ask t =>
    let (e,w) := Template.expandWriting app.quiet sw ask t
    (.expanded e.asked e.outcome,w)
  | answer p st key => (.answered (p.answers.map fun a => a st key),⟨[],[]⟩)
  | render sw lookup t =>
    let (r,w) := renderWriting app.quiet sw lookup t
    (.rendered (lookup.map fun ask => (Template.expandWith sw ask t).asked) r,w)
  | check d =>
    let (b,w) := d.checkWriting app.quiet
    (.checked b,w)
  | load depth files path missingOk =>
    let (r,w) := Properties.loadWriting app.quiet depth files path missingOk
    (.loaded r,w)
  | steps environment items as =>
    let (rs,w) := (Session.opening app environment items).stepsWriting app.quiet as
    (.stepped rs,w)
  | run w access args =>
    let w := { w with settings := app }
    let (o,written) := Command.runWriting app.quiet w access args
    (.ended o.exit o.output o.errors o.crash (Command.asked w access args),written)

/-- Writing where a notice comes up does the same as writing at the end of the work. -/
lemma performWriting_eq (app : Settings) (op : Operation) :
    op.performWriting app = ((op.perform app).1,op.written app) := by
  cases op with
  | expand sw ask t => simp only [performWriting,written,perform,Template.expandWriting_eq]
  | answer p st key => rfl
  | render sw lookup t => simp only [performWriting,written,perform,renderWriting_eq,Log.wrote]
  | check d => simp only [performWriting,written,perform,Datum.checkWriting_eq,Log.wrote]
  | load depth files path missingOk =>
    simp only [performWriting,written,perform,Properties.loadWriting_eq,Log.wrote]
    cases Properties.load depth files path missingOk <;> rfl
  | steps environment items as =>
    simp only [performWriting,written,perform,Session.stepsWriting_eq]
  | run w access args =>
    simp only [performWriting,written,perform,Command.runWriting_eq,Command.Outcome.wrote,
      Command.Outcome.output_silent,Command.Outcome.errors_silent]
    rfl

end Operation

namespace Session

def inQuiet (s : Session) (quiet : Bool) : Session := { s with start := s.start.inQuiet quiet }

/-- A step does the same in quiet. -/
lemma step_inQuiet (s : Session) (quiet : Bool) (a : Step) :
    (s.inQuiet quiet).step a = ((s.step a).1.inQuiet quiet,(s.step a).2) := by
  have hresolve : ∀ r : SwitchRequest, r.resolve s.store.environment (s.start.inQuiet quiet) =
      r.resolve s.store.environment s.start := by
    intro r
    cases r <;> rfl
  cases a with
  | set key v => cases v <;> rfl
  | engine r =>
    simp only [step,inQuiet,hresolve]
    split <;> rfl
  | _ => simp only [step,inQuiet] <;> try (split <;> rfl)

/-- And so do all steps. -/
lemma steps_inQuiet (s : Session) (quiet : Bool) (as : List Step) :
    (s.inQuiet quiet).steps as = ((s.steps as).1.inQuiet quiet,(s.steps as).2) := by
  induction as generalizing s with
  | nil => rfl
  | cons a as ih => simp only [steps,step_inQuiet,ih]

end Session

namespace Command

lemma runWith_inQuiet (w : World) (access : Access) (args : List Text) (quiet : Bool) :
    runWith { w with settings := w.settings.inQuiet quiet } access args = runWith w access args := rfl

lemma asked_inQuiet (w : World) (access : Access) (args : List Text) (quiet : Bool) :
    asked { w with settings := w.settings.inQuiet quiet } access args = asked w access args := rfl

end Command

namespace Operation

/-- What is done in quiet is what is done otherwise, with the same notices. -/
lemma perform_inQuiet (app : Settings) (quiet : Bool) (op : Operation) :
    op.perform (app.inQuiet quiet) = op.perform app := by
  cases op with
  | steps environment items as =>
    have h := (Session.opening app environment items).steps_inQuiet quiet as
    have hopening : (Session.opening app environment items).inQuiet quiet =
        Session.opening (app.inQuiet quiet) environment items := rfl
    rw [hopening] at h
    simp only [perform,h]
  | run w access args =>
    have hrun := Command.runWith_inQuiet { w with settings := app } access args quiet
    have hasked := Command.asked_inQuiet { w with settings := app } access args quiet
    simp only at hrun hasked
    simp only [perform,hrun,hasked]
  | _ => rfl

/-- Whatever is done under any settings, in quiet it has the same effect as otherwise and writes nothing, and
otherwise it writes the texts of its notices as they are, each for one entry. Notices that are written in the
middle of the work, of an expansion as of any operation, leave the work as it is. And of every message with
any arguments, however they are filled in, one thing comes where it is not quiet, an entry or a report that
they cannot be, and nothing in quiet. -/
theorem logging_observes :
    (∀ (app : Settings) (op : Operation),
      (op.perform (app.inQuiet true)).1 = (op.perform (app.inQuiet false)).1 ∧
      op.written (app.inQuiet true) = ⟨[],[]⟩ ∧
      op.written (app.inQuiet false) = ⟨(op.perform app).2.map Notice.text,[]⟩ ∧
      op.performWriting app = ((op.perform app).1,op.written app)) ∧
    (∀ (quiet : Bool) (sw : Switches) (ask : Lookup) (t : Text),
      let e := Template.expandWith sw ask t
      Template.fillWriting quiet ask (Template.pieces sw t) = (e,Log.writeAll quiet e.notices)) ∧
    (∀ (quiet : Bool) (message : Text) (args : List Text), Log.write quiet message args =
      Log.writeBy (fun args t => (Placeholder.fill args t).mapError Placeholder.Fault.message) quiet
        message args) ∧
    ∀ {α : Type} (fill : List α → Text → Except Text Text) (message : Text) (args : List α),
      Log.writeBy fill true message args = ⟨[],[]⟩ ∧
      (∀ w, Log.Comes fill message args w ↔ w = Log.writeBy fill false message args) ∧
      Xor (∃ entry, Log.writeBy fill false message args = ⟨[entry],[]⟩)
        (∃ fault, Log.writeBy fill false message args =
          ⟨[],"Logging error: ".toText ++ fault ++ (['\n'] : Text)⟩) := by
  refine ⟨fun app op => ?_,fun quiet sw ask t => ?_,Log.write_eq,fun fill message args => ?_⟩
  · refine ⟨?_,?_,?_,performWriting_eq app op⟩
    · rw [perform_inQuiet,perform_inQuiet]
    · rw [written,Log.writeAll_eq]
      rfl
    · rw [written,perform_inQuiet,Log.writeAll_eq]
      rfl
  · rw [Template.expandWith_eq_fill]
    exact Template.fillWriting_eq quiet ask _
  · have hcomes : Log.Comes fill message args _ := Log.comes_write
    refine ⟨rfl,fun w => ⟨fun h => h.unique hcomes,fun h => h ▸ hcomes⟩,?_⟩
    generalize Log.writeBy fill false message args = w at hcomes
    cases hcomes with
    | plain => exact .inl ⟨⟨_,rfl⟩,fun ⟨f,h⟩ => by simp at h⟩
    | filled => exact .inl ⟨⟨_,rfl⟩,fun ⟨f,h⟩ => by simp at h⟩
    | failed => exact .inr ⟨⟨_,rfl⟩,fun ⟨entry,h⟩ => by simp at h⟩

end Operation

end ShellTemplate
