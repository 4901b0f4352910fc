import ShellTemplate.Log.Entry
import ShellTemplate.Proofs.Command.Reports
import ShellTemplate.Proofs.Template.Filling
import ShellTemplate.Serial.Basic
import ShellTemplate.Session

/-! The same work, with each notice written to the log at the point of the work that leaves it. It comes to
the same results as the work that hands its notices over at its end, and leaves the same log. -/
namespace ShellTemplate

namespace Log

/-- What is written first, and then the rest. -/
def Written.append (v w : Written) : Written := ⟨v.entries ++ w.entries,v.errors ++ w.errors⟩

instance : Append Written := ⟨Written.append⟩

/-- A notice on its own. -/
def note (quiet : Bool) (n : Notice) : Written := write quiet n.text []

/-- What some notices leave, each written in its turn. -/
def writeAll (quiet : Bool) : List Notice → Written
  | [] => ⟨[],[]⟩
  | n :: ns => note quiet n ++ writeAll quiet ns

lemma append_eq (v w : Written) : v ++ w = ⟨v.entries ++ w.entries,v.errors ++ w.errors⟩ := rfl

lemma append_empty (w : Written) : w ++ (⟨[],[]⟩ : Written) = w := by
  rw [append_eq,List.append_nil,List.append_nil]

lemma writeAll_one (quiet : Bool) (n : Notice) : writeAll quiet [n] = note quiet n := append_empty _

lemma writeAll_append (quiet : Bool) (ns ms : List Notice) :
    writeAll quiet (ns ++ ms) = writeAll quiet ns ++ writeAll quiet ms := by
  induction ns with
  | nil => rfl
  | cons n ns ih => simp only [List.cons_append,writeAll,ih,append_eq,List.append_assoc]

/-- Work that hands its notices over, and the log that they leave. -/
def wrote {α : Type} (quiet : Bool) (x : α × List Notice) : α × Written := (x.1,writeAll quiet x.2)

end Log

open Log
variable (quiet : Bool)

namespace Template

/-- The pieces of a template filled in turn, where the notice of a slot that is left is written before
the next piece. -/
def fillWriting (ask : Lookup) : List Piece → Expansion × Written
  | [] => (⟨[],[],.ok []⟩,⟨[],[]⟩)
  | .copy t :: ps =>
    let (e,w) := fillWriting ask ps
    (e.after [] [] t,w)
  | .slot s :: ps =>
    match ask [] s.key with
    | .value v =>
      let (e,w) := fillWriting (ask.after [s.key]) ps
      (e.after [s.key] [] v.shown,w)
    | .failure f => (⟨[s.key],[],.error f⟩,⟨[],[]⟩)
    | .absent =>
      match s.fallback with
      | some d =>
        let (e,w) := fillWriting (ask.after [s.key]) ps
        (e.after [s.key] [] d,w)
      | none =>
        let here := note quiet (.unresolved s)
        let (e,w) := fillWriting (ask.after [s.key]) ps
        (e.after [s.key] [s] s.unresolved,here ++ w)

lemma notices_after (asked : List Text) (ss : List Slot) (out : Text) (e : Expansion) :
    (e.after asked ss out).notices = ss.map .unresolved ++ e.notices := by
  rw [Expansion.notices,Expansion.notices,Expansion.after,List.map_append]

/-- Writing in the middle of the work leaves the work as it is, and the log as if all were written at
its end. -/
theorem fillWriting_eq (ask : Lookup) (ps : List Piece) :
    fillWriting quiet ask ps = (fill ask ps,writeAll quiet (fill ask ps).notices) := by
  induction ps generalizing ask with
  | nil => rfl
  | cons piece ps ih =>
    cases piece with
    | copy t => simp only [fillWriting,fill,ih,notices_after,List.map_nil,List.nil_append]
    | slot s =>
      cases hreply : ask [] s.key with
      | value v =>
        simp only [fillWriting,fill,hreply,ih,notices_after,List.map_nil,List.nil_append]
      | failure f => simp only [fillWriting,fill,hreply,Expansion.notices,List.map_nil,writeAll]
      | absent =>
        cases hfallback : s.fallback with
        | some d =>
          simp only [fillWriting,fill,hreply,hfallback,ih,notices_after,List.map_nil,List.nil_append]
        | none =>
          simp only [fillWriting,fill,hreply,hfallback,ih,notices_after,List.map_cons,List.map_nil,
            List.cons_append,List.nil_append,writeAll]

def expandWriting (sw : Switches) (ask : Lookup) (t : Text) : Expansion × Written :=
  fillWriting quiet ask (pieces sw t)

lemma expandWriting_eq (sw : Switches) (ask : Lookup) (t : Text) : expandWriting quiet sw ask t =
    (expandWith sw ask t,writeAll quiet (expandWith sw ask t).notices) := by
  rw [expandWriting,fillWriting_eq,expandWith_eq_fill]

end Template

/-- A rendering, which writes of its failure after what the expansion has written. -/
def renderWriting (sw : Switches) (lookup : Except Failure Lookup) (t : Text) : Report × Written :=
  match lookup with
  | .error f => (.failed f,note quiet (.notExpanded f.message))
  | .ok ask =>
    let (e,w) := Template.expandWriting quiet sw ask t
    match e.outcome with
    | .ok text => ({ text },w)
    | .error f => (.failed f,w ++ note quiet (.notExpanded f.message))

lemma renderWriting_eq (sw : Switches) (lookup : Except Failure Lookup) (t : Text) :
    renderWriting quiet sw lookup t = wrote quiet (renderWith sw lookup t) := by
  cases lookup with
  | error f => rw [renderWriting,renderWith,wrote,writeAll_one]
  | ok ask =>
    rw [renderWriting,renderWith,Template.expandWriting_eq]
    cases h : (Template.expandWith sw ask t).outcome with
    | ok text => simp only [h,wrote]
    | error f => simp only [h,wrote,writeAll_append,writeAll_one]

/-- A check of data, which writes of the offence that it finds. -/
def Datum.checkWriting (d : Datum) : Bool × Written :=
  match d.offence? with
  | none => (true,⟨[],[]⟩)
  | some o => (false,note quiet (.notSerializable o.message))

lemma Datum.checkWriting_eq (d : Datum) : d.checkWriting quiet = wrote quiet d.isSerializable := by
  rw [checkWriting,isSerializable]
  cases d.offence? with
  | none => rfl
  | some o => simp only [wrote,writeAll_one]

namespace Properties

/-- The notices of a load that does not fail are those that it hands over. -/
def handed (r : Except LoadFault (Bindings Text × List Notice)) :
    Except LoadFault (Bindings Text) × List Notice :=
  match r with
  | .ok (properties,ns) => (.ok properties,ns)
  | .error f => (.error f,[])

/-- A load, which writes of the file once its texts are read. -/
def loadWriting (depth : Nat) (files : Files) (path : Text) (missingOk : Bool) :
    Except LoadFault (Bindings Text) × Written :=
  match files path with
  | .file bytes =>
    match ofBytes depth path bytes with
    | .ok properties => (.ok properties,note quiet (.loaded properties.size path))
    | .error f => (.error f,⟨[],[]⟩)
  | .directory => (.error (.directory path),⟨[],[]⟩)
  | .tooLong => (.error (.tooLong path),⟨[],[]⟩)
  | .unreadable | .barred => (.error (.denied path),⟨[],[]⟩)
  | .missing | .notDirectory | .looped | .malformed =>
    if missingOk then (.ok .empty,⟨[],[]⟩) else (.error (.notFound path),⟨[],[]⟩)

lemma loadWriting_eq (depth : Nat) (files : Files) (path : Text) (missingOk : Bool) :
    loadWriting quiet depth files path missingOk =
      wrote quiet (handed (load depth files path missingOk)) := by
  rw [loadWriting,load]
  cases files path with
  | file bytes =>
    cases h : ofBytes depth path bytes with
    | ok properties => simp only [h,handed,wrote,writeAll_one]
    | error f =>
      simp only [h]
      rfl
  | missing | notDirectory | looped | malformed => cases missingOk <;> rfl
  | _ => rfl

def collectWriting (depth : Nat) (files : Files) (usual : Text) (chosen : Option Text)
    (assigned : List (Text × Text)) : Except LoadFault (Bindings Text) × Written :=
  let (loaded,w) := match chosen with
    | some path => loadWriting quiet depth files path false
    | none => loadWriting quiet depth files usual true
  (loaded.map (·.putAll assigned),w)

lemma handed_map (f : Bindings Text → Bindings Text) (r : Except LoadFault (Bindings Text × List Notice)) :
    handed (r.map fun (properties,notices) => (f properties,notices)) =
      ((handed r).1.map f,(handed r).2) := by
  cases r <;> rfl

lemma collectWriting_eq (depth : Nat) (files : Files) (usual : Text) (chosen : Option Text)
    (assigned : List (Text × Text)) : collectWriting quiet depth files usual chosen assigned =
      wrote quiet (handed (collect depth files usual chosen assigned)) := by
  cases chosen <;>
    simp only [collectWriting,collect,handed_map (·.putAll assigned),loadWriting_eq,wrote]

end Properties

/-- Help shown, where the report of a fault is printed after the fault is written to the log. -/
def Help.shownWriting (c : Console) (k : Text.Codec) (help : Option Text) :
    Except PrintFault Text × Written :=
  let panel := panel c (given help)
  match panel.bind (written k []) with
  | .ok t => (.ok t,⟨[],[]⟩)
  | .error f =>
    let here := note quiet (.notShown f.message)
    ((line c (report f.message)).bind (written k (panel.toOption.getD [])),here)

lemma Help.shownWriting_eq (c : Console) (k : Text.Codec) (help : Option Text) :
    shownWriting quiet c k help = wrote quiet ((shown c k help).result,(shown c k help).notices) := by
  rw [shownWriting,shown]
  cases (panel c (given help)).bind (written k []) with
  | ok t => rfl
  | error f => simp only [wrote,writeAll_one]

namespace Command

/-- What is not for the log. -/
def Event.isPrinted : Event → Bool
  | .notice _ => false
  | _ => true

/-- What a run does apart from the log. -/
def Outcome.silent (o : Outcome) : Outcome := { o with events := o.events.filter Event.isPrinted }

/-- The run of a request. What the properties have written comes first, then what the rendering writes, then
the line for an error. -/
def Request.runWriting (w : World) (access : Access) (r : Request) : Outcome × Written :=
  match r.templateIn w with
  | .error f => (.failed w.shown f.message [],note quiet (.notPrepared f.message))
  | .ok template =>
    let usual := w.settings.varsPath w.usual
    let (collected,before) :=
      Properties.collectWriting quiet w.depth w.files usual r.varsFile r.assigned.entries
    match collected with
    | .error f =>
      if f.isDepth then (.crashed (.tooDeep f.message) [],before)
      else
        let here := note quiet (.notPrepared f.message)
        (.failed w.shown f.message [],before ++ here)
    | .ok properties =>
      let switches := w.settings.overlay r.sh r.defaults r.dos
      let (report,during) := renderWriting quiet switches (access r.origin properties) template
      match report.error with
      | none => (.written w report.text [],before ++ during)
      | some message => (.failed w.shown message [],before ++ during)

def helpWriting (w : World) : Outcome × Written :=
  let (result,written) := Help.shownWriting quiet w.shown w.codec (some help)
  match result with
  | .ok t => ({ exit := 0, events := [.output (t ++ (['\n'] : Text))] },written)
  | .error f => (.crashed (.unshown f) [],written)

/-- The run with some arguments. -/
def runWriting (w : World) (access : Access) (args : List Text) : Outcome × Written :=
  match Request.read w.files args with
  | .ok r => r.runWriting quiet w access
  | .error .help => helpWriting quiet w
  | .error _ => (runWith w access args,⟨[],[]⟩)

namespace Outcome

/-- A run that hands its notices over, and the log that they leave. -/
def wrote (o : Outcome) : Outcome × Written := (o.silent,writeAll quiet o.notices)

lemma flatMap_printed {f : Event → Text} (hf : ∀ n, f (.notice n) = []) (es : List Event) :
    (es.filter Event.isPrinted).flatMap f = es.flatMap f := by
  induction es with
  | nil => rfl
  | cons e es ih =>
    cases e with
    | notice n =>
      rw [List.filter_cons_of_neg Bool.false_ne_true,List.flatMap_cons,hf,ih]
      rfl
    | _ => rw [List.filter_cons_of_pos rfl,List.flatMap_cons,List.flatMap_cons,ih]

lemma output_silent (o : Outcome) : o.silent.output = o.output := flatMap_printed (fun _ => rfl) o.events

lemma errors_silent (o : Outcome) : o.silent.errors = o.errors := flatMap_printed (fun _ => rfl) o.events

lemma wrote_eq (ns : List Notice) {es : List Event} (hes : es.all Event.isPrinted) (exit : Nat)
    (crash : Option Crash) : wrote quiet { exit, events := ns.map .notice ++ es, crash } =
      ({ exit, events := es, crash },writeAll quiet ns) := by
  have hall : ∀ e ∈ es, e.isPrinted = true := List.all_eq_true.1 hes
  have hsilent : (ns.map Event.notice ++ es).filter Event.isPrinted = es := by
    rw [List.filter_append,List.filter_eq_self.2 hall,List.filter_eq_nil_iff.2 (by simp [Event.isPrinted]),
      List.nil_append]
  have hnone : notices { exit, events := es, crash } = [] := List.filterMap_eq_nil_iff.2 fun e he => by
    have h := hall e he
    cases e with
    | notice n => cases h
    | _ => rfl
  have hnotices : notices { exit, events := ns.map .notice ++ es, crash } = ns := by
    rw [notices] at hnone
    rw [notices,List.filterMap_append,hnone,List.append_nil,List.filterMap_map]
    exact List.filterMap_some
  rw [wrote,silent,hnotices]
  simp only [hsilent]

lemma wrote_failed (c : Help.Console) (message : Text) (ns : List Notice) :
    (failed c message ns).wrote quiet = (failed c message [],writeAll quiet ns) := by
  obtain ⟨line,hline,h⟩ := failed_eq c message ns
  rw [h,wrote_eq quiet ns rfl,failed,hline]
  rfl

lemma wrote_crashed (c : Crash) (ns : List Notice) :
    (crashed c ns).wrote quiet = (crashed c [],writeAll quiet ns) := by
  have h : crashed c ns = { exit := 1, events := ns.map .notice ++ [], crash := some c } := by
    rw [List.append_nil,crashed]
  rw [h,wrote_eq quiet ns rfl]
  rfl

lemma wrote_written (w : World) (t : Text) (ns : List Notice) :
    (written w t ns).wrote quiet = (written w t [],writeAll quiet ns) := by
  rw [written,written]
  cases w.codec.fault? (w.printed t) with
  | none => exact wrote_eq quiet ns rfl 0 none
  | some u => exact wrote_crashed quiet _ ns

end Outcome

lemma Request.runWriting_eq (w : World) (access : Access) (r : Request) :
    r.runWriting quiet w access = (r.run w access).wrote quiet := by
  rw [runWriting,run]
  cases r.templateIn w with
  | error f => rw [Outcome.wrote_failed,writeAll_one]
  | ok template =>
    simp only [Properties.collectWriting_eq,renderWriting_eq]
    cases Properties.collect w.depth w.files (w.settings.varsPath w.usual) r.varsFile r.assigned.entries with
    | error f =>
      cases hdepth : f.isDepth with
      | true => simp only [hdepth,Properties.handed,wrote,↓reduceIte,Outcome.wrote_crashed]
      | false =>
        simp only [hdepth,Properties.handed,wrote,Bool.false_eq_true,↓reduceIte,Outcome.wrote_failed,
          writeAll_one]
        rfl
    | ok found =>
      obtain ⟨properties,loaded⟩ := found
      simp only [Properties.handed,wrote]
      cases hreport : (renderWith (w.settings.overlay r.sh r.defaults r.dos) (access r.origin properties)
          template).1.error with
      | none => simp only [Outcome.wrote_written,writeAll_append]
      | some message => simp only [Outcome.wrote_failed,writeAll_append]

lemma helpWriting_eq (w : World) : helpWriting quiet w = (helpRun w).wrote quiet := by
  rw [helpWriting,helpRun,Help.shownWriting_eq]
  cases (Help.shown w.shown w.codec (some help)).result with
  | ok t => exact (Outcome.wrote_eq quiet _ rfl 0 none).symm
  | error f => exact (Outcome.wrote_crashed quiet _ _).symm

/-- A run that writes to the log as it goes does what the run does that hands its notices over. -/
theorem runWriting_eq (w : World) (access : Access) (args : List Text) :
    runWriting quiet w access args = (runWith w access args).wrote quiet := by
  rw [runWriting,runWith]
  cases Request.read w.files args with
  | ok r => exact r.runWriting_eq quiet w access
  | error refusal =>
    cases refusal with
    | help => exact helpWriting_eq quiet w
    | version => rw [Outcome.wrote_written]; rfl
    | misuse m => exact (Outcome.wrote_eq quiet [] rfl 2 none).symm
    | malformed path => rw [Outcome.wrote_crashed]; rfl

end Command

namespace Session

/-- A text rendered again and again, each expansion writing before the next. -/
def againWriting (st : Store) (b : Bound) : Nat → Text → Except Failure (List Text) × Written
  | 0, _ => (.ok [],⟨[],[]⟩)
  | n + 1, t =>
    let (e,w) := Template.expandWriting quiet b.switches (.steady (b.context.ask st)) t
    match e.outcome with
    | .error f => (.error f,w)
    | .ok out =>
      let (rest,v) := againWriting st b n out
      (rest.map (out :: ·),w ++ v)

lemma againWriting_eq (st : Store) (b : Bound) (n : Nat) (t : Text) :
    againWriting quiet st b n t = wrote quiet (renderAgain st b n t) := by
  induction n generalizing t with
  | zero => rfl
  | succ n ih =>
    rw [againWriting,renderAgain,Template.expandWriting_eq]
    simp only [Bound.expand,Template.expand]
    cases (Template.expandWith b.switches (.steady (b.context.ask st)) t).outcome with
    | error f => rfl
    | ok out => simp only [ih,wrote,writeAll_append]

/-- A step, of which those that expand a template write to the log. -/
def stepWriting (s : Session) (a : Step) : Session × Except StepFault StepResult × Written :=
  match a with
  | .render t =>
    let (e,w) := Template.expandWriting quiet s.bound.switches (.steady (s.bound.context.ask s.store)) t
    (s,(e.outcome.map .out).mapError .failure,w)
  | .fold t times =>
    let (r,w) := againWriting quiet s.store s.bound times t
    (s,(r.map .outs).mapError .failure,w)
  | a => ((s.step a).1,(s.step a).2.result,⟨[],[]⟩)

lemma stepWriting_eq (s : Session) (a : Step) : s.stepWriting quiet a =
    ((s.step a).1,(s.step a).2.result,writeAll quiet (s.step a).2.notices) := by
  cases a with
  | render t =>
    simp only [stepWriting,step,Template.expandWriting_eq,Bound.expand,Template.expand]
    cases (Template.expandWith s.bound.switches (.steady (s.bound.context.ask s.store)) t).outcome <;> rfl
  | fold t times =>
    simp only [stepWriting,step,againWriting_eq,wrote]
    cases renderAgain s.store s.bound times t with | mk r ns =>
    cases r <;> rfl
  | set key v => cases v <;> rfl
  | delete key => rfl
  | _ =>
    simp only [stepWriting,step]
    split <;> rfl

/-- All steps, each of which writes before the next. -/
def stepsWriting (s : Session) : List Step → List (Except StepFault StepResult) × Written
  | [] => ([],⟨[],[]⟩)
  | a :: as =>
    let (s,r,w) := s.stepWriting quiet a
    let (rs,v) := s.stepsWriting as
    (r :: rs,w ++ v)

theorem stepsWriting_eq (s : Session) (as : List Step) : s.stepsWriting quiet as =
    ((s.steps as).2.map StepOutcome.result,writeAll quiet ((s.steps as).2.flatMap StepOutcome.notices)) := by
  induction as generalizing s with
  | nil => rfl
  | cons a as ih =>
    simp only [stepsWriting,stepWriting_eq,ih,steps,List.map_cons,List.flatMap_cons,writeAll_append]

end Session

end ShellTemplate
