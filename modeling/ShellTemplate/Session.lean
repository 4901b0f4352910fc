import ShellTemplate.Context.Plan
import ShellTemplate.Log.Notice
import ShellTemplate.Settings.Basic
import ShellTemplate.Template.Pass

/-! Sessions: an interpolator bound to a context stays in use while the tables under the context change.
The switches are those of the moment of the binding, the values those of the moment of the rendering. -/
namespace ShellTemplate

/-- Where switches come from: values given for them, the same as fields of the settings, or the settings
of the start. -/
inductive SwitchRequest
  | given (fields : Fields)
  | settings (fields : Fields)
  | shared

def SwitchRequest.resolve (env : Bindings Text) (start : Settings) :
    SwitchRequest → Except Invalid Switches
  | .given fields => Switches.ofFields fields
  | .settings fields => (Settings.load env fields).map Settings.switches
  | .shared => .ok start.switches

/-- Switches with the context that they are used on. -/
structure Bound where
  switches : Switches
  context : Context

def Bound.expand (st : Store) (b : Bound) (t : Text) : Expansion :=
  Template.expand b.switches (b.context.ask st) t

/-- Why a variable of the environment cannot be set. -/
inductive VariableFault
  | illegalName | emptyName | nullByte
  | unencodable (u : Text.Unencodable)
  deriving Repr, DecidableEq

def VariableFault.message : VariableFault → Text
  | .illegalName => "illegal environment variable name".toText
  | .emptyName => "[Errno 22] Invalid argument".toText
  | .nullByte => "embedded null byte".toText
  | .unencodable u => u.message

/-- What is wrong with a variable whose name and value are to be encoded. -/
def VariableFault.of? (names : Text.Codec) (name value : Text) : Option VariableFault :=
  match (names.fault? name).or (names.fault? value) with
  | some u => some (.unencodable u)
  | none =>
    if name.contains '\x00' || value.contains '\x00' then some .nullByte
    else if name.contains '=' then some .illegalName
    else if name.isEmpty then some .emptyName
    else none

structure Session where
  start : Settings
  store : Store
  switches : Switches
  bound : Bound

inductive Step
  | set (key : Text) (value : Option Value)
  | delete (key : Text)
  | setVariable (name value : Text)
  | unsetVariable (name : Text)
  | engine (r : SwitchRequest)
  | bind (p : Plan)
  | get (key : Text)
  | render (t : Text)
  | fold (t : Text) (times : Nat)

inductive StepFault
  | failure (f : Failure)
  | invalid (e : Invalid)
  | variable (f : VariableFault)

inductive StepResult
  | done
  | had (b : Bool)
  | engine (s : Switches)
  | value (v : Option Value)
  | out (t : Text)
  | outs (ts : List Text)

/-- What a step gives, and the notices that it leaves. -/
structure StepOutcome where
  result : Except StepFault StepResult
  notices : List Notice := []

namespace Session

/-- At the start the bound interpolator has the default switches and reads the shared table. -/
def opening (start : Settings) (environment : Bindings Text) (items : Bindings Value) : Session where
  start := start
  store := { environment, shared := items }
  switches := {}
  bound := ⟨{}, .source .shared⟩

/-- The text after one rendering, two, and so on, each of the text before it. -/
def renderAgain (st : Store) (b : Bound) : Nat → Text → Except Failure (List Text) × List Notice
  | 0, _ => (.ok [], [])
  | n + 1, t =>
    let e := b.expand st t
    match e.outcome with
    | .error f => (.error f, e.notices)
    | .ok out =>
      let (rest, notices) := renderAgain st b n out
      (rest.map (out :: ·), e.notices ++ notices)

/-- One step. A step that fails changes nothing. -/
def step (s : Session) : Step → Session × StepOutcome
  | .set key (some v) =>
    ({ s with store.shared := s.store.shared.put key v }, ⟨.ok .done, []⟩)
  | .set key none =>
    ({ s with store.shared := s.store.shared.erase key }, ⟨.ok .done, []⟩)
  | .delete key =>
    ({ s with store.shared := s.store.shared.erase key },
      ⟨.ok (.had (s.store.shared.get? key).isSome), []⟩)
  | .setVariable name value =>
    match VariableFault.of? s.store.names name value with
    | some f => (s, ⟨.error (.variable f), []⟩)
    | none =>
      ({ s with store.environment := s.store.environment.put name value }, ⟨.ok .done, []⟩)
  | .unsetVariable name =>
    match s.store.names.fault? name with
    | some u => (s, ⟨.error (.variable (.unencodable u)), []⟩)
    | none =>
      ({ s with store.environment := s.store.environment.erase name }, ⟨.ok .done, []⟩)
  | .engine r =>
    match r.resolve s.store.environment s.start with
    | .ok sw => ({ s with switches := sw }, ⟨.ok (.engine sw), []⟩)
    | .error e => (s, ⟨.error (.invalid e), []⟩)
  | .bind p =>
    match p.context with
    | .ok c => ({ s with bound := ⟨s.switches, c⟩ }, ⟨.ok .done, []⟩)
    | .error f => (s, ⟨.error (.failure f), []⟩)
  | .get key =>
    match s.bound.context.ask s.store key with
    | .value v => (s, ⟨.ok (.value (some v)), []⟩)
    | .absent => (s, ⟨.ok (.value none), []⟩)
    | .failure f => (s, ⟨.error (.failure f), []⟩)
  | .render t =>
    let e := s.bound.expand s.store t
    match e.outcome with
    | .ok out => (s, ⟨.ok (.out out), e.notices⟩)
    | .error f => (s, ⟨.error (.failure f), e.notices⟩)
  | .fold t times =>
    match renderAgain s.store s.bound times t with
    | (.ok outs, notices) => (s, ⟨.ok (.outs outs), notices⟩)
    | (.error f, notices) => (s, ⟨.error (.failure f), notices⟩)

def steps (s : Session) : List Step → Session × List StepOutcome
  | [] => (s, [])
  | a :: as =>
    let (s, o) := s.step a
    let (s, os) := s.steps as
    (s, o :: os)

end Session

end ShellTemplate
