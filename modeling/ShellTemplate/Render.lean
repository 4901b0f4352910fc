import ShellTemplate.Context.Plan
import ShellTemplate.Log.Notice
import ShellTemplate.Settings.Field
import ShellTemplate.Template.Pass

/-! Rendering a template for a report, which holds a failure of the context and lets none through. -/
namespace ShellTemplate

structure Report where
  text : Text
  error : Option Text := none
  success : Bool := true
  deriving Repr, DecidableEq

/-- The report that a record of fields gives. -/
def Report.ofFields (fields : Fields) : Except Invalid Report :=
  let text := Field.required Field.text (fields.get? "text".toText)
  let error := Field.optional Field.text? none (fields.get? "error".toText)
  let success := Field.optional Field.flag true (fields.get? "success".toText)
  match text, error, success with
  | .ok text, .ok error, .ok success => .ok { text, error, success }
  | text, error, success =>
    .error ⟨Field.fault "text".toText text ++ Field.fault "error".toText error ++
      Field.fault "success".toText success⟩

/-- Where the values of a template are looked up: in the environment, in the properties, or in both,
with the properties first and the keys routed by their first letters. -/
inductive Origin
  | env | vars | combined
  deriving Repr, DecidableEq

namespace Origin

def word : Origin → Text
  | .env => "env".toText
  | .vars => "vars".toText
  | .combined => "combined".toText

def all : List Origin := [.env, .vars, .combined]

def ofWord? (t : Text) : Option Origin := all.find? fun o => o.word = t

def unknownMessage (t : Text) : Text := "Unknown source: ".toText ++ t

def context (properties : Bindings Text) : Origin → Context
  | .env => .systemEnvironment
  | .vars => .ofTexts properties
  | .combined =>
    .chain [.routed (.ofTexts properties) .systemEnvironment, .systemEnvironment]

end Origin

/-- The report of a failure. -/
def Report.failed (f : Failure) : Report := { text := [], error := some f.message, success := false }

/-- The template filled by lookups, if there are any. -/
def renderWith (sw : Switches) (lookup : Except Failure Lookup) (t : Text) : Report × List Notice :=
  match lookup with
  | .error f => (.failed f, [.notExpanded f.message])
  | .ok ask =>
    let e := Template.expandWith sw ask t
    match e.outcome with
    | .ok text => ({ text }, e.notices)
    | .error f => (.failed f, e.notices ++ [.notExpanded f.message])

/-- The lookups in what is offered as a context. -/
def Offer.lookup (st : Store) (o : Offer) : Except Failure Lookup :=
  o.adapt.map fun c => .steady (c.ask st)

/-- The template filled from what is offered as its context. -/
def render (sw : Switches) (st : Store) (offer : Offer) (t : Text) : Report × List Notice :=
  renderWith sw (offer.lookup st) t

end ShellTemplate
