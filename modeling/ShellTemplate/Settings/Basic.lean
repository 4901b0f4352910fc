import ShellTemplate.Files.Path
import ShellTemplate.Settings.Field
import ShellTemplate.Switches
import ShellTemplate.Text.Lowercase

/-! Settings, from fields that are given and from the environment. -/
namespace ShellTemplate

/-- Names in the order of code points. -/
def sortByName {α : Type} (es : List (Text × α)) : List (Text × α) :=
  es.mergeSort fun a b => Text.notAfter a.1 b.1

/-- The switches that a record of fields gives. Fields of other names are ignored. -/
def Switches.ofFields (fields : Fields) : Except Invalid Switches :=
  let sh := Field.optional Field.flag true (fields.get? "shEnable".toText)
  let defaults := Field.optional Field.flag true (fields.get? "shAllowDefaults".toText)
  let dos := Field.optional Field.flag true (fields.get? "dosEnable".toText)
  match sh, defaults, dos with
  | .ok sh, .ok defaults, .ok dos => .ok { sh, defaults, dos }
  | sh, defaults, dos =>
    .error ⟨Field.fault "shEnable".toText sh ++ Field.fault "shAllowDefaults".toText defaults ++
      Field.fault "dosEnable".toText dos⟩

/-- Switches do not change: an assignment is refused whatever it assigns. -/
def Switches.assign (_ : Switches) (name : Text) (_ : Json) : Invalid := ⟨[(name, .frozen)]⟩

/-- `quiet` keeps notices from the log; `varsFile` names the file of variables to use where the command
line names none. -/
structure Settings where
  quiet : Bool := false
  switches : Switches := {}
  varsFile : Option Text := none
  extra : List (Text × Json) := []

namespace Settings

def quietName : Text := "beQuiet".toText
def shName : Text := "shEnable".toText
def defaultsName : Text := "shAllowDefaults".toText
def dosName : Text := "dosEnable".toText
def varsFileName : Text := "varsFile".toText

def names : List Text := [quietName, shName, defaultsName, dosName, varsFileName]

/-- The name of the variable that gives a field. -/
def variableName (field : Text) : Text := "SHI_".toText ++ field

/-- The value that the environment gives a field: that of the last variable with its name in any
case. -/
def fromEnvironment? (env : Bindings Text) (field : Text) : Option Text :=
  (env.entries.reverse.find? fun e => Text.lower e.1 = Text.lower (variableName field)).map Prod.snd

/-- What is given for a field; a given field hides the environment. -/
def given? (env : Bindings Text) (fields : Fields) (field : Text) : Option Json :=
  match fields.get? field with
  | some v => some v
  | none => (fromEnvironment? env field).map .text

/-- A path in its plain form, or null for none. -/
def path? : Json → Except FieldFlaw (Option Text)
  | .null => .ok none
  | .text t => .ok (some (Path.plain t))
  | _ => .error .pathType

/-- The settings that some fields and the environment give. Fields of other names are kept beside
them. -/
def load (env : Bindings Text) (fields : Fields) : Except Invalid Settings :=
  let quiet := Field.optional Field.flag false (given? env fields quietName)
  let sh := Field.optional Field.flag true (given? env fields shName)
  let defaults := Field.optional Field.flag true (given? env fields defaultsName)
  let dos := Field.optional Field.flag true (given? env fields dosName)
  let varsFile := Field.optional path? none (given? env fields varsFileName)
  match quiet, sh, defaults, dos, varsFile with
  | .ok quiet, .ok sh, .ok defaults, .ok dos, .ok varsFile =>
    .ok {
      quiet
      switches := { sh, defaults, dos }
      varsFile
      extra := sortByName (fields.entries.filter fun e => !names.contains e.1) }
  | quiet, sh, defaults, dos, varsFile =>
    .error ⟨Field.fault quietName quiet ++ Field.fault shName sh ++
      Field.fault defaultsName defaults ++ Field.fault dosName dos ++
      Field.fault varsFileName varsFile⟩

def ofEnvironment (env : Bindings Text) : Except Invalid Settings := load env .empty

/-- The file of variables: the configured one, or else the one at the usual place. -/
def varsPath (usual : Text) (s : Settings) : Text := s.varsFile.getD usual

/-- The switches with some of them set anew. -/
def overlay (s : Settings) (sh defaults dos : Option Bool) : Switches where
  sh := sh.getD s.switches.sh
  defaults := defaults.getD s.switches.defaults
  dos := dos.getD s.switches.dos

end Settings

end ShellTemplate
