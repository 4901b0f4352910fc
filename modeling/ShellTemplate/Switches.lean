import ShellTemplate.Text.Basic

/-! Which styles of expression a template may use. -/
namespace ShellTemplate

/-- `sh` admits `${NAME}` and the escapes, `defaults` admits `${NAME:default}`, `dos` admits `%NAME%`. -/
structure Switches where
  sh : Bool := true
  defaults : Bool := true
  dos : Bool := true
  deriving Repr, DecidableEq

namespace Switches

def shown (b : Bool) : Text := if b then "True".toText else "False".toText

/-- One line that names the three switches. -/
def description (s : Switches) : Text :=
  "ShellStyleStringInterpolator(sh_enable=".toText ++ shown s.sh ++
    ", sh_allow_defaults=".toText ++ shown s.defaults ++
    ", dos_enable=".toText ++ shown s.dos ++ ([')'] : Text)

end Switches

end ShellTemplate
