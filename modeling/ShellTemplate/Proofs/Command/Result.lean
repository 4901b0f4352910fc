import ShellTemplate.Proofs.Command.Running
import ShellTemplate.Proofs.Text.Sequences

/-! What the command prints. A run that ends well prints the expansion of the template that was chosen,
with each switch from its own last flag or its own setting and each variable from the last place that
gives it one. All of it arrives at a terminal; elsewhere the control sequences in it are lost. -/
namespace ShellTemplate.Command

/-- The name of the setting of a switch. -/
def Switch.setting : Switch → Text
  | .dos => Settings.dosName
  | .sh => Settings.shName
  | .defaults => Settings.defaultsName

def Switch.on (sw : Switches) : Switch → Bool
  | .dos => sw.dos
  | .sh => sw.sh
  | .defaults => sw.defaults

/-- The template that is chosen: the operand, or else the content of the file, or else the input, whose line
ends are read as the system reads them. -/
inductive Chosen (w : World) (a : Arguments) : Text → Prop
  | operand {t} : a.operands = [t] → Chosen w a t
  | file {path bytes raw} : a.operands = [] → (a.values .file).getLast? = some path → path ≠ (['-'] : Text) →
      w.files path = .file bytes → Text.Utf8.decode bytes = .ok raw →
      Chosen w a (Text.normalizeNewlines raw)
  | input {raw} : a.operands = [] → (∀ path, (a.values .file).getLast? = some path → path = (['-'] : Text)) →
      Text.Utf8.decode w.input = .ok raw → Chosen w a (w.newlines.read raw)

namespace Request.Says
variable {w : World} {a : Arguments} {r : Request}

lemma chosen (h : r.Says w.files a) {t : Text} (ht : r.templateIn w = .ok t) : Chosen w a t := by
  cases hoperands : a.operands with
  | cons o os =>
    have hone : os = [] := by
      have htemplate := h.template.symm.trans hoperands
      cases hr : r.template <;> simp_all
    subst hone
    cases (h.templateIn_operand hoperands).symm.trans ht
    exact .operand hoperands
  | nil =>
    by_cases hinput : ∀ path, (a.values .file).getLast? = some path → path = (['-'] : Text)
    · obtain ⟨raw,hraw,rfl⟩ := map_eq_ok.1 ((h.templateIn_input hoperands hinput).symm.trans ht)
      exact .input hoperands hinput hraw
    · push Not at hinput
      obtain ⟨path,hlast,hpath⟩ := hinput
      have hfile := h.file
      rw [hlast] at hfile
      obtain ⟨f,hf,-⟩ := hfile
      obtain ⟨bytes,hfound,-⟩ := openFile_ok hpath hf
      obtain ⟨raw,hraw,rfl⟩ := map_eq_ok.1
        ((h.templateIn_file hoperands hlast hpath hfound).symm.trans ht)
      exact .file hoperands hlast hpath hfound hraw

end Request.Says

/-- A world without settings, variables and files. -/
def bare : World where
  environment := .empty
  settings := {}
  files := fun _ => .missing
  usual := "vars.json".toText
  input := []
  newlines := .kept
  console := fun _ => .plain 80
  depth := 1000

end ShellTemplate.Command
