import ShellTemplate.Command.Run
import ShellTemplate.Proofs.Help.Showing

/-! What a run that fails reports. The line for an error exists for every message, since the message is
escaped, and holds a plain message as it is. -/
namespace ShellTemplate.Command
open Markup

variable {c : Help.Console}

lemma errorLine_tagged (message : Text) : "[bold red]Error:[/bold red] ".toText ++ escape message =
    Help.tagged "bold red".toText "Error:".toText ++ (' ' :: escape message : Text) := by
  have hlabel : "[bold red]Error:[/bold red] ".toText =
      Help.tagged "bold red".toText "Error:".toText ++ ([' '] : Text) := by decide
  rw [hlabel,List.append_assoc,List.singleton_append]

/-- Every message can be reported. -/
theorem exists_errorLine (c : Help.Console) (message : Text) : ∃ line, errorLine c message = .ok line := by
  have h := Help.shows_tagged Help.isStyle_red "Error:".toText (by decide)
    (Shows.untagged (t := [' ']) (by decide) (shows_escape message))
  obtain ⟨s,hs⟩ := h.render c.evaluate
  rw [List.singleton_append] at hs
  rw [errorLine,errorLine_tagged,hs]
  exact ⟨_,rfl⟩

namespace Outcome

/-- A run that fails leaves its notices and then the line for its message, and nothing else. -/
theorem failed_eq (c : Help.Console) (message : Text) (ns : List Notice) :
    ∃ line, errorLine c message = .ok line ∧
      failed c message ns = { exit := 1, events := ns.map .notice ++ [.error line] } := by
  obtain ⟨line,h⟩ := exists_errorLine c message
  exact ⟨line,h,by rw [failed,h]⟩

lemma exit_failed (message : Text) (ns : List Notice) : (failed c message ns).exit = 1 := by
  obtain ⟨line,-,h⟩ := failed_eq c message ns
  rw [h]

lemma notices_failed (message : Text) (ns : List Notice) : (failed c message ns).notices = ns := by
  obtain ⟨line,-,h⟩ := failed_eq c message ns
  rw [h,notices,List.filterMap_append,List.filterMap_map]
  exact (congrArg (· ++ []) List.filterMap_some).trans (List.append_nil ns)

lemma output_crashed (c : Crash) (ns : List Notice) : (crashed c ns).output = [] := by
  simp [crashed,output]

end Outcome

end ShellTemplate.Command
