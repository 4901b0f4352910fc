import Mathlib.Data.List.DropRight
import Mathlib.Data.List.TakeWhile
import Mathlib.Tactic.Lemma
import ShellTemplate.Text.Blank

/-! Trimming a text. What is cut off are blanks and nothing else, and what stays begins and ends with no
blank, so that it is not trimmed any further. -/
namespace ShellTemplate.Text

lemma trimEnd_eq_rdropWhile (t : Text) : trimEnd t = t.rdropWhile isBlank := rfl

/-- A text is its trimmed part with blanks around it. -/
theorem exists_trim (t : Text) :
    ∃ a b, t = a ++ (trim t ++ b) ∧ (∀ c ∈ a, isBlank c) ∧ ∀ c ∈ b, isBlank c := by
  refine ⟨t.takeWhile isBlank,(trimStart t).rtakeWhile isBlank,?_,?_,?_⟩
  · rw [trim,trimEnd_eq_rdropWhile,List.rdropWhile_append_rtakeWhile,trimStart,
      List.takeWhile_append_dropWhile]
  · intro c hc
    exact List.mem_takeWhile_imp hc
  · intro c hc
    exact List.mem_rtakeWhile_imp hc

/-- Trimming the end uncovers no blank at the start. -/
lemma trimStart_trim (t : Text) : trimStart (trim t) = trim t := by
  apply List.dropWhile_eq_self_iff.2
  intro hl
  have hp : trim t <+: trimStart t := by
    rw [trim,trimEnd_eq_rdropWhile]
    exact List.rdropWhile_prefix isBlank (trimStart t)
  have hpos : 0 < (trimStart t).length := Nat.lt_of_lt_of_le hl hp.length_le
  have hget : (trim t)[0] = (trimStart t)[0] := hp.getElem hl
  rw [hget]
  exact List.dropWhile_get_zero_not isBlank t hpos

@[simp] theorem trim_trim (t : Text) : trim (trim t) = trim t := by
  have h : trim (trim t) = trimEnd (trimStart (trim t)) := rfl
  rw [h,trimStart_trim,trim,trimEnd_eq_rdropWhile,trimEnd_eq_rdropWhile,List.rdropWhile_idempotent]

/-- A blank put at the end is cut off again. -/
theorem trim_append_blank (t : Text) {c : CodePoint} (h : isBlank c) : trim (t ++ [c]) = trim t := by
  have hs : trimStart (t ++ [c]) = [] ∧ trimStart t = [] ∨
      trimStart (t ++ [c]) = trimStart t ++ [c] := by
    unfold trimStart
    rw [List.dropWhile_append]
    split
    · rename_i he
      left
      exact ⟨by simp [h],by simpa using he⟩
    · exact .inr rfl
  unfold trim
  obtain ⟨h₁,h₂⟩ | h₁ := hs
  · rw [h₁,h₂]
  · rw [h₁,trimEnd_eq_rdropWhile,List.rdropWhile_concat_pos isBlank _ c h]
    rfl

end ShellTemplate.Text
