import Mathlib.Tactic.Lemma
import ShellTemplate.Text.Lines

/-! Lines, and line ends in their normal form. Two texts are brought to it one by one, unless a line end
stands across the place where they meet. -/
namespace ShellTemplate.Text

lemma lines_ne_nil {t : Text} (h : t ≠ []) : lines t ≠ [] := by
  fun_cases lines t with
  | case1 => exact absurd rfl h
  | case2 => nofun
  | case3 => simp_all
  | _ => simp_all

lemma normalizeNewlines_cons {c : CodePoint} {t : Text}
    (h : c = '\r' → t.head? ≠ some ('\n' : CodePoint)) :
    normalizeNewlines (c :: t) =
      (if c = '\r' then '\n' else c : CodePoint) :: normalizeNewlines t := by
  rw [normalizeNewlines]
  rintro u rfl rfl
  exact h rfl rfl

lemma normalizeNewlines_append {s t : Text}
    (h : s.getLast? = some ('\r' : CodePoint) → t.head? ≠ some ('\n' : CodePoint)) :
    normalizeNewlines (s ++ t) = normalizeNewlines s ++ normalizeNewlines t := by
  fun_induction normalizeNewlines s with
  | case1 => rfl
  | case2 s ih =>
    have hs : s.getLast? = some ('\r' : CodePoint) → t.head? ≠ some ('\n' : CodePoint) :=
      fun hlast => h (by simp [List.getLast?_cons,hlast])
    rw [List.cons_append,List.cons_append,normalizeNewlines,ih hs,List.cons_append]
  | case3 c s hc ih =>
    have hs : s.getLast? = some ('\r' : CodePoint) → t.head? ≠ some ('\n' : CodePoint) :=
      fun hlast => h (by simp [List.getLast?_cons,hlast])
    have hhead : c = '\r' → (s ++ t).head? ≠ some ('\n' : CodePoint) := by
      rintro rfl
      cases s with
      | nil => exact h rfl
      | cons d s =>
        intro hd
        obtain rfl : d = '\n' := Option.some.inj hd
        exact hc s rfl rfl
    rw [List.cons_append,normalizeNewlines_cons hhead,ih hs,List.cons_append]

/-- A character that is no line end stands between the two. -/
lemma normalizeNewlines_between {c : CodePoint} (hn : c ≠ '\n') (hr : c ≠ '\r') (s t : Text) :
    normalizeNewlines (s ++ c :: t) = normalizeNewlines s ++ c :: normalizeNewlines t := by
  have hs : s.getLast? = some ('\r' : CodePoint) → (c :: t).head? ≠ some ('\n' : CodePoint) :=
    fun _ h => hn (Option.some.inj h)
  rw [normalizeNewlines_append hs,normalizeNewlines_cons fun h => absurd h hr,if_neg hr]

lemma normalizeNewlines_of_noReturn {t : Text} (h : ('\r' : CodePoint) ∉ t) : normalizeNewlines t = t := by
  fun_induction normalizeNewlines t with
  | case1 => rfl
  | case2 t ih => simp at h
  | case3 c t hc ih =>
    obtain ⟨hne,ht⟩ := not_or.1 (mt List.mem_cons.2 h)
    rw [if_neg (Ne.symm hne),ih ht]

end ShellTemplate.Text
