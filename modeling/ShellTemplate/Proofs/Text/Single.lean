import Mathlib.Data.List.TakeWhile
import ShellTemplate.Proofs.Text.Fits

/-! A text that is laid out in a single line. The line is the text but for what is too wide for it at the end,
and only blanks can be. -/
namespace ShellTemplate.Text

lemma consFirst_eq_singleton {c : CodePoint} {ws : List Text} {p : Text} (hws : ws ≠ [])
    (h : consFirst c ws = [p]) : ∃ q, ws = [q] := by
  match ws, hws with
  | [q],_ => exact ⟨q,rfl⟩

lemma chop_ne_nil (width column : Nat) (t : Text) : chop width column t ≠ [] := by
  cases t with
  | nil => exact List.cons_ne_nil [] []
  | cons c t =>
    rw [chop]
    split
    · exact List.cons_ne_nil _ _
    · cases chop width (column + charCells c) t <;> exact List.cons_ne_nil _ _

/-- A word that is not cut has room where it begins. -/
lemma chop_eq_singleton {width column : Nat} {t p : Text} (h : chop width column t = [p]) :
    t = [] ∨ column + cells t ≤ width := by
  induction t generalizing column p with
  | nil => exact .inl rfl
  | cons c t ih =>
    rw [chop] at h
    split at h
    · cases hc : chop width (charCells c) t <;> simp [consFirst,hc] at h
    · obtain ⟨q,hq⟩ := consFirst_eq_singleton (chop_ne_nil _ _ _) h
      rw [cells]
      obtain rfl | ht := ih hq
      · rw [cells]
        omega
      · omega

lemma breakWords_ne_nil (width : Nat) (line : Text) (ws : List Text) : breakWords width line ws ≠ [] := by
  induction ws generalizing line with
  | nil => exact List.cons_ne_nil line []
  | cons w ws ih =>
    simp only [breakWords]
    split
    · exact ih _
    · split
      · exact List.cons_ne_nil _ _
      · exact fun h => ih _ (List.append_eq_nil_iff.1 h).2

lemma trimEnd_append (a b : Text) :
    trimEnd (a ++ b) = if trimEnd b = [] then trimEnd a else a ++ trimEnd b := by
  simp only [trimEnd,List.reverse_append,List.dropWhile_append,List.reverse_eq_nil_iff,List.isEmpty_iff]
  split
  · rfl
  · rw [List.reverse_append,List.reverse_reverse]

/-- A word of which only the last part is not empty is not cut, or it is a character that is too wide. -/
lemma chop_of_dropLast_empty {width : Nat} {t : Text} (h : ∀ p ∈ (chop width 0 t).dropLast, p = []) :
    (∃ p, chop width 0 t = [p]) ∨ ∃ c, t = [c] ∧ chop width 0 t = [[],[c]] := by
  have hone : ∀ {c : CodePoint} {ws : List Text}, ws ≠ [] → (∀ p ∈ (consFirst c ws).dropLast, p = []) →
      ∃ q, ws = [q] := by
    intro c ws hws h
    match ws, hws with
    | [q],_ => exact ⟨q,rfl⟩
    | q :: r :: ws,_ => exact absurd (h (c :: q) (by simp [consFirst])) (List.cons_ne_nil c q)
  cases t with
  | nil => exact .inl ⟨[],rfl⟩
  | cons c t =>
    rw [chop] at h ⊢
    split at h
    · rename_i hwide
      obtain ⟨q,hq⟩ := hone (c := c) (chop_ne_nil width (charCells c) t) fun p hp => h p <| by
        cases hc : consFirst c (chop width (charCells c) t) with
        | nil => rw [hc] at hp; cases hp
        | cons x xs => rw [hc] at hp; exact List.mem_cons_of_mem _ hp
      obtain rfl | ht := chop_eq_singleton hq
      · rw [if_pos hwide]
        exact .inr ⟨c,rfl,rfl⟩
      · omega
    · rename_i hwide
      obtain ⟨q,hq⟩ := hone (chop_ne_nil _ _ _) h
      rw [if_neg hwide,hq]
      exact .inl ⟨c :: q,rfl⟩

/-- Nothing follows a line that is too wide on a single line. -/
lemma breakWords_of_wide {width : Nat} {line : Text} {ws : List Text} {l : Text}
    (h : breakWords width line ws = [l]) (hline : width < cells line) : ws = [] := by
  cases ws with
  | nil => rfl
  | cons w ws =>
    have hne : line.isEmpty = false := by
      cases line with
      | nil => exact absurd hline (Nat.not_lt_zero width)
      | cons c t => rfl
    simp only [breakWords] at h
    rw [if_neg (by omega)] at h
    split at h
    · exact absurd (List.cons.inj h).2 (breakWords_ne_nil _ _ _)
    · rw [List.dropWhile_cons_of_neg (by simp [hne])] at h
      exact absurd (List.append_eq_nil_iff.1 (List.cons.inj h).2).2 (breakWords_ne_nil _ _ _)

/-- Words on a single line leave room for all but the blanks at its end, unless they are one character that is
too wide. -/
lemma breakWords_eq_singleton {width : Nat} {line : Text} {ws : List Text} {l : Text}
    (h : breakWords width line ws = [l]) (hline : cells (trimEnd line) ≤ width) :
    l = line ++ ws.flatten ∧ (cells (trimEnd l) ≤ width ∨ l.length ≤ 1) := by
  induction ws generalizing line with
  | nil =>
    obtain rfl : line = l := by simpa [breakWords] using h
    exact ⟨(List.append_nil _).symm,.inl hline⟩
  | cons w ws ih =>
    simp only [breakWords] at h
    split at h
    · rename_i hroom
      have hnext : cells (trimEnd (line ++ w)) ≤ width := by
        rw [trimEnd_append]
        split
        · exact hline
        · rwa [cells_append]
      obtain ⟨rfl,hl⟩ := ih h hnext
      exact ⟨by rw [List.flatten_cons,List.append_assoc],hl⟩
    · split at h
      · exact absurd (List.cons.inj h).2 (breakWords_ne_nil _ _ _)
      · -- the word is cut, and there is a line for each of its parts that is not empty
        rename_i hneed
        obtain ⟨hbefore,hafter⟩ := (List.append_eq_singleton_iff.1 h).resolve_right
          fun h => breakWords_ne_nil _ _ _ h.2
        have hempty := List.dropWhile_eq_nil_iff.1 hbefore
        obtain rfl : line = [] := List.isEmpty_iff.1 (hempty line List.mem_cons_self)
        have hw := cells_trimEnd w
        obtain ⟨p,hp⟩ | ⟨c,rfl,hc⟩ := chop_of_dropLast_empty fun p hp =>
          List.isEmpty_iff.1 (hempty p (List.mem_cons_of_mem _ hp))
        · obtain rfl | hfits := chop_eq_singleton hp
          · exact absurd (Nat.zero_le width) hneed
          · omega
        · rw [hc] at hafter
          obtain rfl := breakWords_of_wide hafter (Nat.lt_of_lt_of_le (Nat.lt_of_not_le hneed) hw)
          obtain rfl : [c] = l := by simpa [breakWords] using hafter
          exact ⟨rfl,.inr (Nat.le_refl 1)⟩

lemma pieces_ne_nil (t : Text) : pieces t ≠ [] := by
  cases t with
  | nil => exact List.cons_ne_nil [] []
  | cons c t =>
    rw [pieces]
    split
    · exact List.cons_ne_nil _ _
    · cases pieces t <;> exact List.cons_ne_nil _ _

lemma pieces_eq_singleton {t x : Text} (h : pieces t = [x]) : x = t := by
  induction t generalizing x with
  | nil => exact (List.cons.inj h).1.symm
  | cons c t ih =>
    rw [pieces] at h
    split at h
    · exact absurd (List.cons.inj h).2 (pieces_ne_nil t)
    · cases hp : pieces t with
      | nil => exact absurd hp (pieces_ne_nil t)
      | cons y ys =>
        rw [hp] at h
        obtain ⟨rfl,rfl⟩ := List.cons.inj h
        rw [ih hp]

/-- A text on a single line is cut there, and there is room for all but the blanks at its end, unless it is
one character that is too wide. -/
theorem wrap_eq_singleton {width : Nat} {t l : Text} (h : wrap width t = [l]) :
    l = crop width (dropExcess width (expandTabs 0 t)) ∧
    (cells (trimEnd (expandTabs 0 t)) ≤ width ∨ (expandTabs 0 t).length ≤ 1) := by
  have hne : ∀ x, wrapLine width x ≠ [] := fun x hx =>
    breakWords_ne_nil _ _ _ (List.map_eq_nil_iff.1 hx)
  have hone : pieces t = [t] := by
    cases hp : pieces t with
    | nil => exact absurd hp (pieces_ne_nil t)
    | cons x xs =>
      cases xs with
      | nil => rw [pieces_eq_singleton hp]
      | cons y ys =>
        rw [wrap,hp,List.flatMap_cons,List.flatMap_cons] at h
        obtain ⟨hx,-⟩ | ⟨-,h⟩ := List.append_eq_singleton_iff.1 h
        · exact absurd hx (hne x)
        · exact absurd (List.append_eq_nil_iff.1 h).1 (hne y)
  rw [wrap,hone,List.flatMap_singleton,wrapLine,List.map_eq_singleton_iff] at h
  obtain ⟨l',hbreak,rfl⟩ := h
  obtain ⟨rfl,hcells⟩ := breakWords_eq_singleton hbreak (Nat.zero_le width)
  rw [List.nil_append,spacedWords_flatten] at hcells ⊢
  exact ⟨rfl,hcells⟩

/-- In no width, only what takes no room is laid out as it is. -/
lemma cells_of_wrap_zero {t : Text} (h : wrap 0 t = [t]) : cells t = 0 := by
  have hcrop := (wrap_eq_singleton h).1
  rw [crop] at hcrop
  split at hcrop
  · rename_i hroom
    rw [← hcrop] at hroom
    exact Nat.le_zero.1 hroom
  · rw [if_pos rfl] at hcrop
    rw [hcrop]
    rfl

section
variable {p : CodePoint → Bool}

lemma countP_cut (hp : p ' ' = false) (width : Nat) (line : Text) (fuel low high : Nat) :
    (cut width line fuel low high).countP p ≤ line.countP p := by
  have htake : ∀ n, (line.take n).countP p ≤ line.countP p := fun n =>
    (List.take_sublist n line).countP_le
  induction fuel generalizing low high with
  | zero => exact Nat.le_refl _
  | succ fuel ih =>
    simp only [cut]
    split
    · exact htake _
    · split
      · rw [List.countP_append,List.countP_singleton,hp]
        exact Nat.le_trans (List.dropLast_sublist _).countP_le (htake _)
      · split
        · exact ih _ _
        · exact ih _ _

lemma countP_crop (hp : p ' ' = false) (width : Nat) (line : Text) :
    (crop width line).countP p ≤ line.countP p := by
  rw [crop]
  split
  · exact Nat.le_refl _
  · split
    · exact Nat.zero_le _
    · exact countP_cut hp _ _ _ _ _

lemma countP_expandTabs (hp : p ' ' = false) (ht : p '\t' = false) (column : Nat) (t : Text) :
    (expandTabs column t).countP p = t.countP p := by
  induction t generalizing column with
  | nil => rfl
  | cons c t ih =>
    rw [expandTabs]
    split
    · rename_i hc
      simp [hc,ht,ih,List.countP_append,List.countP_replicate,hp]
    · rw [List.countP_cons,ih,List.countP_cons]

/-- Characters that are no blanks only get fewer on a single line. -/
lemma countP_wrap (hp : p ' ' = false) (ht : p '\t' = false) {width : Nat} {t l : Text}
    (h : wrap width t = [l]) : l.countP p ≤ t.countP p := by
  rw [(wrap_eq_singleton h).1]
  calc (crop width (dropExcess width (expandTabs 0 t))).countP p
      ≤ (dropExcess width (expandTabs 0 t)).countP p := countP_crop hp _ _
    _ ≤ (expandTabs 0 t).countP p := (List.take_sublist _ _).countP_le
    _ = t.countP p := countP_expandTabs hp ht 0 t

end

lemma expandTabs_append {u : Text} (hu : ('\t' : CodePoint) ∉ u) (column : Nat) (t : Text) :
    ∃ s, expandTabs column (t ++ u) = s ++ u := by
  induction t generalizing column with
  | nil => exact ⟨[],expandTabs_of_noTab hu column⟩
  | cons c t ih =>
    rw [List.cons_append,expandTabs]
    split
    · obtain ⟨s,hs⟩ := ih ((column / tabStop + 1) * tabStop)
      exact ⟨_,by simp only [hs]; exact (List.append_assoc ..).symm⟩
    · obtain ⟨s,hs⟩ := ih (column + charCells c)
      exact ⟨c :: s,by rw [hs,List.cons_append]⟩

/-- A single line that ends with no blank ends as its text does. -/
lemma wrap_end {width : Nat} {t u l : Text} {c : CodePoint} (htab : ('\t' : CodePoint) ∉ u ++ [c])
    (hu : u ≠ [])
    (hc : isBlank c = false) (h : wrap width (t ++ (u ++ [c])) = [l]) : ∃ s, l = s ++ (u ++ [c]) := by
  obtain ⟨rfl,hcells⟩ := wrap_eq_singleton h
  obtain ⟨s,hs⟩ := expandTabs_append htab 0 t
  rw [hs,← List.append_assoc] at hcells ⊢
  have htrim : trimEnd (s ++ u ++ [c]) = s ++ u ++ [c] := by simp [trimEnd,hc]
  have hdrop : dropExcess width (s ++ u ++ [c]) = s ++ u ++ [c] := by
    rw [dropExcess,List.reverse_concat,List.takeWhile_cons_of_neg (by simp [hc]),List.length_nil,
      Nat.zero_min,Nat.sub_zero,List.take_length]
  have hroom : cells (s ++ u ++ [c]) ≤ width := by
    rw [htrim] at hcells
    refine hcells.resolve_right fun hlength => ?_
    have hlong := List.length_pos_iff.2 hu
    rw [List.length_append,List.length_append,List.length_singleton] at hlength
    omega
  exact ⟨s,by rw [hdrop,crop,if_pos hroom,List.append_assoc]⟩

end ShellTemplate.Text
