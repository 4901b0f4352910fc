import Mathlib.Tactic.Lemma
import ShellTemplate.Text.Wrap

/-! A line that is no longer than its width is laid out as it is. -/
namespace ShellTemplate.Text

def isPrintableAscii (c : CodePoint) : Bool := 0x20 ≤ c.toNat && c.toNat ≤ 0x7E

/-- A range on one side of another has nothing in common with it. -/
lemma within_eq_false {ranges : List (Nat × Nat)} {low high n : Nat}
    (h : ∀ r ∈ ranges, r.2 < low ∨ high < r.1) (hn : low ≤ n ∧ n ≤ high) :
    within ranges n = false := by
  simp only [within,List.any_eq_false,Bool.and_eq_true,decide_eq_true_eq]
  rintro r hr ⟨h1,h2⟩
  obtain h | h := h r hr <;> omega

lemma charCells_ascii {c : CodePoint} (h : isPrintableAscii c) : charCells c = 1 := by
  have hc : 0x20 ≤ c.toNat ∧ c.toNat ≤ 0x7E := by simpa [isPrintableAscii] using h
  have h0 : within noCellRanges c.toNat = false := within_eq_false (by decide +kernel) hc
  have h2 : within twoCellRanges c.toNat = false := within_eq_false (by decide +kernel) hc
  rw [charCells,h0,h2]
  rfl

lemma cells_ascii {t : Text} (h : ∀ c ∈ t, isPrintableAscii c) : cells t = t.length := by
  induction t with
  | nil => rfl
  | cons c t ih =>
    rw [cells,charCells_ascii (h c (by simp)),ih fun d hd => h d (by simp [hd]),List.length_cons,
      Nat.add_comm]

lemma cells_trimEnd (w : Text) : cells (trimEnd w) ≤ cells w := by
  have h : trimEnd w <+: w := by
    simpa [trimEnd] using List.reverse_prefix.2 (List.dropWhile_suffix isBlank (l := w.reverse))
  obtain ⟨r,hr⟩ := h
  calc cells (trimEnd w) ≤ cells (trimEnd w) + cells r := Nat.le_add_right _ _
    _ = cells w := by rw [← cells_append,hr]

/-- Words that fit on the line that is begun stay on it. -/
lemma breakWords_of_fits {width : Nat} {line : Text} {ws : List Text}
    (h : cells line + cells ws.flatten ≤ width) :
    breakWords width line ws = [line ++ ws.flatten] := by
  induction ws generalizing line with
  | nil => simp [breakWords]
  | cons w ws ih =>
    rw [List.flatten_cons,cells_append] at h
    have hw := cells_trimEnd w
    have hneed : cells line + cells (trimEnd w) ≤ width := by omega
    have hrest : cells (line ++ w) + cells ws.flatten ≤ width := by
      rw [cells_append]
      omega
    simp only [breakWords,if_pos hneed]
    rw [ih hrest,List.flatten_cons,List.append_assoc]

lemma expandTabs_of_noTab {t : Text} (h : ('\t' : CodePoint) ∉ t) (column : Nat) :
    expandTabs column t = t := by
  induction t generalizing column with
  | nil => rfl
  | cons c t ih =>
    obtain ⟨hc,ht⟩ := not_or.1 (mt List.mem_cons.2 h)
    rw [expandTabs,if_neg (Ne.symm hc),ih ht]

lemma pieces_of_noFeed {t : Text} (h : ('\n' : CodePoint) ∉ t) : pieces t = [t] := by
  induction t with
  | nil => rfl
  | cons c t ih =>
    obtain ⟨hc,ht⟩ := not_or.1 (mt List.mem_cons.2 h)
    rw [pieces,if_neg (Ne.symm hc),ih ht]

/-- One line that fits stays as it is. -/
theorem wrap_of_fits (width : Nat) {t : Text} (hfeed : ('\n' : CodePoint) ∉ t) (htab : ('\t' : CodePoint) ∉ t)
    (hlength : t.length ≤ width) (hcells : cells t ≤ width) : wrap width t = [t] := by
  have hbreak : breakWords width [] (spacedWords t) = [t] := by
    rw [breakWords_of_fits (by rwa [spacedWords_flatten,cells,Nat.zero_add]),spacedWords_flatten]
    rfl
  have hdrop : dropExcess width t = t := by
    rw [dropExcess,Nat.sub_eq_zero_of_le hlength,Nat.min_zero,Nat.sub_zero,List.take_length]
  rw [wrap,pieces_of_noFeed hfeed,List.flatMap_singleton,wrapLine,expandTabs_of_noTab htab,hbreak,
    List.map_singleton,hdrop,crop,if_pos hcells]

end ShellTemplate.Text
