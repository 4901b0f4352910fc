import Mathlib.Data.List.Flatten
import Mathlib.Logic.Function.Iterate
import ShellTemplate.Proofs.Template.Keys
import ShellTemplate.Proofs.Template.Units

/-! What is left of a template when nothing in it is found. Every piece shows a part of its own source,
with its characters in order, so that a pass can only take characters away. Passes over what is left
again and again come to rest, since each one that changes anything leaves a shorter text. -/
namespace ShellTemplate.Template

/-- No key has a value. -/
def Misses (ask : Lookup) : Prop := ∀ asked key, ask asked key = .absent

/-- What is left of a template then. -/
def leftover (sw : Switches) (t : Text) : Text :=
  (pieces sw t).flatMap (Piece.shown fun _ => .absent)

theorem Misses.outcome {ask : Lookup} (h : Misses ask) (sw : Switches) (t : Text) :
    (expandWith sw ask t).outcome = .ok (leftover sw t) := by
  have hask : ask = .steady fun _ => .absent := by
    funext asked key
    exact h asked key
  rw [hask]
  exact expand_pieces (by simp) sw t

/-- A token whose key has no value shows a part of its source. -/
theorem Reads.shown_sublist {sw : Switches} {source rest : Text} {piece : Piece}
    (h : Reads sw source piece rest) : (piece.shown fun _ => .absent).Sublist source := by
  cases h with
  | escapedDollar => exact .cons _ (.refl _)
  | escapedOther => exact .refl _
  | lastBackslash => exact .refl _
  | doublePercent => exact .cons _ (.refl _)
  | percentName => exact .refl _
  | percentCopied => exact .refl _
  | lastDollar => exact .refl _
  | dollarOther => exact .refl _
  | @expression b n f _ _ hb hd =>
    cases hd with
    | whole =>
      have hname := (Text.trim_infix (unescaped nameMarks b)).sublist.trans
        (unescaped_sublist nameMarks b)
      exact .cons_cons _ (.cons_cons _ (hname.append (.refl _)))
    | @parted n d _ _ =>
      -- the default is lifted out of the end of the body
      have hdef := (unescaped_sublist defaultMarks d).trans (List.sublist_append_right ([':'] : Text) _)
      have hbody : spelled (n ++ Atom.colon :: d) = spelled n ++ (([':'] : Text) ++ spelled d) := by
        simp [Atom.colon,Atom.text]
      rw [hbody]
      have hend := (hdef.trans (List.sublist_append_right (spelled n) _)).trans
        (List.sublist_append_left _ (['}'] : Text))
      exact .cons _ (.cons _ hend)
  | @unclosed b n f tail _ hb hd ht =>
    rw [hd.spelled_eq,List.append_assoc]
    exact .cons_cons _ (.cons_cons _ ((unescaped_sublist nameMarks n).append (.refl _)))
  | other => exact .refl _

lemma leftover_tokens (sw : Switches) (t : Text) :
    leftover sw t = (tokens sw t).flatMap fun k => k.piece.shown fun _ => .absent := by
  rw [leftover,pieces,List.flatMap_map]

theorem leftover_sublist (sw : Switches) (t : Text) : (leftover sw t).Sublist t := by
  have htoken : ∀ k ∈ tokens sw t,
      (k.piece.shown fun _ => .absent).Sublist k.source := by
    intro k hk
    obtain ⟨xs,ys,hks⟩ := List.append_of_mem hk
    exact (tokens_reads hks).shown_sublist
  have hall := List.Sublist.flatMap_right (tokens sw t) htoken
  rwa [flatMap_source_tokens,← leftover_tokens] at hall

/-- A pass that changes a template leaves a shorter one. -/
lemma length_leftover_lt {sw : Switches} {t : Text} (h : leftover sw t ≠ t) :
    (leftover sw t).length < t.length := by
  have hs := leftover_sublist sw t
  exact Nat.lt_of_le_of_ne hs.length_le fun he => h (hs.eq_of_length he)

/-- As many passes as the template has characters are enough. -/
theorem iterate_leftover (sw : Switches) (t : Text) {n : Nat} (h : t.length ≤ n) :
    (leftover sw)^[n] t = (leftover sw)^[t.length] t := by
  induction hl : t.length using Nat.strong_induction_on generalizing t n with
  | _ l ih =>
    by_cases hfix : leftover sw t = t
    · rw [Function.iterate_fixed hfix,Function.iterate_fixed hfix]
    · have hlt := length_leftover_lt hfix
      have hnext : ∀ m, (leftover sw t).length ≤ m → (leftover sw)^[m] (leftover sw t) =
          (leftover sw)^[(leftover sw t).length] (leftover sw t) :=
        fun m hm => ih _ (hl ▸ hlt) _ hm rfl
      obtain ⟨m,rfl⟩ : ∃ m, n = m+1 := ⟨n-1,by omega⟩
      obtain ⟨k,rfl⟩ : ∃ k, l = k+1 := ⟨l-1,by omega⟩
      rw [Function.iterate_succ_apply,Function.iterate_succ_apply,hnext m (by omega),
        hnext k (by omega)]

/-- Where nothing is found, passes over a template, over what is left of it and so on never fail. Each
leaves a part of what it was given, with nothing added, doubled or moved, and after as many of them as the
template has characters nothing changes any more. -/
theorem passes_settle (sw : Switches) (ask : Lookup) (h : Misses ask) (t : Text) :
    ∃ x : Nat → Text, x 0 = t ∧
      (∀ n, (expandWith sw ask (x n)).outcome = .ok (x (n+1))) ∧
      (∀ n, (x (n+1)).Sublist (x n)) ∧
      ∀ n, t.length ≤ n → x n = x t.length := by
  refine ⟨fun n => (leftover sw)^[n] t,rfl,?_,?_,?_⟩
  · intro n
    simp only [h.outcome,Function.iterate_succ_apply']
  · intro n
    simp only [Function.iterate_succ_apply']
    exact leftover_sublist sw _
  · intro n hn
    exact iterate_leftover sw t hn

/-- A default that is lifted out of its expression and read as two marks by the next pass. -/
theorem settled_after_two :
    let ask : Lookup := .steady fun _ => .absent
    Misses ask ∧
    ∃ x : Nat → Text, x 0 = (['$','{',':','%','%','}'] : Text) ∧ x 1 = (['%','%'] : Text) ∧
      x 2 = (['%'] : Text) ∧
      x 3 = (['%'] : Text) ∧ (∀ n, (x (n+1)).Sublist (x n)) ∧ ∀ n, 6 ≤ n → x n = x 6 := by
  intro ask
  have hask : Misses ask := fun _ _ => rfl
  obtain ⟨x,h0,hstep,hsub,hrest⟩ := passes_settle {} ask hask ['$','{',':','%','%','}']
  have hnext : ∀ n t u, x n = t → (expandWith {} ask t).outcome = .ok u → x (n+1) = u := by
    rintro n t u rfl hu
    exact Except.ok.inj ((hstep n).symm.trans hu)
  have h1 := hnext 0 _ ['%','%'] h0 rfl
  have h2 := hnext 1 _ ['%'] h1 rfl
  have h3 := hnext 2 _ ['%'] h2 rfl
  exact ⟨hask,x,h0,h1,h2,h3,hsub,hrest⟩

end ShellTemplate.Template
