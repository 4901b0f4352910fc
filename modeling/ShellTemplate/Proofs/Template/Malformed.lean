import Mathlib.Data.List.TakeWhile
import ShellTemplate.Proofs.Template.Atom
import ShellTemplate.Proofs.Template.Filling
import ShellTemplate.Proofs.Template.Units

/-! What is no complete expression is copied. A name behind `%` that something else stops and a `$`
without a brace are copied as they stand. An expression whose brace never comes is copied too, but a
backslash before a separator in its name has been taken off by then and is lost. -/
namespace ShellTemplate.Template

/-- Only backslashes are taken off. -/
lemma filter_unescaped (marks : Text) (as : List Atom) :
    (unescaped marks as).filter (· ≠ ('\\' : CodePoint)) = (spelled as).filter (· ≠ ('\\' : CodePoint)) := by
  induction as with
  | nil => rfl
  | cons a as ih =>
    have ha : (a.shed marks).filter (· ≠ ('\\' : CodePoint)) = a.text.filter (· ≠ ('\\' : CodePoint)) := by
      cases a with
      | plain => rfl
      | pair c =>
        simp only [Atom.shed,Atom.text]
        split <;> simp
    simp only [unescaped_cons,spelled_cons,List.filter_append,ha,ih]

/-- A text that begins with no backslash does not end an output that has lost backslashes of it. -/
lemma suffix_append_iff {c : CodePoint} {source out : Text} (w : Text) (hc : c ≠ '\\')
    (hl : out.length ≤ (c :: source).length)
    (hf : out.filter (· ≠ ('\\' : CodePoint)) = (c :: source).filter (· ≠ ('\\' : CodePoint))) :
    c :: source <:+ w ++ out ↔ out = c :: source := by
  constructor
  · rintro ⟨u,hu⟩
    obtain ⟨x,-,hx⟩ | ⟨x,-,hx⟩ := List.append_eq_append_iff.1 hu
    · cases x with
      | nil => exact hx.symm
      | cons d x =>
        -- the stretch that the output lacks begins with `c`, which is never lost
        obtain ⟨rfl,-⟩ : c = d ∧ source = x ++ out := by simpa using hx
        have hn := congrArg (fun t => (t.filter (· ≠ ('\\' : CodePoint))).length) hx
        simp only [List.filter_append,List.length_append,hf] at hn
        simp [hc] at hn
    · have hn := congrArg List.length hx
      simp only [List.length_append] at hn
      have hx0 : x = [] := List.eq_nil_of_length_eq_zero (by omega)
      rw [hx,hx0,List.nil_append]
  · rintro rfl
    exact List.suffix_append _ _

/-- What a pass does behind the character that begins an expression. -/
lemma expandWith_opened {sw : Switches} {ask : Lookup} {a : Text} {c : CodePoint} {r : Reading}
    {p : Progress} (h : pass sw ask (.outside,{}) (a ++ [c]) = .ok (r,p)) (t : Text) :
    expandWith sw ask (a ++ c :: t) = resume sw ask (r,p) t := by
  rw [expandWith,show a ++ c :: t = a ++ [c] ++ t by simp,resume_append,h,proceed_ok]

/-- A name behind `%` at the end of the template. -/
lemma resume_percent_end (sw : Switches) (ask : Lookup) (p : Progress) {w : Text}
    (hw : ∀ c ∈ w, Text.isAlphanumeric c) :
    resume sw ask (.percent [],p) w = (p.write ('%' :: w)).finish := by
  have hd : w.dropWhile Text.isAlphanumeric = [] :=
    List.dropWhile_eq_nil_iff.2 hw
  rw [resume_percent,hd]
  simp [put,resume_nil,Reading.cut]

/-- A name behind `%` that something else than a `%` stops, which is then read outside. -/
lemma resume_percent_stop (sw : Switches) (ask : Lookup) (p : Progress) {w : Text} {c : CodePoint}
    (hw : ∀ c ∈ w, Text.isAlphanumeric c) (hc : c ≠ '%') (ha : ¬ Text.isAlphanumeric c) (t : Text) :
    resume sw ask (.percent [],p) (w ++ c :: t) =
      resume sw ask (.outside,p.write ('%' :: w)) (c :: t) := by
  rw [resume_percent,List.dropWhile_append_of_pos hw,List.takeWhile_append_of_pos hw]
  simp [ha,hc,put]

/-- A `${` without a closing brace. -/
lemma resume_unclosed (sw : Switches) (ask : Lookup) (p : Progress) {b n : List Atom}
    {f : Option (List Atom)} {tail : Text} (hb : Atom.brace ∉ b)
    (hd : Division sw.defaults b n f) (ht : Dangling tail) :
    resume sw ask (.dollar,p) ('{' :: (spelled b ++ tail)) =
      (p.write ('$' :: '{' :: (unescaped nameMarks n ++ (raw f ++ tail)))).finish := by
  rw [resume_dollar]
  simp [readDollar,readBody_cut hb hd ht,put,resume_nil,Reading.cut]

lemma unclosed_eq_iff {defaults : Bool} {b n : List Atom} {f : Option (List Atom)}
    (hd : Division defaults b n f) (tail : Text) :
    ('$' :: '{' :: (unescaped nameMarks n ++ (raw f ++ tail)) : Text) =
        ('$' :: '{' :: (spelled b ++ tail) : Text) ↔
      Atom.pair (':' : CodePoint) ∉ n := by
  rw [hd.spelled_eq,List.append_assoc]
  simp [unescaped_eq_spelled_iff,nameMarks]

/-- What begins as an expression and is none comes out as it stands, up to where it is given up: a name
behind `%` that the end of the template or a character that is no letter or number stops, and a `$`
without a brace behind it. A `${` without a closing brace comes out as it stands exactly if no backslash
stands before a separator in its name, and in no other case does the output end with it. -/
theorem malformed_copied (sw : Switches) (ask : Lookup) (a : Text) (p : Progress) :
    (pass sw ask (.outside,{}) (a ++ (['%'] : Text)) = .ok (.percent [],p) →
      ∀ w, (∀ c ∈ w, Text.isAlphanumeric c) →
        expandWith sw ask (a ++ ('%' :: w : Text)) = (p.write ('%' :: w)).finish ∧
        ∀ (c : CodePoint) (t : Text), c ≠ '%' → ¬ Text.isAlphanumeric c →
          expandWith sw ask (a ++ ('%' :: (w ++ c :: t) : Text)) =
            resume sw ask (.outside,p.write ('%' :: w)) (c :: t)) ∧
    (pass sw ask (.outside,{}) (a ++ (['$'] : Text)) = .ok (.dollar,p) →
      expandWith sw ask (a ++ (['$'] : Text)) = (p.write ['$']).finish ∧
      (∀ (c : CodePoint) (t : Text), c ≠ '{' → expandWith sw ask (a ++ ('$' :: c :: t : Text)) =
        resume sw ask (.outside,p.write ['$',c]) t) ∧
      ∀ b n f tail, Atom.brace ∉ b → Division sw.defaults b n f → Dangling tail →
        let source : Text := '$' :: '{' :: (spelled b ++ tail)
        let out : Text := '$' :: '{' :: (unescaped nameMarks n ++ (raw f ++ tail))
        expandWith sw ask (a ++ source) = (p.write out).finish ∧
        (out = source ↔ Atom.pair (':' : CodePoint) ∉ n) ∧
        (source <:+ p.written.toList ++ out ↔ Atom.pair (':' : CodePoint) ∉ n)) := by
  constructor
  · intro h w hw
    constructor
    · rw [expandWith_opened h,resume_percent_end sw ask p hw]
    · intro c t hc ha
      rw [expandWith_opened h,resume_percent_stop sw ask p hw hc ha]
  · intro h
    refine ⟨?_,?_,?_⟩
    · rw [expandWith_opened h]
      rfl
    · intro c t hc
      rw [expandWith_opened h,resume_cons]
      simp [step,hc]
    · intro b n f tail hb hd ht source out
      have heq : out = source ↔ Atom.pair (':' : CodePoint) ∉ n := unclosed_eq_iff hd tail
      have hl : out.length ≤ source.length := by
        have := (unescaped_sublist nameMarks n).length_le
        simp only [out,source,hd.spelled_eq,List.length_cons,List.length_append]
        omega
      have hf : out.filter (· ≠ ('\\' : CodePoint)) = source.filter (· ≠ ('\\' : CodePoint)) := by
        have := filter_unescaped nameMarks n
        simp only [out,source,hd.spelled_eq,List.filter_cons,List.filter_append,this,
          List.append_assoc]
      refine ⟨?_,heq,?_⟩
      · rw [expandWith_opened h,resume_unclosed sw ask p hb hd ht]
      · exact (suffix_append_iff _ (by decide) hl hf).trans heq

/-- Behind a text, a `${` whose name holds an escaped separator does not come out as it stands. -/
theorem unclosed_name_behind_text :
    let a : Atom := .plain 'a' (by decide)
    pass {} (.steady fun _ => .absent) (.outside,{}) ['x','$'] =
      .ok (.dollar,{ written := #['x'] }) ∧
    Atom.brace ∉ [a,.pair ':'] ∧ Division true [a,.pair ':'] [a,.pair ':'] none ∧ Dangling [] ∧
    (expandWith {} (.steady fun _ => .absent) ['x','$','{','a','\\',':']).outcome =
      .ok ['x','$','{','a',':'] ∧
    ¬ (['$','{','a','\\',':'] : Text) <:+ (['x','$','{','a',':'] : Text) := by
  intro a
  have hp : pass {} (.steady fun _ => .absent) (.outside,{}) ['x','$'] =
      .ok (.dollar,{ written := #['x'] }) := rfl
  have hb : Atom.brace ∉ [a,.pair ':'] := by decide
  have hd : Division true [a,.pair ':'] [a,.pair ':'] none := .whole fun _ => by decide
  have ht : Dangling [] := .inl rfl
  obtain ⟨-,-,h⟩ := (malformed_copied {} _ ['x'] _).2 hp
  obtain ⟨he,-,hs⟩ := h _ _ _ _ hb hd ht
  refine ⟨hp,hb,hd,ht,congrArg Expansion.outcome he,?_⟩
  exact fun hx => hs.1 hx (by decide)

/-- The backslash before the separator is lost. -/
theorem unclosed_name_loses_backslash :
    (expand {} (fun _ => .absent) ['$','{','a','\\',':','b']).outcome =
      .ok ['$','{','a',':','b'] := rfl

end ShellTemplate.Template
