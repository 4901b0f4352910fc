import Mathlib.Tactic.Lemma
import ShellTemplate.Template.Token

/-! The inside of an expression in units that are read as a whole: a backslash with the character after
it, or one character that is no backslash. Where an expression ends and where its name ends is a matter
of units, and so is what the backslashes in it stand for. -/
namespace ShellTemplate.Template

inductive Atom
  | plain (c : CodePoint) (h : c ≠ '\\')
  | pair (c : CodePoint)
  deriving DecidableEq

namespace Atom

/-- The brace that closes an expression. -/
def brace : Atom := .plain '}' (by decide)

/-- The separator of a name and a default. -/
def colon : Atom := .plain ':' (by decide)

def text : Atom → Text
  | .plain c _ => [c]
  | .pair c => ['\\',c]

/-- The unit without its backslash, if that stands before one of these marks. -/
def shed (marks : Text) : Atom → Text
  | .plain c _ => [c]
  | .pair c => if c ∈ marks then [c] else ['\\',c]

lemma plain_ne_brace {c : CodePoint} {h : c ≠ '\\'} (hb : Atom.plain c h ≠ brace) : c ≠ '}' := by
  rintro rfl
  exact hb rfl

lemma plain_ne_colon {c : CodePoint} {h : c ≠ '\\'} (hb : Atom.plain c h ≠ colon) : c ≠ ':' := by
  rintro rfl
  exact hb rfl

end Atom

/-- The characters of some units. -/
def spelled (as : List Atom) : Text := as.flatMap Atom.text

/-- The units without the backslashes before these marks. -/
def unescaped (marks : Text) (as : List Atom) : Text := as.flatMap (Atom.shed marks)

@[simp] lemma spelled_nil : spelled [] = [] := rfl
@[simp] lemma spelled_cons (a : Atom) (as : List Atom) :
    spelled (a :: as) = a.text ++ spelled as := rfl
@[simp] lemma spelled_append (as bs : List Atom) :
    spelled (as ++ bs) = spelled as ++ spelled bs := List.flatMap_append
@[simp] lemma unescaped_nil (marks : Text) : unescaped marks [] = [] := rfl
@[simp] lemma unescaped_cons (marks : Text) (a : Atom) (as : List Atom) :
    unescaped marks (a :: as) = a.shed marks ++ unescaped marks as := rfl
@[simp] lemma unescaped_append (marks : Text) (as bs : List Atom) :
    unescaped marks (as ++ bs) = unescaped marks as ++ unescaped marks bs := List.flatMap_append

/-- What may be left of a text behind its units: nothing, or a backslash without a partner. -/
def Dangling (tail : Text) : Prop := tail = [] ∨ tail = (['\\'] : Text)

/-- The units of a text, each backslash with the character after it. -/
def units : Text → List Atom
  | [] => []
  | '\\' :: c :: t => .pair c :: units t
  | c :: t => if h : c = '\\' then [] else .plain c h :: units t

/-- What the units of a text leave over at its end: nothing, or a last unpaired backslash. -/
def loose : Text → Text
  | [] => []
  | '\\' :: _ :: t => loose t
  | c :: t => if c = '\\' then ['\\'] else loose t

lemma units_plain {c : CodePoint} (h : c ≠ '\\') (t : Text) : units (c :: t) = .plain c h :: units t := by
  cases t <;> simp [units,h]

lemma loose_plain {c : CodePoint} (h : c ≠ '\\') (t : Text) : loose (c :: t) = loose t := by
  cases t <;> simp [loose,h]

lemma dangling_loose (t : Text) : Dangling (loose t) := by
  fun_induction loose t with
  | case1 => exact .inl rfl
  | case2 _ t ih => exact ih
  | case3 => exact .inr rfl
  | case4 c t _ _ ih => exact ih

/-- Nothing is lost. -/
theorem spelled_units (t : Text) : spelled (units t) ++ loose t = t := by
  fun_induction units t with
  | case1 => rfl
  | case2 c t ih => simpa [loose,Atom.text] using ih
  | case3 t ht =>
    cases t with
    | nil => rfl
    | cons d t => exact absurd rfl (ht d t rfl)
  | case4 c t _ hc ih => simpa [loose_plain hc,Atom.text] using ih

/-- A text holds a first closing brace among its units, or none. -/
theorem exists_body (t : Text) :
    (∃ b rest, Atom.brace ∉ b ∧ t = spelled b ++ ('}' :: rest : Text)) ∨
      ∃ b tail, Atom.brace ∉ b ∧ Dangling tail ∧ t = spelled b ++ tail := by
  have hs := spelled_units t
  by_cases h : Atom.brace ∈ units t
  · obtain ⟨b,d,hu,hb⟩ := List.eq_append_cons_of_mem h
    rw [hu] at hs
    exact .inl ⟨b,spelled d ++ loose t,hb,by simpa [Atom.brace,Atom.text] using hs.symm⟩
  · exact .inr ⟨units t,loose t,h,dangling_loose t,hs.symm⟩

/-- How the units of a body divide into those of the name and those of the default. A default begins
behind the first separator, if defaults are admitted. -/
inductive Division (defaults : Bool) : List Atom → List Atom → Option (List Atom) → Prop
  | whole {b} (h : defaults = true → Atom.colon ∉ b) : Division defaults b b none
  | parted {n d} (hd : defaults = true) (h : Atom.colon ∉ n) :
      Division defaults (n ++ Atom.colon :: d) n (some d)

theorem exists_division (defaults : Bool) (b : List Atom) : ∃ n f, Division defaults b n f := by
  by_cases h : defaults = true ∧ Atom.colon ∈ b
  · obtain ⟨n,d,rfl,hn⟩ := List.eq_append_cons_of_mem h.2
    exact ⟨n,some d,.parted h.1 hn⟩
  · exact ⟨b,none,.whole fun hd hb => h ⟨hd,hb⟩⟩

/-- Without defaults a body is all name. -/
lemma Division.without {b n : List Atom} {f : Option (List Atom)} (h : Division false b n f) :
    n = b ∧ f = none := by
  cases h with
  | whole => exact ⟨rfl,rfl⟩
  | parted hd => cases hd

/-- The separator and the default as they were written, if there is a default. -/
def raw : Option (List Atom) → Text
  | none => []
  | some d => ':' :: spelled d

lemma Division.spelled_eq {defaults : Bool} {b n : List Atom} {f : Option (List Atom)}
    (h : Division defaults b n f) : spelled b = spelled n ++ raw f := by
  cases h with
  | whole => simp [raw]
  | parted => simp [raw,Atom.colon,Atom.text]

/-- The marks that lose a backslash in a name, and those that lose it in a default. -/
def nameMarks : Text := [':']
def defaultMarks : Text := ['{','}']

lemma readDefault_plain {c : CodePoint} (h : c ≠ '\\') (hb : c ≠ '}') (t : Text) :
    readDefault (c :: t) = (readDefault t).map (.push [c] [c]) := by
  simp [readDefault,h]

/-- A default ends at the first closing brace among its units. -/
theorem readDefault_spelled {d : List Atom} (hd : Atom.brace ∉ d) (t : Text) :
    readDefault (spelled d ++ t) =
      (readDefault t).map (.push (spelled d) (unescaped defaultMarks d)) := by
  induction d with
  | nil => cases h : readDefault t <;> simp [h,Part.push]
  | cons a d ih =>
    have hd' : Atom.brace ≠ a ∧ Atom.brace ∉ d := by simpa using hd
    cases a with
    | plain c h =>
      have hb := Atom.plain_ne_brace hd'.1.symm
      simp only [spelled_cons,Atom.text,List.cons_append,List.nil_append,readDefault_plain h hb,
        ih hd'.2]
      cases readDefault t <;> simp [Part.push,Atom.shed]
    | pair c =>
      simp only [spelled_cons,Atom.text,List.cons_append,List.nil_append,readDefault,ih hd'.2]
      cases readDefault t <;> simp [Part.push,Atom.shed,defaultMarks]

lemma readDefault_dangling {tail : Text} (h : Dangling tail) : readDefault tail = none := by
  obtain rfl | rfl := h <;> simp [readDefault]

lemma readBody_plain {c : CodePoint} (defaults : Bool) (h : c ≠ '\\') (hb : c ≠ '}')
    (hs : defaults = true → c ≠ ':') (t : Text) :
    readBody defaults (c :: t) = (readBody defaults t).push [c] [c] := by
  have h' : ¬ (c = ':' ∧ defaults = true) := fun h => hs h.2 h.1
  simp [readBody,h,h']

lemma Body.push_push (s s' v v' : Text) (b : Body) :
    (b.push s' v').push s v = b.push (s ++ s') (v ++ v') := by
  cases b <;> simp [Body.push]

/-- Units that hold neither a closing brace nor a separator belong to the name. -/
theorem readBody_spelled {defaults : Bool} {n : List Atom} (hb : Atom.brace ∉ n)
    (hs : defaults = true → Atom.colon ∉ n) (t : Text) :
    readBody defaults (spelled n ++ t) =
      (readBody defaults t).push (spelled n) (unescaped nameMarks n) := by
  induction n with
  | nil => cases h : readBody defaults t <;> simp [h,Body.push]
  | cons a n ih =>
    have hb' : Atom.brace ≠ a ∧ Atom.brace ∉ n := by simpa using hb
    have hs' : defaults = true → Atom.colon ≠ a ∧ Atom.colon ∉ n := by simpa using hs
    have ih := ih hb'.2 fun hd => (hs' hd).2
    cases a with
    | plain c h =>
      have hp := Atom.plain_ne_brace hb'.1.symm
      have hc := fun hd => Atom.plain_ne_colon (hs' hd).1.symm
      simp only [spelled_cons,Atom.text,List.cons_append,List.nil_append,
        readBody_plain defaults h hp hc,ih,Body.push_push]
      rfl
    | pair c =>
      simp only [spelled_cons,Atom.text,List.cons_append,List.nil_append,readBody,ih,
        Body.push_push]
      by_cases hc : c = ':' <;> simp [Atom.shed,nameMarks,hc]

lemma readBody_dangling {tail : Text} (defaults : Bool) (h : Dangling tail) :
    readBody defaults tail = .cut tail := by
  obtain rfl | rfl := h <;> simp [readBody,Body.push]

lemma readBody_brace (defaults : Bool) (t : Text) :
    readBody defaults ('}' :: t) = .closed ['}'] [] none t := by simp [readBody]

/-- Behind the name and a separator the default is read up to its own end. -/
lemma readBody_parted {n : List Atom} (hb : Atom.brace ∉ n) (hn : Atom.colon ∉ n) (d : List Atom)
    (t : Text) :
    readBody true (spelled (n ++ Atom.colon :: d) ++ t) =
      match readDefault (spelled d ++ t) with
      | some p => .closed (spelled n ++ (':' :: p.source : Text)) (unescaped nameMarks n)
          (some p.value) p.rest
      | none => .cut (unescaped nameMarks n ++ (':' :: (spelled d ++ t) : Text)) := by
  have hs : spelled (n ++ Atom.colon :: d) ++ t = spelled n ++ (':' :: (spelled d ++ t) : Text) := by
    simp [Atom.colon,Atom.text]
  rw [hs,readBody_spelled hb fun _ => hn]
  cases h : readDefault (spelled d ++ t) <;> simp [readBody,h,Body.push]

lemma brace_not_mem_parted {n d : List Atom} (h : Atom.brace ∉ n ++ Atom.colon :: d) :
    Atom.brace ∉ n ∧ Atom.brace ∉ d := by
  simp only [List.mem_append,List.mem_cons,not_or] at h
  exact ⟨h.1,h.2.2⟩

/-- A body ends at the first closing brace among its units. -/
theorem readBody_closed {defaults : Bool} {b n : List Atom} {f : Option (List Atom)}
    (hb : Atom.brace ∉ b) (hd : Division defaults b n f) (t : Text) :
    readBody defaults (spelled b ++ ('}' :: t : Text)) =
      .closed (spelled b ++ (['}'] : Text)) (unescaped nameMarks n)
        (f.map (unescaped defaultMarks)) t := by
  cases hd with
  | whole h => simp [readBody_spelled hb h,readBody_brace,Body.push]
  | @parted n d hdef hn =>
    obtain ⟨hbn,hbd⟩ := brace_not_mem_parted hb
    have hread : readDefault (spelled d ++ ('}' :: t : Text)) =
        some ⟨spelled d ++ (['}'] : Text),unescaped defaultMarks d,t⟩ := by
      rw [readDefault_spelled hbd]
      simp [readDefault,Part.push]
    subst hdef
    rw [readBody_parted hbn hn,hread]
    simp [Atom.colon,Atom.text]

/-- Without a closing brace the backslashes before separators in the name are lost, and nothing else. -/
theorem readBody_cut {defaults : Bool} {b n : List Atom} {f : Option (List Atom)} {tail : Text}
    (hb : Atom.brace ∉ b) (hd : Division defaults b n f) (ht : Dangling tail) :
    readBody defaults (spelled b ++ tail) =
      .cut (unescaped nameMarks n ++ (raw f ++ tail)) := by
  cases hd with
  | whole h => simp [readBody_spelled hb h,readBody_dangling _ ht,Body.push,raw]
  | @parted n d hdef hn =>
    obtain ⟨hbn,hbd⟩ := brace_not_mem_parted hb
    have hread : readDefault (spelled d ++ tail) = none := by
      rw [readDefault_spelled hbd,readDefault_dangling ht]
      rfl
    subst hdef
    rw [readBody_parted hbn hn,hread]
    simp [raw]

end ShellTemplate.Template
