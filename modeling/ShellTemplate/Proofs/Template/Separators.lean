import ShellTemplate.Proofs.Template.Grammar
import ShellTemplate.Proofs.Template.Units

/-! Templates that were written for a reading without defaults. With a backslash before every separator
in a body they mean with defaults what they meant without, since that backslash is taken off a name
again and a separator behind a backslash begins no default. -/
namespace ShellTemplate.Template

/-- The text of a token with a backslash before every separator in its body that has none, if it begins
as an expression in braces. -/
def separatedSource : Text → Text
  | '$' :: '{' :: body => '$' :: '{' :: guarded nameMarks body
  | source => source

/-- The template with a backslash before every separator that stands without one in the body of an
expression, complete or cut off, as it is read without defaults. -/
def separated (dos : Bool) (t : Text) : Text :=
  (tokens ⟨true,false,dos⟩ t).flatMap fun k => separatedSource k.source

@[simp] lemma separated_nil (dos : Bool) : separated dos [] = [] := by simp [separated,tokens]

lemma separated_cons (dos : Bool) (c : CodePoint) (t : Text) :
    separated dos (c :: t) =
      separatedSource (readToken ⟨true,false,dos⟩ c t).1.source ++
        separated dos (readToken ⟨true,false,dos⟩ c t).2 := by
  simp [separated,tokens]

lemma head?_separatedSource (source : Text) : (separatedSource source).head? = source.head? := by
  unfold separatedSource
  split <;> rfl

/-- What comes next begins as it did. -/
lemma head?_separated (dos : Bool) (t : Text) : (separated dos t).head? = t.head? := by
  cases t with
  | nil => simp
  | cons c t =>
    have happ := readToken_append ⟨true,false,dos⟩ c t
    have hne := readToken_source_ne_nil ⟨true,false,dos⟩ c t
    rw [separated_cons,← happ,List.head?_append,List.head?_append,head?_separatedSource]
    cases hs : (readToken ⟨true,false,dos⟩ c t).1.source with
    | nil => exact absurd hs hne
    | cons d s => rfl

lemma separatedSource_closed (b : List Atom) :
    separatedSource ('$' :: '{' :: (spelled b ++ (['}'] : Text))) =
      ('$' :: '{' :: (spelled (b.map (Atom.guard nameMarks)) ++ (['}'] : Text)) : Text) := by
  have hb : guarded nameMarks ['}'] = (['}'] : Text) := rfl
  rw [separatedSource,guarded_spelled_append,hb]

lemma separatedSource_cut (b : List Atom) {tail : Text} (h : Dangling tail) :
    separatedSource ('$' :: '{' :: (spelled b ++ tail)) =
      ('$' :: '{' :: (spelled (b.map (Atom.guard nameMarks)) ++ tail) : Text) := by
  have ht : guarded nameMarks tail = tail := by
    obtain rfl | rfl := h <;> rfl
  rw [separatedSource,guarded_spelled_append,ht]

/-- What a rule reads without defaults, it reads with them where the separators have backslashes. -/
theorem Reads.separated {dos : Bool} {source rest : Text} {piece : Piece}
    (h : Reads ⟨true,false,dos⟩ source piece rest) :
    Reads ⟨true,true,dos⟩ (separatedSource source) piece rest := by
  have hbrace : ∀ {b : List Atom}, Atom.brace ∉ b →
      Atom.brace ∉ b.map (Atom.guard nameMarks) := fun hb hm => hb (plain_mem_of_guard hm)
  have hname : ∀ b : List Atom, Division true (b.map (Atom.guard nameMarks))
      (b.map (Atom.guard nameMarks)) none :=
    fun b => .whole fun _ => plain_not_mem_guard (by simp [nameMarks]) _ _
  have hshed : ∀ b : List Atom, unescaped nameMarks b =
      unescaped nameMarks (b.map (Atom.guard nameMarks)) :=
    fun b => (unescaped_map_guard (fun c hc => hc) b).symm
  cases h with
  | escapedDollar => exact .escapedDollar rfl
  | escapedOther _ hx => exact .escapedOther rfl hx
  | lastBackslash => exact .lastBackslash rfl
  | doublePercent hd => exact .doublePercent hd
  | percentName hd hw ha => exact .percentName hd hw ha
  | percentCopied hd ha hr => exact .percentCopied hd ha hr
  | lastDollar => exact .lastDollar rfl
  | dollarOther _ hx => simpa [separatedSource,hx] using Reads.dollarOther rfl hx
  | @expression b n f _ _ hb hd =>
    obtain ⟨rfl,rfl⟩ := hd.without
    rw [separatedSource_closed,hshed]
    exact .expression rfl (hbrace hb) (hname n)
  | @unclosed b n f tail _ hb hd ht =>
    obtain ⟨rfl,rfl⟩ := hd.without
    rw [separatedSource_cut n ht,hshed]
    exact .unclosed rfl (hbrace hb) (hname n) ht
  | @other c _ hd hs =>
    have ho : Reads ⟨true,true,dos⟩ [c] (.copy [c]) rest := .other hd hs
    simpa [separatedSource] using ho

/-- With defaults the separated template has the pieces that the template has without. -/
theorem cut_separated (dos : Bool) (t : Text) :
    Cut ⟨true,true,dos⟩ (separated dos t) (pieces ⟨true,false,dos⟩ t) := by
  induction t using tokens.induct ⟨true,false,dos⟩ with
  | case1 => simpa using Cut.nil
  | case2 c t ih =>
    rw [separated_cons,pieces_cons]
    refine .cons ((readToken_reads _ c t).before ?_ ?_).separated ih
    · intro hr
      simp [hr]
    · intro _
      exact head?_separated dos _

/-- With a backslash before every separator that stands without one in a body, a template gives with
defaults what it gives without them: from every context the same text or the same failure, the same keys
in the same order and the same log. -/
theorem expandWith_separated (dos : Bool) (ask : Lookup) (t : Text) :
    expandWith ⟨true,true,dos⟩ ask (separated dos t) = expandWith ⟨true,false,dos⟩ ask t := by
  have h := (cut_iff _ _ _).1 (cut_separated dos t)
  rw [expandWith_eq_fill,expandWith_eq_fill,h]

/-- The separators in a complete body and in one that is cut off, but not one behind a backslash or
outside. -/
example : separated true ['a',':','$','{','b',':','\\',':','}','$',':','$','{','c',':'] =
    (['a',':','$','{','b','\\',':','\\',':','}','$',':','$','{','c','\\',':'] : Text) := by
  cbv

end ShellTemplate.Template
