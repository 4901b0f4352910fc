import ShellTemplate.Proofs.Template.Composition
import ShellTemplate.Proofs.Template.Grammar
import ShellTemplate.Proofs.Template.Quoting

/-! What each switch changes. A switch has a say only where the marks of its own style stand, so that a
template without them is read alike with it and without. Names between two `%` can be kept out of a
template in two ways: by the switch, or by writing twice each `%` that a pass without them finds outside of
everything. A `%` that a backslash or a `$` has taken, or that stands between braces, is not one of
those. -/
namespace ShellTemplate.Template

section
variable {sw sw' : Switches} {source rest t : Text} {piece : Piece} {ps : List Piece}

/-- A template is cut alike where each of its tokens is read alike. -/
lemma Cut.other (h : Cut sw t ps) (hreads : ∀ source piece rest, source ++ rest <:+ t →
    Reads sw source piece rest → Reads sw' source piece rest) : Cut sw' t ps := by
  induction h with
  | nil => exact .nil
  | cons head _ ih =>
    refine .cons (hreads _ _ _ List.suffix_rfl head) (ih fun source piece rest hs => ?_)
    exact hreads source piece rest (hs.trans (List.suffix_append _ _))

lemma expandWith_other (hreads : ∀ source piece rest, source ++ rest <:+ t →
    Reads sw source piece rest → Reads sw' source piece rest) (ask : Lookup) :
    expandWith sw' ask t = expandWith sw ask t := by
  have hcut := (cut_iff sw' t _).1 (((cut_iff sw t _).2 rfl).other hreads)
  rw [expandWith_eq_fill,expandWith_eq_fill,hcut]

/-- What stands in no text stands in no token of it. -/
lemma not_mem_source {c : CodePoint} (hc : c ∉ t) (hs : source ++ rest <:+ t) : c ∉ source :=
  fun hm => hc (hs.subset (List.mem_append_left _ hm))

lemma colon_not_mem {b : List Atom} (h : (':' : CodePoint) ∉ spelled b) : Atom.colon ∉ b :=
  fun hm => h (List.mem_flatMap.2 ⟨_,hm,List.mem_singleton_self _⟩)

/-- The switch for defaults has a say in expressions in braces, where a separator stands. -/
lemma Reads.with_defaults (h : Reads sw source piece rest) (hc : sw.sh = true → (':' : CodePoint) ∉ source)
    (defaults : Bool) : Reads { sw with defaults } source piece rest := by
  have hdivision : ∀ {b n : List Atom} {f : Option (List Atom)}, Division sw.defaults b n f →
      Atom.colon ∉ b → Division defaults b n f := by
    intro b n f hd hb
    cases hd with
    | whole => exact .whole fun _ => hb
    | parted => exact absurd (by simp) hb
  cases h with
  | escapedDollar h => exact .escapedDollar h
  | escapedOther h hx => exact .escapedOther h hx
  | lastBackslash h => exact .lastBackslash h
  | doublePercent h => exact .doublePercent h
  | percentName h hw ha => exact .percentName h hw ha
  | percentCopied h ha hr => exact .percentCopied h ha hr
  | lastDollar h => exact .lastDollar h
  | dollarOther h hx => exact .dollarOther h hx
  | @expression b _ _ _ h hb hd =>
    have hcolon : (':' : CodePoint) ∉ spelled b := fun hm => hc h (by simp [hm])
    exact .expression h hb (hdivision hd (colon_not_mem hcolon))
  | @unclosed b _ _ _ h hb hd ht =>
    have hcolon : (':' : CodePoint) ∉ spelled b := fun hm => hc h (by simp [hm])
    exact .unclosed h hb (hdivision hd (colon_not_mem hcolon)) ht
  | other hd hs => exact .other hd hs

/-- The switch for names between two `%` has a say where one of these stands, -/
lemma Reads.with_dos (h : Reads sw source piece rest) (hc : ('%' : CodePoint) ∉ source) (dos : Bool) :
    Reads { sw with dos } source piece rest := by
  cases h with
  | escapedDollar h => exact .escapedDollar h
  | escapedOther h hx => exact .escapedOther h hx
  | lastBackslash h => exact .lastBackslash h
  | doublePercent | percentName | percentCopied => exact absurd List.mem_cons_self hc
  | lastDollar h => exact .lastDollar h
  | dollarOther h hx => exact .dollarOther h hx
  | expression h hb hd => exact .expression h hb hd
  | unclosed h hb hd ht => exact .unclosed h hb hd ht
  | other _ hs => exact .other (fun he => absurd (he ▸ List.mem_cons_self) hc) hs

/-- and that for expressions in braces, where a `$` or a backslash does. -/
lemma Reads.with_sh (h : Reads sw source piece rest) (hd : ('$' : CodePoint) ∉ source)
    (hb : ('\\' : CodePoint) ∉ source)
    (sh : Bool) : Reads { sw with sh } source piece rest := by
  cases h with
  | escapedDollar | escapedOther | lastBackslash => exact absurd List.mem_cons_self hb
  | doublePercent h => exact .doublePercent h
  | percentName h hw ha => exact .percentName h hw ha
  | percentCopied h ha hr => exact .percentCopied h ha hr
  | lastDollar | dollarOther | expression | unclosed => exact absurd List.mem_cons_self hd
  | other hp _ =>
    refine .other hp fun hc => ?_
    obtain rfl | rfl := hc
    · exact absurd List.mem_cons_self hd
    · exact absurd List.mem_cons_self hb

end

/-- With both styles off a template is its own expansion. -/
lemma expandWith_off {sw : Switches} (hsh : sw.sh = false) (hdos : sw.dos = false) (ask : Lookup)
    (t : Text) : expandWith sw ask t = ⟨[],[],.ok t⟩ := by
  have hstep : ∀ c ∈ t, ∀ p, pass sw ask (.outside,p) [c] = .ok (.outside,p.write [c]) := by
    intro c _ p
    simp [pass_cons,step,readOutside,hsh,hdos,Except.bind]
  have hp := pass_flatMap hstep {}
  simp only [List.flatMap_singleton'] at hp
  rw [expandWith,resume,hp]
  exact finish_write t

/-- What follows a text, with each `%` written twice that a pass finds outside of everything. -/
def doubledBehind (sw : Switches) (a : Text) : Text → Text
  | [] => []
  | c :: t =>
    (if c = '%' ∧ SelfContained sw a then ['%','%'] else [c] : Text) ++ doubledBehind sw (a ++ [c]) t

/-- The template with each `%` written twice that is copied as it is, and not as a part of something, where
names between two `%` are not admitted. -/
def percentsDoubled (sw : Switches) (t : Text) : Text := doubledBehind { sw with dos := false } [] t

section
variable {sw : Switches} {ask : Lookup} {r r' : Reading} {p p' : Progress}

/-- Where a pass has come is where every pass over the text behind it has come. -/
lemma selfContained_of_pass {a : Text} (h : pass sw ask (.outside,{}) a = .ok (r,p)) :
    SelfContained sw a ↔ r = .outside := by
  refine ⟨fun hs => hs ask r p h,?_⟩
  rintro rfl ask' r' p' h'
  exact pass_reading h' h

lemma Moves.ne_percent (hdos : sw.dos = false) (hr : ∀ name, r ≠ .percent name) {c : CodePoint} {u : Text}
    (h : Moves sw r c r' u) (name : Text) : r' ≠ .percent name := by
  cases h with
  | opened ho =>
    rintro rfl
    cases ho with
    | percent hd => exact Bool.false_ne_true (hdos.symm.trans hd)
  | letter => exact absurd rfl (hr _)
  | stopped => exact absurd rfl (hr _)
  | _ => simp

/-- Where names between two `%` are not admitted, no pass is in one. -/
lemma pass_ne_percent (hdos : sw.dos = false) {t : Text} (hr : ∀ name, r ≠ .percent name)
    (h : pass sw ask (r,p) t = .ok (r',p')) (name : Text) : r' ≠ .percent name := by
  induction t generalizing r p with
  | nil =>
    cases h
    exact hr name
  | cons c t ih =>
    rw [pass_cons] at h
    cases hs : step sw ask (r,p) c with
    | error e =>
      rw [hs] at h
      cases h
    | ok s =>
      obtain ⟨r₁,p₁⟩ := s
      rw [hs] at h
      obtain ⟨u,hm,-⟩ | ⟨k,-,rfl⟩ := step_cases hs
      · exact ih (hm.ne_percent hdos hr) h
      · exact ih (fun _ => by simp) h

/-- Away from a name between two `%`, the switch for them has a say only at a `%` outside of everything. -/
lemma step_dos (hr : ∀ name, r ≠ .percent name) {c : CodePoint} (hc : r = .outside → c ≠ '%') :
    step { sw with dos := true } ask (r,p) c = step { sw with dos := false } ask (r,p) c := by
  cases r with
  | outside => simp [step,readOutside,hc rfl]
  | percent name => exact absurd rfl (hr name)
  | braced name escaped => cases escaped <;> rfl
  | fallback name value source escaped => cases escaped <;> rfl
  | _ => rfl

/-- The pass over the doubled text is always where the other pass is, which goes without names between two
`%` over the text itself: it takes two characters for one where that one is a `%` outside of everything, and
writes the same for them. -/
theorem resume_doubledBehind {a : Text}
    (h : pass { sw with dos := false } ask (.outside,{}) a = .ok (r,p)) (t : Text) :
    resume { sw with dos := true } ask (r,p) (doubledBehind { sw with dos := false } a t) =
      resume { sw with dos := false } ask (r,p) t := by
  have hr : ∀ name, r ≠ .percent name := pass_ne_percent rfl (fun _ => by simp) h
  induction t generalizing a r p with
  | nil => rfl
  | cons c t ih =>
    have hnext : ∀ r' p', step { sw with dos := false } ask (r,p) c = .ok (r',p') →
        resume { sw with dos := true } ask (r',p')
            (doubledBehind { sw with dos := false } (a ++ [c]) t) =
          resume { sw with dos := false } ask (r',p') t := by
      intro r' p' hs
      have hpass : pass { sw with dos := false } ask (.outside,{}) (a ++ [c]) = .ok (r',p') := by
        rw [pass_append,h]
        simp [Except.bind,pass_cons,hs]
      exact ih hpass (pass_ne_percent rfl (fun _ => by simp) hpass)
    rw [doubledBehind,resume_cons { sw with dos := false }]
    by_cases hc : c = '%' ∧ SelfContained { sw with dos := false } a
    · obtain ⟨rfl,hself⟩ := hc
      obtain rfl := (selfContained_of_pass h).1 hself
      have hoff : step { sw with dos := false } ask (.outside,p) '%' =
          .ok (.outside,p.write ['%']) := by
        simp [step,readOutside]
      have hon : pass { sw with dos := true } ask (.outside,p) ['%','%'] =
          .ok (.outside,p.write ['%']) := by
        simp [pass_cons,step,readOutside,Except.bind]
      rw [if_pos ⟨rfl,hself⟩,resume_append,hon,hoff]
      exact hnext _ _ hoff
    · have hmark : r = .outside → c ≠ '%' :=
        fun ho hp => hc ⟨hp,(selfContained_of_pass h).2 ho⟩
      rw [if_neg hc,List.singleton_append,resume_cons,step_dos hr hmark]
      cases hs : step { sw with dos := false } ask (r,p) c with
      | error e => rfl
      | ok s => exact hnext s.1 s.2 hs

end

/-- From every context, the switch for defaults makes no difference without expressions in braces or
without a separator in the template, that for names between two `%` none without a `%`, and that for
expressions in braces none without a `$` and a backslash; with both styles off the template comes out as it
is, with no key asked for and nothing logged. And names between two `%` are switched off by writing twice
each `%` that stands outside of everything without them. -/
theorem switches_apart (sw : Switches) (ask : Lookup) (t : Text) :
    (sw.sh = false → ∀ defaults, expandWith { sw with defaults } ask t = expandWith sw ask t) ∧
    ((':' : CodePoint) ∉ t → ∀ defaults, expandWith { sw with defaults } ask t = expandWith sw ask t) ∧
    (('%' : CodePoint) ∉ t → ∀ dos, expandWith { sw with dos } ask t = expandWith sw ask t) ∧
    (('$' : CodePoint) ∉ t → ('\\' : CodePoint) ∉ t →
      ∀ sh, expandWith { sw with sh } ask t = expandWith sw ask t) ∧
    (sw.sh = false → sw.dos = false →
      let e := expandWith sw ask t
      e.outcome = .ok t ∧ e.asked = [] ∧ e.notices = []) ∧
    expandWith { sw with dos := false } ask t =
      expandWith { sw with dos := true } ask (percentsDoubled sw t) := by
  refine ⟨?_,?_,?_,?_,?_,?_⟩
  · intro hsh defaults
    exact expandWith_other (fun _ _ _ _ h => h.with_defaults (fun hon => by simp [hsh] at hon) _) ask
  · intro hc defaults
    exact expandWith_other (fun _ _ _ hs h => h.with_defaults (fun _ => not_mem_source hc hs) _) ask
  · intro hc dos
    exact expandWith_other (fun _ _ _ hs h => h.with_dos (not_mem_source hc hs) _) ask
  · intro hd hb sh
    exact expandWith_other
      (fun _ _ _ hs h => h.with_sh (not_mem_source hd hs) (not_mem_source hb hs) _) ask
  · intro hsh hdos
    simp [expandWith_off hsh hdos ask t,Expansion.notices]
  · exact (resume_doubledBehind (pass_nil _ ask _) t).symm

/-- Templates that lack the marks of one style each; and one with a `%` outside of everything, one behind a
backslash, one behind a `$`, one between braces and one at the end. -/
theorem apart_on_marks :
    let ask : Lookup := .steady fun k => if k = (['b'] : Text) then .absent else .value (.text ['v'])
    let t : Text := ['%','\\','%','$','%','$','{','b',':','%','}','%']
    expandWith { sh := false, defaults := false } ask ['%','a','%','$','{','b',':','c','}'] =
      expandWith { sh := false } ask ['%','a','%','$','{','b',':','c','}'] ∧
    expandWith { defaults := false } ask ['%','a','%','$','{','b','}'] =
      expandWith {} ask ['%','a','%','$','{','b','}'] ∧
    expandWith { dos := false } ask ['$','{','b',':','c','}'] =
      expandWith {} ask ['$','{','b',':','c','}'] ∧
    expandWith { sh := false } ask ['%','a',':','b','%','}'] =
      expandWith {} ask ['%','a',':','b','%','}'] ∧
    (expandWith { sh := false, dos := false } ask t).outcome = .ok t ∧
    percentsDoubled {} t = (['%','%','\\','%','$','%','$','{','b',':','%','}','%','%'] : Text) ∧
    expandWith { dos := false } ask t = expandWith {} ask (percentsDoubled {} t) ∧
    (expandWith { dos := false } ask t).outcome = .ok ['%','\\','%','$','%','%','%'] := by
  intro ask t
  have ht := switches_apart { sh := false, dos := false } ask t
  exact ⟨(switches_apart { sh := false } ask _).1 rfl false,
    (switches_apart {} ask _).2.1 (by decide) false,
    (switches_apart {} ask _).2.2.1 (by decide) false,
    (switches_apart {} ask _).2.2.2.1 (by decide) (by decide) false,
    (ht.2.2.2.2.1 rfl rfl).1,by decide,(switches_apart {} ask t).2.2.2.2.2,by rfl⟩

end ShellTemplate.Template
