import Mathlib.Tactic.Lemma
import Mathlib.Tactic.SplitIfs
import ShellTemplate.Template.Pass

/-! The pass over a template is the cut into tokens with each piece filled in turn. The pass looks values
up while it reads, and the cut never sees a value, so the two agree only because nothing that is written
is read again. -/
namespace ShellTemplate.Template

/-- What stands for the pieces of a template, each slot filled when its turn comes. -/
def fill (ask : Lookup) : List Piece → Expansion
  | [] => ⟨[], [], .ok []⟩
  | .copy t :: ps => (fill ask ps).after [] [] t
  | .slot s :: ps =>
    match ask [] s.key with
    | .value v => (fill (ask.after [s.key]) ps).after [s.key] [] v.shown
    | .failure f => ⟨[s.key], [], .error f⟩
    | .absent =>
      match s.fallback with
      | some d => (fill (ask.after [s.key]) ps).after [s.key] [] d
      | none => (fill (ask.after [s.key]) ps).after [s.key] [s] s.unresolved

/-- The pieces of a template, in order. -/
def pieces (sw : Switches) (t : Text) : List Piece := (tokens sw t).map Token.piece

@[simp] lemma pieces_nil (sw : Switches) : pieces sw [] = [] := by simp [pieces,tokens]

lemma pieces_cons (sw : Switches) (c : CodePoint) (t : Text) :
    pieces sw (c :: t) = (readToken sw c t).1.piece :: pieces sw (readToken sw c t).2 := by
  simp [pieces,tokens]

/-- A piece put in after a pass has come this far, and the rest of the template after it. -/
def put (sw : Switches) (ask : Lookup) (p : Progress) (piece : Piece) (rest : Text) : Expansion :=
  match piece with
  | .copy t => resume sw ask (.outside,p.write t) rest
  | .slot s => proceed sw ask (close ask s p) rest

/-- A pass that stops in the middle of something copies what it has read of it. -/
lemma resume_cut (sw : Switches) (ask : Lookup) (r : Reading) (p : Progress) :
    resume sw ask (r,p) [] = put sw ask p (.copy r.cut) [] := by
  simp [put,resume_nil,Reading.cut]

lemma resume_backslash (sw : Switches) (ask : Lookup) (p : Progress) (t : Text) :
    resume sw ask (.backslash,p) t = put sw ask p (readBackslash t).1.piece (readBackslash t).2 := by
  cases t with
  | nil => exact resume_cut sw ask .backslash p
  | cons c t => simp [resume_cons,step,readBackslash,put]

lemma resume_percent (sw : Switches) (ask : Lookup) (p : Progress) (name t : Text) :
    resume sw ask (.percent name,p) t =
      match t.dropWhile Text.isAlphanumeric with
      | [] => put sw ask p (.copy ('%' :: (name ++ t))) []
      | c :: r =>
        let name := name ++ t.takeWhile Text.isAlphanumeric
        if c = '%' then put sw ask p (if name = [] then .copy ['%'] else .slot ⟨.dos,name,none⟩) r
        else put sw ask p (.copy ('%' :: name)) (c :: r) := by
  induction t generalizing name with
  | nil => simp [resume_cut,Reading.cut]
  | cons c t ih =>
    rw [resume_cons]
    by_cases hp : c = '%'
    · have hn : Text.isAlphanumeric '%' = false := by decide
      subst c
      by_cases h : name = []
      · simp [step,h,hn,put]
      · simp [step,h,hn,put]
    by_cases ha : Text.isAlphanumeric c
    · simp [step,hp,ha,ih]
    · simp [step,hp,ha,put,resume_cons]

lemma resume_fallback (sw : Switches) (ask : Lookup) (p : Progress) (name value source t : Text) :
    resume sw ask (.fallback name value source false,p) t =
      match readDefault t with
      | some d => put sw ask p (.slot ⟨.sh,Text.trim name,some (value ++ d.value)⟩) d.rest
      | none => put sw ask p (.copy ('$' :: '{' :: (name ++ (source ++ t)))) [] := by
  fun_induction readDefault t generalizing value source with
  | case1 => simp [resume_cut,Reading.cut]
  | case2 t => simp [resume_cons,step,put]
  | case3 c t ih =>
    have h : resume sw ask (.fallback name value source false,p) ('\\' :: c :: t) =
        resume sw ask (.fallback name (value ++ (if c = '{' ∨ c = '}' then [c] else ['\\',c] : Text))
          (source ++ (['\\',c] : Text)) false,p) t := by
      simp [resume_cons,step]
    rw [h,ih]
    cases readDefault t <;> simp [Part.push]
  | case4 c t hc hb ih =>
    by_cases he : c = '\\'
    · -- a backslash that ends the template has no character to take with it
      subst c
      cases t with
      | nil => simp [resume_cons,step,readDefault,resume_cut,Reading.cut]
      | cons d t => exact absurd rfl (hb d t rfl)
    have h : resume sw ask (.fallback name value source false,p) (c :: t) =
        resume sw ask (.fallback name (value ++ [c]) (source ++ [c]) false,p) t := by
      simp [resume_cons,step,he,show c ≠ '}' from hc]
    rw [h,ih]
    cases readDefault t <;> simp [Part.push]

lemma resume_braced (sw : Switches) (ask : Lookup) (p : Progress) (name t : Text) :
    resume sw ask (.braced name false,p) t =
      match readBody sw.defaults t with
      | .closed _ key fallback rest =>
        put sw ask p (.slot ⟨.sh,Text.trim (name ++ key),fallback⟩) rest
      | .cut copied => put sw ask p (.copy ('$' :: '{' :: (name ++ copied))) [] := by
  fun_induction readBody sw.defaults t generalizing name with
  | case1 => simp [resume_cut,Reading.cut]
  | case2 t => simp [resume_cons,step,put]
  | case3 c t ih =>
    have h : resume sw ask (.braced name false,p) ('\\' :: c :: t) =
        resume sw ask (.braced (name ++ (if c = ':' then [':'] else ['\\',c] : Text)) false,p) t := by
      simp [resume_cons,step]
    rw [h,ih]
    cases readBody sw.defaults t <;> simp [Body.push]
  | case4 c t _ _ hs d hd =>
    simp [resume_cons,step,hs.1,hs.2,resume_fallback,hd]
  | case5 c t _ _ hs hd =>
    simp [resume_cons,step,hs.1,hs.2,resume_fallback,hd]
  | case6 c t hc hb hs ih =>
    by_cases he : c = '\\'
    · subst c
      cases t with
      | nil => simp [resume_cons,step,readBody,resume_cut,Reading.cut,Body.push]
      | cons d t => exact absurd rfl (hb d t rfl)
    have h : resume sw ask (.braced name false,p) (c :: t) =
        resume sw ask (.braced (name ++ [c]) false,p) t := by
      simp [resume_cons,step,he,hs,show c ≠ '}' from hc]
    rw [h,ih]
    cases readBody sw.defaults t <;> simp [Body.push]

lemma resume_dollar (sw : Switches) (ask : Lookup) (p : Progress) (t : Text) :
    resume sw ask (.dollar,p) t =
      put sw ask p (readDollar sw.defaults t).1.piece (readDollar sw.defaults t).2 := by
  cases t with
  | nil => exact resume_cut sw ask .dollar p
  | cons c t =>
    by_cases hc : c = '{'
    · subst c
      have h : resume sw ask (.dollar,p) ('{' :: t) = resume sw ask (.braced [] false,p) t := by
        simp [resume_cons,step]
      rw [h,resume_braced]
      cases hb : readBody sw.defaults t <;> simp [readDollar,hb]
    · simp [resume_cons,step,readDollar,hc,put]

/-- Outside expressions the pass puts in the piece of the token that comes next. -/
theorem resume_outside (sw : Switches) (ask : Lookup) (p : Progress) (c : CodePoint) (t : Text) :
    resume sw ask (.outside,p) (c :: t) =
      put sw ask p (readToken sw c t).1.piece (readToken sw c t).2 := by
  rw [resume_cons]
  simp only [step,readOutside,readToken,proceed_ok]
  split_ifs with hp hd hb
  · rw [resume_percent]
    unfold readPercent
    cases hr : t.dropWhile Text.isAlphanumeric with
    | nil =>
      have ht := List.takeWhile_append_dropWhile (p := Text.isAlphanumeric) (l := t)
      rw [hr,List.append_nil] at ht
      simp [ht]
    | cons c r => by_cases hc : c = '%' <;> simp [hc]
  · exact resume_dollar sw ask p t
  · exact resume_backslash sw ask p t
  · rfl

/-- Every token of a template is what is read where it stands, in front of the tokens behind it. -/
theorem tokens_split {sw : Switches} {t : Text} {xs ys : List Token} {k : Token}
    (h : tokens sw t = xs ++ k :: ys) :
    ∃ c r, k.source ++ ys.flatMap Token.source = c :: r ∧
      readToken sw c r = (k,ys.flatMap Token.source) := by
  induction t using tokens.induct sw generalizing xs with
  | case1 => simp [tokens] at h
  | case2 c t ih =>
    rw [tokens] at h
    cases xs with
    | nil =>
      obtain ⟨rfl,rfl⟩ := List.cons.inj h
      rw [flatMap_source_tokens]
      exact ⟨c,t,readToken_append sw c t,rfl⟩
    | cons x xs => exact ih (List.cons.inj h).2

/-- At every token of a template the pass, if it is outside of everything, puts in the piece of that token
and goes on outside behind it. -/
theorem resume_token {sw : Switches} {t : Text} {xs ys : List Token} {k : Token}
    (h : tokens sw t = xs ++ k :: ys) (ask : Lookup) (p : Progress) :
    resume sw ask (.outside,p) (k.source ++ ys.flatMap Token.source) =
      put sw ask p k.piece (ys.flatMap Token.source) := by
  obtain ⟨c,r,hs,hread⟩ := tokens_split h
  rw [hs,resume_outside,hread]

/-- One piece filled in front of the rest is one piece put in by the pass. -/
lemma put_eq_fill (sw : Switches) (ask : Lookup) (p : Progress) (piece : Piece) (t : Text)
    (ih : ∀ q : Progress, resume sw ask (.outside,q) t =
      (fill (ask.after q.asked) (pieces sw t)).after q.asked q.unresolved q.written.toList) :
    put sw ask p piece t =
      (fill (ask.after p.asked) (piece :: pieces sw t)).after
        p.asked p.unresolved p.written.toList := by
  cases piece with
  | copy out =>
    simp only [put,ih,fill,Progress.write_asked,Progress.write_unresolved,
      Progress.write_written,Expansion.after_after,List.append_nil]
  | slot s =>
    have ha : ask.after p.asked [] s.key = ask p.asked s.key := by simp [Lookup.after]
    simp only [put,close,Progress.fill,fill,ha]
    cases ask p.asked s.key with
    | value v => simp [Except.map,ih,Expansion.after_after]
    | failure f => simp [Except.map,Expansion.after]
    | absent => cases s.fallback <;> simp [Except.map,ih,Expansion.after_after]

/-- From any point outside expressions, the rest of the pass fills the pieces of the rest. -/
theorem resume_eq_fill (sw : Switches) (ask : Lookup) (p : Progress) (t : Text) :
    resume sw ask (.outside,p) t =
      (fill (ask.after p.asked) (pieces sw t)).after p.asked p.unresolved p.written.toList := by
  induction t using tokens.induct sw generalizing p with
  | case1 => simp [resume_nil,Reading.cut,Progress.finish,fill,Expansion.after,Except.map]
  | case2 c t ih =>
    rw [resume_outside,pieces_cons]
    exact put_eq_fill sw ask p _ _ ih

/-- The whole pass fills the pieces of the whole template. -/
theorem expandWith_eq_fill (sw : Switches) (ask : Lookup) (t : Text) :
    expandWith sw ask t = fill ask (pieces sw t) := by
  unfold expandWith
  rw [resume_eq_fill]
  simp

end ShellTemplate.Template
