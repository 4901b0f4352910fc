import Mathlib.Data.List.TakeWhile
import ShellTemplate.Proofs.Template.Atom
import ShellTemplate.Proofs.Template.Filling

/-! The grammar of templates, as rules. A template is read from left to right, one rule at a time, and in
one way only; what the pass gives out is what the rules say, with the slots filled in order. -/
namespace ShellTemplate.Template

/-- `Reads sw source piece rest`: in front of `rest` the stretch `source` is one token, and `piece` stands
for it. Units of a body are counted from behind `${`. -/
inductive Reads (sw : Switches) : Text → Piece → Text → Prop
  | escapedDollar {rest} (h : sw.sh) : Reads sw ['\\','$'] (.copy ['$']) rest
  | escapedOther {x : CodePoint} {rest} (h : sw.sh) (hx : x ≠ '$') : Reads sw ['\\',x] (.copy ['\\',x]) rest
  | lastBackslash (h : sw.sh) : Reads sw ['\\'] (.copy ['\\']) []
  | doublePercent {rest} (h : sw.dos) : Reads sw ['%','%'] (.copy ['%']) rest
  | percentName {w rest : Text} (h : sw.dos) (hw : w ≠ []) (ha : ∀ c ∈ w, Text.isAlphanumeric c) :
      Reads sw ('%' :: (w ++ (['%'] : Text))) (.slot ⟨.dos,w,none⟩) rest
  | percentCopied {w rest : Text} (h : sw.dos) (ha : ∀ c ∈ w, Text.isAlphanumeric c)
      (hr : ∀ c ∈ rest.head?, c ≠ '%' ∧ ¬ Text.isAlphanumeric c) :
      Reads sw ('%' :: w) (.copy ('%' :: w)) rest
  | lastDollar (h : sw.sh) : Reads sw ['$'] (.copy ['$']) []
  | dollarOther {x : CodePoint} {rest} (h : sw.sh) (hx : x ≠ '{') : Reads sw ['$',x] (.copy ['$',x]) rest
  | expression {b n f rest} (h : sw.sh) (hb : Atom.brace ∉ b) (hd : Division sw.defaults b n f) :
      Reads sw ('$' :: '{' :: (spelled b ++ (['}'] : Text)))
        (.slot ⟨.sh,Text.trim (unescaped nameMarks n),f.map (unescaped defaultMarks)⟩) rest
  | unclosed {b n f tail} (h : sw.sh) (hb : Atom.brace ∉ b) (hd : Division sw.defaults b n f)
      (ht : Dangling tail) :
      Reads sw ('$' :: '{' :: (spelled b ++ tail))
        (.copy ('$' :: '{' :: (unescaped nameMarks n ++ (raw f ++ tail)))) []
  | other {c : CodePoint} {rest} (hd : c = '%' → ¬ sw.dos) (hs : c = '$' ∨ c = '\\' → ¬ sw.sh) :
      Reads sw [c] (.copy [c]) rest

/-- The pieces of a template by the rules, from left to right. -/
inductive Cut (sw : Switches) : Text → List Piece → Prop
  | nil : Cut sw [] []
  | cons {source piece rest ps} (head : Reads sw source piece rest) (tail : Cut sw rest ps) :
      Cut sw (source ++ rest) (piece :: ps)

lemma percent_not_alphanumeric : ¬ Text.isAlphanumeric '%' := by decide

/-- A run of letters and numbers that nothing lengthens is the one that is read behind a `%`. -/
lemma readPercent_run {w rest : Text} (ha : ∀ c ∈ w, Text.isAlphanumeric c)
    (hr : ∀ c ∈ rest.head?, ¬ Text.isAlphanumeric c) :
    readPercent (w ++ rest) =
      match rest with
      | [] => (⟨'%' :: w,.copy ('%' :: w),false⟩,[])
      | c :: r =>
        if c = '%' then
          (⟨'%' :: (w ++ (['%'] : Text)),if w = [] then .copy ['%'] else .slot ⟨.dos,w,none⟩,true⟩,r)
        else (⟨'%' :: w,.copy ('%' :: w),true⟩,c :: r) := by
  have hd : (w ++ rest).dropWhile Text.isAlphanumeric = rest := by
    rw [List.dropWhile_append_of_pos ha]
    cases rest with
    | nil => rfl
    | cons c r => simp [hr c rfl]
  have ht : (w ++ rest).takeWhile Text.isAlphanumeric = w := by
    rw [List.takeWhile_append_of_pos ha]
    cases rest with
    | nil => simp
    | cons c r => simp [hr c rfl]
  unfold readPercent
  rw [ht,hd]
  cases rest <;> rfl

/-- What a rule reads is what comes next. -/
lemma Reads.readToken_eq {sw : Switches} {source rest : Text} {piece : Piece}
    (h : Reads sw source piece rest) :
    ∃ c t fin, source ++ rest = c :: t ∧ readToken sw c t = (⟨source,piece,fin⟩,rest) := by
  cases h with
  | escapedDollar h =>
    exact ⟨'\\','$' :: rest,true,rfl,by simp [readToken,h,readBackslash]⟩
  | @escapedOther x _ h hx =>
    exact ⟨'\\',x :: rest,true,rfl,by simp [readToken,h,readBackslash,hx]⟩
  | lastBackslash h => exact ⟨'\\',[],false,rfl,by simp [readToken,h,readBackslash]⟩
  | doublePercent h =>
    refine ⟨'%','%' :: rest,true,rfl,?_⟩
    have hread := @readPercent_run [] ('%' :: rest) (by simp)
      (by simp [percent_not_alphanumeric])
    simpa [readToken,h] using hread
  | @percentName w _ h hw ha =>
    refine ⟨'%',w ++ ('%' :: rest : Text),true,by simp,?_⟩
    have hread := @readPercent_run w ('%' :: rest) ha (by simp [percent_not_alphanumeric])
    simpa [readToken,h,hw] using hread
  | @percentCopied w _ h ha hr =>
    have hread := readPercent_run ha fun c hc => (hr c hc).2
    cases rest with
    | nil => exact ⟨'%',w,false,by simp,by simpa [readToken,h] using hread⟩
    | cons c r =>
      have hc := (hr c rfl).1
      exact ⟨'%',w ++ c :: r,true,by simp,by simpa [readToken,h,hc] using hread⟩
  | lastDollar h => exact ⟨'$',[],false,rfl,by simp [readToken,h,readDollar]⟩
  | @dollarOther x _ h hx =>
    exact ⟨'$',x :: rest,true,rfl,by simp [readToken,h,readDollar,hx]⟩
  | @expression b n f _ h hb hd =>
    refine ⟨'$','{' :: (spelled b ++ ('}' :: rest : Text)),true,by simp,?_⟩
    simp [readToken,h,readDollar,readBody_closed hb hd]
  | @unclosed b n f tail h hb hd ht =>
    refine ⟨'$','{' :: (spelled b ++ tail),false,by simp,?_⟩
    simp [readToken,h,readDollar,readBody_cut hb hd ht]
  | @other c _ hd hs =>
    refine ⟨c,rest,true,rfl,?_⟩
    have hp : ¬ (c = '%' ∧ sw.dos = true) := fun h => hd h.1 h.2
    have hm : ¬ (c = '$' ∧ sw.sh = true) := fun h => hs (.inl h.1) h.2
    have he : ¬ (c = '\\' ∧ sw.sh = true) := fun h => hs (.inr h.1) h.2
    simp [readToken,hp,hm,he]

lemma readPercent_reads {sw : Switches} (h : sw.dos) (t : Text) :
    Reads sw (readPercent t).1.source (readPercent t).1.piece (readPercent t).2 := by
  have hsplit := List.takeWhile_append_dropWhile (p := Text.isAlphanumeric) (l := t)
  have ha : ∀ c ∈ t.takeWhile Text.isAlphanumeric, Text.isAlphanumeric c :=
    fun c hc => List.mem_takeWhile_imp hc
  have hr : ∀ c ∈ (t.dropWhile Text.isAlphanumeric).head?, ¬ Text.isAlphanumeric c := by
    intro c hc
    have hne := List.head?_dropWhile_not Text.isAlphanumeric t
    rw [Option.mem_def.1 hc] at hne
    simpa using hne
  generalize t.takeWhile Text.isAlphanumeric = w at hsplit ha
  generalize t.dropWhile Text.isAlphanumeric = rest at hsplit hr
  rw [← hsplit,readPercent_run ha hr]
  cases rest with
  | nil => exact .percentCopied h ha (by simp)
  | cons c r =>
    by_cases hc : c = '%'
    · by_cases hw : w = []
      · simpa [hc,hw] using Reads.doublePercent h
      · simpa [hc,hw] using Reads.percentName h hw ha
    · have hread : Reads sw ('%' :: w) (.copy ('%' :: w)) (c :: r) :=
        .percentCopied h ha (by simpa [hc] using hr c rfl)
      simpa [hc] using hread

lemma readDollar_reads {sw : Switches} (h : sw.sh) (t : Text) :
    Reads sw (readDollar sw.defaults t).1.source (readDollar sw.defaults t).1.piece
      (readDollar sw.defaults t).2 := by
  cases t with
  | nil => exact .lastDollar h
  | cons c t =>
    by_cases hc : c = '{'
    · subst hc
      obtain ⟨b,rest,hb,rfl⟩ | ⟨b,tail,hb,ht,rfl⟩ := exists_body t
      · obtain ⟨n,f,hd⟩ := exists_division sw.defaults b
        simpa [readDollar,readBody_closed hb hd] using Reads.expression h hb hd
      · obtain ⟨n,f,hd⟩ := exists_division sw.defaults b
        simpa [readDollar,readBody_cut hb hd ht] using Reads.unclosed h hb hd ht
    · simpa [readDollar,hc] using Reads.dollarOther h hc

lemma readBackslash_reads {sw : Switches} (h : sw.sh) (t : Text) :
    Reads sw (readBackslash t).1.source (readBackslash t).1.piece (readBackslash t).2 := by
  cases t with
  | nil => exact .lastBackslash h
  | cons c t =>
    by_cases hc : c = '$'
    · subst hc
      exact .escapedDollar h
    · simpa [readBackslash,hc] using Reads.escapedOther h hc

/-- What comes next is read by a rule. -/
lemma readToken_reads (sw : Switches) (c : CodePoint) (t : Text) :
    Reads sw (readToken sw c t).1.source (readToken sw c t).1.piece (readToken sw c t).2 := by
  unfold readToken
  split_ifs with hp hd hb
  · exact readPercent_reads hp.2 t
  · exact readDollar_reads hd.2 t
  · exact readBackslash_reads hb.2 t
  · refine .other (fun hc h => hp ⟨hc,h⟩) fun hc h => ?_
    obtain hc | hc := hc
    · exact hd ⟨hc,h⟩
    · exact hb ⟨hc,h⟩

/-- Every token of a template is read by a rule, in front of the tokens behind it. -/
theorem tokens_reads {sw : Switches} {t : Text} {xs ys : List Token} {k : Token}
    (h : tokens sw t = xs ++ k :: ys) : Reads sw k.source k.piece (ys.flatMap Token.source) := by
  obtain ⟨c,r,-,hread⟩ := tokens_split h
  have hrule := readToken_reads sw c r
  rwa [hread] at hrule

/-- A rule reads the same stretch in front of another rest, if that one is empty where this one is and,
where names between two `%` are admitted, begins alike. -/
lemma Reads.before {sw : Switches} {source rest rest' : Text} {piece : Piece}
    (h : Reads sw source piece rest) (hn : rest = [] → rest' = [])
    (hp : sw.dos = true → rest'.head? = rest.head?) : Reads sw source piece rest' := by
  cases h with
  | escapedDollar h => exact .escapedDollar h
  | escapedOther h hx => exact .escapedOther h hx
  | lastBackslash h => exact hn rfl ▸ .lastBackslash h
  | doublePercent h => exact .doublePercent h
  | percentName h hw ha => exact .percentName h hw ha
  | percentCopied h ha hr => exact .percentCopied h ha (hp h ▸ hr)
  | lastDollar h => exact hn rfl ▸ .lastDollar h
  | dollarOther h hx => exact .dollarOther h hx
  | expression h hb hd => exact .expression h hb hd
  | unclosed h hb hd ht => exact hn rfl ▸ .unclosed h hb hd ht
  | other hd hs => exact .other hd hs

/-- There is one way to read a template by the rules, the way it is cut into tokens. -/
theorem cut_iff (sw : Switches) (t : Text) (ps : List Piece) : Cut sw t ps ↔ ps = pieces sw t := by
  constructor
  · intro h
    induction h with
    | nil => simp
    | @cons source piece rest ps head _ ih =>
      obtain ⟨c,t,fin,ht,hread⟩ := head.readToken_eq
      rw [ht,pieces_cons,hread,ih]
  · rintro rfl
    induction t using tokens.induct sw with
    | case1 => simpa using Cut.nil
    | case2 c t ih =>
      rw [pieces_cons]
      have h := Cut.cons (readToken_reads sw c t) ih
      rwa [readToken_append] at h

end ShellTemplate.Template
