import ShellTemplate.Proofs.Template.Keys
import ShellTemplate.Proofs.Template.Step

/-! Where the expressions of a template begin and end. Whether defaults are admitted or not, a pass is in
an expression at the same characters, since a name and a default end at the same brace and a backslash
takes the same character in both. Only the key differs, where a separator parts the body. -/
namespace ShellTemplate.Template

/-- Where a pass is, without what it has gathered between braces. -/
inductive Place
  | outside | backslash | percent (name : Text) | dollar | inside (escaped : Bool)
  deriving Repr, DecidableEq

def place : Reading → Place
  | .outside => .outside
  | .backslash => .backslash
  | .percent name => .percent name
  | .dollar => .dollar
  | .braced _ escaped => .inside escaped
  | .fallback _ _ _ escaped => .inside escaped

namespace Place

/-- The place behind a character outside of everything. -/
def opened (dos : Bool) (c : CodePoint) : Place :=
  if c = '%' ∧ dos then .percent []
  else if c = '$' then .dollar
  else if c = '\\' then .backslash
  else .outside

/-- The place behind the next character. -/
def next (dos : Bool) : Place → CodePoint → Place
  | .outside, c => opened dos c
  | .backslash, _ => .outside
  | .percent name, c =>
    if c = '%' then .outside
    else if Text.isAlphanumeric c then .percent (name ++ [c])
    else opened dos c
  | .dollar, c => if c = '{' then .inside false else .outside
  | .inside true, _ => .inside false
  | .inside false, c => if c = '}' then .outside else .inside (c = '\\')

end Place

section
variable {sw : Switches} {ask : Lookup} {r r' : Reading} {p p' : Progress}

lemma place_opens (h : sw.sh = true) {c : CodePoint} {t : Text} (ho : Opens sw c r t) :
    place r = .opened sw.dos c := by
  cases ho with
  | percent hd => simp [place,Place.opened,hd]
  | dollar => simp [place,Place.opened]
  | backslash => simp [place,Place.opened]
  | other hd hs =>
    have hp : ¬ (c = '%' ∧ sw.dos = true) := fun h => hd h.1 h.2
    have hm : c ≠ '$' := fun hc => hs (.inl hc) h
    have he : c ≠ '\\' := fun hc => hs (.inr hc) h
    simp [place,Place.opened,hp,hm,he]

lemma place_moves (h : sw.sh = true) {c : CodePoint} {t : Text} (hm : Moves sw r c r' t) :
    place r' = (place r).next sw.dos c := by
  cases hm with
  | opened ho => exact place_opens h ho
  | letter hc ha => simp [place,Place.next,hc,ha]
  | stopped hc ha ho => simpa [place,Place.next,hc,ha] using place_opens h ho
  | noOpener hc => simp [place,Place.next,hc]
  | nameChar hb _ he => simp [place,Place.next,hb,he]
  | defaultChar hb he => simp [place,Place.next,hb,he]
  | _ => simp [place,Place.next]

lemma place_completed {c : CodePoint} {s : Slot} (h : completed r c = some s) (dos : Bool) :
    (place r).next dos c = .outside := by
  unfold completed at h
  split at h <;> simp_all [place,Place.next]

/-- A step goes to the next place, and the switch for defaults has no part in it. -/
theorem place_step (h : sw.sh = true) {c : CodePoint} (hs : step sw ask (r,p) c = .ok (r',p')) :
    place r' = (place r).next sw.dos c := by
  obtain ⟨t,hm,-⟩ | ⟨s,hc,rfl⟩ := step_cases hs
  · exact place_moves h hm
  · exact (place_completed hc sw.dos).symm

/-- So does a pass. -/
theorem place_pass (h : sw.sh = true) {t : Text} (hp : pass sw ask (r,p) t = .ok (r',p')) :
    place r' = t.foldl (Place.next sw.dos) (place r) := by
  induction t generalizing r p with
  | nil =>
    cases hp
    rfl
  | cons c t ih =>
    rw [pass_cons] at hp
    cases hs : step sw ask (r,p) c with
    | error e =>
      rw [hs] at hp
      cases hp
    | ok u =>
      obtain ⟨r₁,p₁⟩ := u
      rw [hs] at hp
      rw [List.foldl_cons,← place_step h hs]
      exact ih hp

end

/-- A stretch of a template where expressions in braces are admitted. -/
inductive Span
  | copied (source out : Text) (finished : Bool)
  | percent (name : Text)
  | braced (body : List Atom) (h : Atom.brace ∉ body)
  | unclosed (body : List Atom) (tail : Text) (h : Atom.brace ∉ body) (ht : Dangling tail)

/-- The units of a body that make up its name, -/
def nameOf (defaults : Bool) (b : List Atom) : List Atom :=
  if defaults then b.takeWhile (· ≠ Atom.colon) else b

/-- and those that make up its default, if it has one. -/
def defaultOf (defaults : Bool) (b : List Atom) : Option (List Atom) :=
  if defaults ∧ Atom.colon ∈ b then some (b.dropWhile (· ≠ Atom.colon)).tail else none

namespace Span

def source : Span → Text
  | .copied source _ _ => source
  | .percent name => '%' :: (name ++ (['%'] : Text))
  | .braced b _ => '$' :: '{' :: (spelled b ++ (['}'] : Text))
  | .unclosed b tail _ _ => '$' :: '{' :: (spelled b ++ tail)

def finished : Span → Bool
  | .copied _ _ finished => finished
  | .unclosed .. => false
  | _ => true

def isExpression : Span → Bool
  | .percent _ => true
  | .braced .. => true
  | _ => false

/-- The key of an expression. -/
def key (defaults : Bool) : Span → Text
  | .percent name => name
  | .braced b _ => Text.trim (unescaped nameMarks (nameOf defaults b))
  | _ => []

def piece (defaults : Bool) : Span → Piece
  | .copied _ out _ => .copy out
  | .percent name => .slot ⟨.dos,name,none⟩
  | .braced b h =>
    .slot ⟨.sh,(Span.braced b h).key defaults,(defaultOf defaults b).map (unescaped defaultMarks)⟩
  | .unclosed b tail _ _ =>
    .copy ('$' :: '{' ::
      (unescaped nameMarks (nameOf defaults b) ++ (raw (defaultOf defaults b) ++ tail)))

def token (defaults : Bool) (s : Span) : Token := ⟨s.source,s.piece defaults,s.finished⟩

end Span

/-- A body divides in one way only. -/
theorem Division.eq {defaults : Bool} {b n : List Atom} {f : Option (List Atom)}
    (h : Division defaults b n f) : nameOf defaults b = n ∧ defaultOf defaults b = f := by
  have hne : ∀ {as : List Atom}, Atom.colon ∉ as → ∀ a ∈ as, decide (a ≠ Atom.colon) = true := by
    intro as hc a ha
    simpa using fun he : a = Atom.colon => hc (he ▸ ha)
  cases h with
  | whole hc =>
    by_cases hd : defaults = true
    · have htake := List.takeWhile_eq_self_iff.2 (hne (hc hd))
      exact ⟨by rw [nameOf,if_pos hd,htake],by rw [defaultOf,if_neg fun h => hc hd h.2]⟩
    · exact ⟨by rw [nameOf,if_neg hd],by rw [defaultOf,if_neg fun h => hd h.1]⟩
  | @parted n d hd hc =>
    subst hd
    have hname : nameOf true (n ++ Atom.colon :: d) = n := by
      rw [nameOf,if_pos rfl,List.takeWhile_append_of_pos (hne hc)]
      simp
    have hdefault : defaultOf true (n ++ Atom.colon :: d) = some d := by
      rw [defaultOf,if_pos ⟨rfl,by simp⟩,List.dropWhile_append_of_pos (hne hc)]
      simp
    exact ⟨hname,hdefault⟩

lemma division_of (defaults : Bool) (b : List Atom) :
    Division defaults b (nameOf defaults b) (defaultOf defaults b) := by
  obtain ⟨n,f,h⟩ := exists_division defaults b
  rwa [h.eq.1,h.eq.2]

/-- Where nothing parts a body, its name is all of it. -/
lemma nameOf_eq {b : List Atom} (h : Atom.colon ∉ b) (defaults : Bool) : nameOf defaults b = b :=
  (Division.whole fun _ => h).eq.1

lemma readPercent_span (t : Text) :
    ∃ s : Span, ∀ defaults, (readPercent t).1 = s.token defaults := by
  unfold readPercent
  split
  · exact ⟨.copied _ _ false,fun _ => rfl⟩
  · rename_i c r _
    generalize t.takeWhile Text.isAlphanumeric = w
    by_cases hc : c = '%'
    · by_cases hw : w = []
      · refine ⟨.copied ['%','%'] ['%'] true,fun _ => ?_⟩
        simp only [hc,hw,if_true]
        rfl
      · refine ⟨.percent w,fun _ => ?_⟩
        simp only [hc,hw,if_true,if_false]
        rfl
    · refine ⟨.copied ('%' :: w) ('%' :: w) true,fun _ => ?_⟩
      simp only [hc,if_false]
      rfl

lemma readBackslash_span (t : Text) :
    ∃ s : Span, ∀ defaults, (readBackslash t).1 = s.token defaults := by
  cases t with
  | nil => exact ⟨.copied _ _ false,fun _ => rfl⟩
  | cons c t => exact ⟨.copied _ _ true,fun _ => rfl⟩

lemma readDollar_span (t : Text) :
    ∃ s : Span, ∃ rest, ∀ defaults, readDollar defaults t = (s.token defaults,rest) := by
  cases t with
  | nil => exact ⟨.copied _ _ false,_,fun _ => rfl⟩
  | cons c t =>
    by_cases hc : c = '{'
    · subst hc
      -- where a body ends is settled by its units, before any of them is a name or a default
      obtain ⟨b,rest,hb,rfl⟩ | ⟨b,tail,hb,ht,rfl⟩ := exists_body t
      · refine ⟨.braced b hb,rest,fun defaults => ?_⟩
        have hread := readBody_closed hb (division_of defaults b) rest
        simp only [readDollar,if_true,hread]
        rfl
      · refine ⟨.unclosed b tail hb ht,[],fun defaults => ?_⟩
        have hread := readBody_cut hb (division_of defaults b) ht
        simp only [readDollar,if_true,hread]
        rfl
    · refine ⟨.copied ['$',c] ['$',c] true,t,fun defaults => ?_⟩
      simp only [readDollar,hc,if_false]
      rfl

/-- What comes next is one span, whether defaults are admitted or not. -/
lemma readToken_span (dos : Bool) (c : CodePoint) (t : Text) :
    ∃ s : Span, ∃ rest, ∀ defaults, readToken ⟨true,defaults,dos⟩ c t = (s.token defaults,rest) := by
  by_cases hp : c = '%' ∧ dos = true
  · obtain ⟨s,hs⟩ := readPercent_span t
    exact ⟨s,(readPercent t).2,fun defaults => by simp [readToken,hp,← hs defaults]⟩
  by_cases hd : c = '$'
  · obtain ⟨s,rest,hs⟩ := readDollar_span t
    exact ⟨s,rest,fun defaults => by simp [readToken,hd,hs]⟩
  by_cases hb : c = '\\'
  · obtain ⟨s,hs⟩ := readBackslash_span t
    exact ⟨s,(readBackslash t).2,fun defaults => by simp [readToken,hb,← hs defaults]⟩
  · refine ⟨.copied [c] [c] true,t,fun defaults => ?_⟩
    simp only [readToken,hp,hd,hb,false_and,if_false]
    rfl

/-- The spans of a template are the same, whether defaults are admitted or not. -/
theorem tokens_spans (dos : Bool) (t : Text) :
    ∃ spans : List Span, ∀ defaults, tokens ⟨true,defaults,dos⟩ t = spans.map (Span.token defaults) := by
  induction t using tokens.induct ⟨true,true,dos⟩ with
  | case1 => exact ⟨[],fun _ => by simp [tokens]⟩
  | case2 c t ih =>
    obtain ⟨s,rest,hs⟩ := readToken_span dos c t
    rw [hs true] at ih
    obtain ⟨spans,hspans⟩ := ih
    exact ⟨s :: spans,fun defaults => by simp [tokens,hs defaults,hspans]⟩

/-- The keys of expressions are those of the slots. -/
lemma keys_spans (defaults : Bool) (spans : List Span) :
    keys ((spans.map (Span.token defaults)).map Token.piece) =
      (spans.filter Span.isExpression).map (Span.key defaults) := by
  induction spans with
  | nil => rfl
  | cons s spans ih =>
    rw [List.map_cons,List.map_cons,List.filter_cons]
    cases s <;> simp [Span.token,Span.piece,Span.isExpression,Span.key] at ih ⊢ <;> exact ih

lemma answers_replies {ask : Lookup} (h : Answers ask) (ks : List Text) :
    ∀ r ∈ ask.replies ks, ∀ f, r ≠ .failure f := by
  intro r hr f
  obtain ⟨i,hi⟩ := List.mem_iff_getElem?.1 hr
  rw [Lookup.replies_getElem?] at hi
  obtain ⟨k,-,rfl⟩ := Option.map_eq_some_iff.1 hi
  exact h _ k f

/-- With defaults and without, a pass is at the same place behind every text and reads a template as the
same spans: at each of them it puts in what stands for it and goes on outside. Contexts without failures
are asked for the keys of the same expressions, in order. Between two `%` the keys are equal; between
braces the key is the body up to its first separator with defaults and all of it without, both trimmed,
and so they are equal where no separator stands in the body. -/
theorem defaults_keep_borders (dos : Bool) (t : Text) :
    (∀ defaults ask r p, pass ⟨true,defaults,dos⟩ ask (.outside,{}) t = .ok (r,p) →
      place r = t.foldl (Place.next dos) .outside) ∧
    ∃ spans : List Span,
      (∀ defaults, tokens ⟨true,defaults,dos⟩ t = spans.map (Span.token defaults)) ∧
      (∀ defaults ask p xs s ys, spans = xs ++ s :: ys →
        resume ⟨true,defaults,dos⟩ ask (.outside,p) (s.source ++ ys.flatMap Span.source) =
          put ⟨true,defaults,dos⟩ ask p (s.piece defaults) (ys.flatMap Span.source)) ∧
      (∀ defaults ask, Answers ask → (expandWith ⟨true,defaults,dos⟩ ask t).asked =
        (spans.filter Span.isExpression).map (Span.key defaults)) ∧
      ∀ b h, Atom.colon ∉ b → (Span.braced b h).key true = (Span.braced b h).key false := by
  refine ⟨fun defaults ask r p hp => place_pass rfl hp,?_⟩
  obtain ⟨spans,hspans⟩ := tokens_spans dos t
  refine ⟨spans,hspans,?_,?_,?_⟩
  · rintro defaults ask p xs s ys rfl
    have hsplit : tokens ⟨true,defaults,dos⟩ t =
        xs.map (Span.token defaults) ++ s.token defaults :: ys.map (Span.token defaults) := by
      rw [hspans,List.map_append,List.map_cons]
    have hrun := resume_token hsplit ask p
    rwa [List.flatMap_map] at hrun
  · intro defaults ask hask
    have hfill := fill_of_replies ask (pieces ⟨true,defaults,dos⟩ t) (answers_replies hask _)
    rw [expandWith_eq_fill,hfill,← keys_spans,← hspans]
    rfl
  · intro b h hb
    simp only [Span.key,nameOf_eq hb]

/-- A name between two `%`, a body that a separator parts and one that is cut off in a default. -/
theorem borders_around_separators :
    let t : Text := ['%','a','%','$','{','b',':','c','}','$','{','d',':','e']
    let ask : Lookup := .steady fun _ => .value (.text [])
    let b : Atom := .plain 'b' (by decide)
    pass {} ask (.outside,{}) t =
      .ok (.fallback ['d'] ['e'] [':','e'] false,{ asked := [(['a'] : Text),['b']] }) ∧
    t.foldl (Place.next true) .outside = .inside false ∧ Answers ask ∧
    (∃ spans : List Span,
      (spans.filter Span.isExpression).map (Span.key true) = [(['a'] : Text),['b']] ∧
      (spans.filter Span.isExpression).map (Span.key false) = [(['a'] : Text),['b',':','c']]) ∧
    (Span.braced [b] (by decide)).key true = (Span.braced [b] (by decide)).key false := by
  intro t ask b
  obtain ⟨hplace,spans,-,-,hasked,hkey⟩ := defaults_keep_borders true t
  have hp : pass {} ask (.outside,{}) t =
      .ok (.fallback ['d'] ['e'] [':','e'] false,{ asked := [(['a'] : Text),['b']] }) := rfl
  have ha : Answers ask := fun _ _ f h => by cases h
  have hon : (expandWith {} ask t).asked = [(['a'] : Text),['b']] := rfl
  have hoff : (expandWith { defaults := false } ask t).asked = [(['a'] : Text),['b',':','c']] := rfl
  exact ⟨hp,(hplace true ask _ _ hp).symm,ha,
    ⟨spans,(hasked true ask ha).symm.trans hon,(hasked false ask ha).symm.trans hoff⟩,
    hkey [b] (by decide) (by decide)⟩

end ShellTemplate.Template
