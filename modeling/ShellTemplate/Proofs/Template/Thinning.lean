import Mathlib.Data.List.Induction
import ShellTemplate.Proofs.Template.Misses
import ShellTemplate.Proofs.Text.Trim

/-! What exactly a pass takes away from a template when nothing is found and defaults are not admitted.
What is lost are backslashes that escape a mark, every second `%` of a pair and blanks around the names in
braces. A template in which none of these stands comes out as it is. -/
namespace ShellTemplate.Template

/-- Of a stretch `s` between `a` and `b` the text `u` is left, and every character that is gone is one that
`R` gives up between what stands before it and what stands behind it. -/
inductive Thinned (R : Text → CodePoint → Text → Prop) : Text → Text → Text → Text → Prop
  | nil {a b} : Thinned R a [] b []
  | keep {a c s b u} (h : Thinned R (a ++ [c]) s b u) : Thinned R a (c :: s) b (c :: u)
  | drop {a c s b u} (hc : R a c (s ++ b)) (h : Thinned R (a ++ [c]) s b u) :
      Thinned R a (c :: s) b u

namespace Thinned
variable {R : Text → CodePoint → Text → Prop} {a b s t u v : Text}

lemma refl (a s b : Text) : Thinned R a s b s := by
  induction s generalizing a with
  | nil => exact .nil
  | cons c s ih => exact .keep (ih _)

lemma append (h : Thinned R a s (t ++ b) u) (h' : Thinned R (a ++ s) t b v) :
    Thinned R a (s ++ t) b (u ++ v) := by
  generalize hr : t ++ b = r at h
  induction h with
  | nil => simpa using h'
  | keep _ ih => exact .keep (ih (by simpa using h') hr)
  | drop hc _ ih =>
    rw [← hr,← List.append_assoc] at hc
    exact .drop hc (ih (by simpa using h') hr)

/-- A stretch may go as a whole if each of its characters may. -/
lemma gone (h : ∀ x c y, s = x ++ c :: y → R (a ++ x) c (y ++ b)) : Thinned R a s b [] := by
  induction s generalizing a with
  | nil => exact .nil
  | cons c s ih =>
    have hc := h [] c s rfl
    rw [List.append_nil] at hc
    refine .drop hc (ih fun x d y he => ?_)
    have hd := h (c :: x) d y (by rw [he]; rfl)
    rwa [List.append_assoc]

/-- Characters that are never given up are left in order and number. -/
lemma filter_eq {p : CodePoint → Bool} (hp : ∀ a c b, R a c b → p c = false) (h : Thinned R a s b u) :
    u.filter p = s.filter p := by
  induction h with
  | nil => rfl
  | keep _ ih => rw [List.filter_cons,List.filter_cons,ih]
  | drop hc _ ih => simp [hp _ _ _ hc,ih]

/-- Where nothing is given up, everything is left. -/
lemma eq_of_none (h : Thinned R a s b u)
    (hn : ∀ x c y, s = x ++ c :: y → ¬ R (a ++ x) c (y ++ b)) : u = s := by
  induction h with
  | nil => rfl
  | @keep a c s b u _ ih =>
    rw [ih fun x d y he => ?_]
    have hd := hn (c :: x) d y (by rw [he]; rfl)
    rwa [List.append_assoc]
  | drop hc _ _ =>
    have := hn [] _ _ rfl
    rw [List.append_nil] at this
    exact absurd hc this

/-- Parts that are thinned each in its place are thinned together. -/
lemma flatMap {α : Type} {f g : α → Text} {ks : List α}
    (h : ∀ xs k ys, ks = xs ++ k :: ys →
      Thinned R (xs.flatMap f) (f k) (ys.flatMap f) (g k)) (xs ys : List α)
    (hk : ks = xs ++ ys) : Thinned R (xs.flatMap f) (ys.flatMap f) [] (ys.flatMap g) := by
  induction ys generalizing xs with
  | nil => exact .nil
  | cons k ys ih =>
    have hhead := h xs k ys hk
    have htail := ih (xs ++ [k]) (by simp [hk])
    rw [List.flatMap_append,List.flatMap_cons,List.flatMap_nil,List.append_nil] at htail
    rw [List.flatMap_cons,List.flatMap_cons]
    exact append (by simpa using hhead) htail

end Thinned

/-- The characters that are lost of a template with these tokens: a backslash before a `$` or a separator,
a `%` behind a `%`, and a blank at an end of the name of a complete expression in braces. -/
inductive Lost (ks : List Token) : Text → CodePoint → Text → Prop
  | escape {a b} {m : CodePoint} (hm : m = '$' ∨ m = ':') : Lost ks a '\\' (m :: b)
  | percent {a b} : Lost ks (a ++ (['%'] : Text)) '%' b
  | blank {xs k ys s} {u : Text} {c : CodePoint} {v : Text} (hk : ks = xs ++ k :: ys) (hp : k.piece = .slot s)
      (hs : k.source = ('$' :: '{' :: (u ++ c :: (v ++ (['}'] : Text))) : Text)) (hc : Text.isBlank c)
      (hend : (∀ d ∈ u, Text.isBlank d) ∨ ∀ d ∈ v, Text.isBlank d) :
      Lost ks (xs.flatMap Token.source ++ ('$' :: '{' :: u : Text)) c
        (v ++ ('}' :: ys.flatMap Token.source : Text))

/-- Blanks at the start of a name stand at the start of its body. -/
lemma exists_of_blank_start {a r : Text} {b : List Atom} (ha : ∀ c ∈ a, Text.isBlank c)
    (h : unescaped nameMarks b = a ++ r) :
    ∃ m, spelled b = a ++ spelled m ∧ unescaped nameMarks m = r := by
  induction a generalizing b with
  | nil => exact ⟨b,rfl,h⟩
  | cons c a ih =>
    have hc : Text.isBlank c := ha c List.mem_cons_self
    cases b with
    | nil => cases h
    | cons x b =>
      cases x with
      | plain d hd =>
        obtain ⟨rfl,hb⟩ : d = c ∧ unescaped nameMarks b = a ++ r := by
          simpa [Atom.shed] using h
        obtain ⟨m,hm,hr⟩ := ih (fun e he => ha e (List.mem_cons_of_mem _ he)) hb
        exact ⟨m,by simp [Atom.text,hm],hr⟩
      | pair d =>
        by_cases hd : d = ':'
        · obtain ⟨rfl,-⟩ : ':' = c ∧ unescaped nameMarks b = a ++ r := by
            simpa [Atom.shed,nameMarks,hd] using h
          exact absurd hc (by decide)
        · obtain ⟨rfl,-⟩ : '\\' = c ∧ d :: unescaped nameMarks b = a ++ r := by
            simpa [Atom.shed,nameMarks,hd] using h
          exact absurd hc (by decide)

/-- No blanks end a text that something else ends. -/
lemma eq_nil_of_blank {k v x : Text} {e : CodePoint} (hv : ∀ c ∈ v, Text.isBlank c)
    (he : ¬ Text.isBlank e) (h : x ++ [e] = k ++ v) : v = [] := by
  obtain rfl | ⟨v,d,rfl⟩ := v.eq_nil_or_concat
  · rfl
  · rw [List.concat_eq_append,← List.append_assoc] at h
    obtain ⟨-,hd⟩ := List.append_inj' h rfl
    obtain rfl : e = d := by simpa using hd
    exact absurd (hv e (by simp)) he

/-- Blanks at the end of a name stand at the end of its body; the first of them may be one that a
backslash has taken. -/
lemma exists_of_blank_end {k v : Text} {m : List Atom} (hv : ∀ c ∈ v, Text.isBlank c)
    (h : unescaped nameMarks m = k ++ v) :
    ∃ n w, spelled m = spelled n ++ (w ++ v) ∧ k = unescaped nameMarks n ++ w := by
  induction m using List.reverseRecOn generalizing v with
  | nil =>
    obtain ⟨rfl,rfl⟩ : k = [] ∧ v = [] := by simpa using h.symm
    exact ⟨[],[],rfl,rfl⟩
  | append_singleton m x ih =>
    obtain rfl | ⟨v,c,rfl⟩ := v.eq_nil_or_concat
    · exact ⟨m ++ [x],[],by simp,by simpa using h.symm⟩
    rw [List.concat_eq_append] at hv h ⊢
    have hv' : ∀ d ∈ v, Text.isBlank d := fun d hd => hv d (by simp [hd])
    cases x with
    | plain d hd =>
      have h : unescaped nameMarks m ++ [d] = k ++ v ++ [c] := by simpa [Atom.shed] using h
      obtain ⟨hm,hdc⟩ := List.append_inj' h rfl
      obtain rfl : d = c := by simpa using hdc
      obtain ⟨n,w,hn,hk⟩ := ih hv' hm
      exact ⟨n,w,by simp [Atom.text,hn],hk⟩
    | pair d =>
      by_cases hd : d = ':'
      · have h : unescaped nameMarks m ++ ([':'] : Text) = k ++ (v ++ [c]) := by
          simpa [Atom.shed,nameMarks,hd] using h
        exact absurd (eq_nil_of_blank hv (by decide) h) (by simp)
      · have h : unescaped nameMarks m ++ (['\\'] : Text) ++ [d] = k ++ v ++ [c] := by
          simpa [Atom.shed,nameMarks,hd] using h
        obtain ⟨hm,hdc⟩ := List.append_inj' h rfl
        obtain rfl : d = c := by simpa using hdc
        -- no blank stands before this one, since its backslash does
        obtain rfl := eq_nil_of_blank hv' (by decide) hm
        exact ⟨m,['\\'],by simp [Atom.text],by simpa using hm.symm⟩

/-- A body is its trimmed name with blanks around it, apart from the backslashes before separators. -/
lemma exists_trimmed (b : List Atom) :
    ∃ u m w v, spelled b = u ++ (spelled m ++ (w ++ v)) ∧
      Text.trim (unescaped nameMarks b) = unescaped nameMarks m ++ w ∧
      (∀ c ∈ u, Text.isBlank c) ∧ ∀ c ∈ v, Text.isBlank c := by
  obtain ⟨u,v,hname,hu,hv⟩ := Text.exists_trim (unescaped nameMarks b)
  obtain ⟨m,hm,hrest⟩ := exists_of_blank_start hu hname
  obtain ⟨n,w,hn,hk⟩ := exists_of_blank_end hv hrest
  exact ⟨u,n,w,v,by rw [hm,hn],hk,hu,hv⟩

section
variable {R : Text → CodePoint → Text → Prop} (hesc : ∀ a b, R a '\\' (':' :: b))
include hesc

/-- A name loses the backslashes before its separators, -/
lemma thinned_unescaped (a : Text) (n : List Atom) (b : Text) :
    Thinned R a (spelled n) b (unescaped nameMarks n) := by
  induction n generalizing a with
  | nil => exact .nil
  | cons x n ih =>
    cases x with
    | plain c h => exact .keep (ih _)
    | pair c =>
      by_cases hc : c = ':'
      · subst hc
        exact .drop (hesc a _) (.keep (ih _))
      · have hs : unescaped nameMarks (.pair c :: n) = ('\\' :: c :: unescaped nameMarks n : Text) := by
          simp [Atom.shed,nameMarks,hc]
        rw [hs]
        exact .keep (.keep (ih _))

/-- and where it is trimmed, the blanks at its ends. -/
lemma thinned_trim {a b : Text} {n : List Atom}
    (hblank : ∀ x c y, spelled n = x ++ c :: y → Text.isBlank c →
      (∀ d ∈ x, Text.isBlank d) ∨ (∀ d ∈ y, Text.isBlank d) → R (a ++ x) c (y ++ b)) :
    Thinned R a (spelled n) b (Text.trim (unescaped nameMarks n)) := by
  obtain ⟨u,m,w,v,hn,htrim,hu,hv⟩ := exists_trimmed n
  have hstart : Thinned R a u (spelled m ++ (w ++ v) ++ b) [] := by
    refine .gone fun x c y he => ?_
    have hc := hblank x c (y ++ (spelled m ++ (w ++ v))) (by simp [hn,he])
      (hu c (by simp [he])) (.inl fun d hd => hu d (by simp [he,hd]))
    rwa [List.append_assoc] at hc
  have hend : Thinned R (a ++ u ++ spelled m ++ w) v b [] := by
    refine .gone fun x c y he => ?_
    have hc := hblank (u ++ (spelled m ++ (w ++ x))) c y (by simp [hn,he])
      (hv c (by simp [he])) (.inr fun d hd => hv d (by simp [he,hd]))
    simpa using hc
  have hmid : Thinned R (a ++ u) (spelled m ++ (w ++ v)) b (unescaped nameMarks m ++ (w ++ [])) :=
    .append (thinned_unescaped hesc _ m _) (.append (.refl _ w _) hend)
  rw [hn,htrim]
  simpa using Thinned.append hstart hmid

end

/-- A token of a template without defaults loses what is lost at its place, and nothing else. -/
lemma thinned_token {sw : Switches} (hdef : sw.defaults = false) {t : Text} {xs ys : List Token}
    {k : Token} (hk : tokens sw t = xs ++ k :: ys) :
    Thinned (Lost (tokens sw t)) (xs.flatMap Token.source) k.source (ys.flatMap Token.source)
      (k.piece.shown fun _ => .absent) := by
  have h := tokens_reads hk
  have hesc : ∀ a b, Lost (tokens sw t) a '\\' (':' :: b) := fun _ _ => .escape (.inr rfl)
  have hblank := fun s u c v => @Lost.blank (tokens sw t) xs k ys s u c v hk
  generalize xs.flatMap Token.source = a at hblank ⊢
  generalize ys.flatMap Token.source = rest at h hblank ⊢
  obtain ⟨source,piece,finished⟩ := k
  simp only at h hblank ⊢
  cases h with
  | escapedDollar => exact .drop (.escape (.inl rfl)) (.refl _ _ _)
  | doublePercent => exact .keep (.drop .percent .nil)
  | @expression b n f _ _ hb hd =>
    rw [hdef] at hd
    obtain ⟨rfl,rfl⟩ := hd.without
    have hbody : Thinned (Lost (tokens sw t)) (a ++ (['$'] : Text) ++ (['{'] : Text)) (spelled n)
        ('}' :: rest)
        (Text.trim (unescaped nameMarks n)) := by
      refine thinned_trim hesc fun x c y hx hc hends => ?_
      have hl := hblank _ x c y rfl (by simp [hx]) hc hends
      simpa using hl
    exact .keep (.keep (hbody.append (.refl _ ['}'] _)))
  | @unclosed b n f tail _ hb hd ht =>
    rw [hdef] at hd
    obtain ⟨rfl,rfl⟩ := hd.without
    have hname := thinned_unescaped hesc (a ++ (['$'] : Text) ++ (['{'] : Text)) n (tail ++ [])
    exact .keep (.keep (hname.append (.refl _ tail _)))
  | _ => exact .refl _ _ _

/-- A template in which nothing stands that can be lost. -/
structure Bare (t : Text) : Prop where
  percents : ¬ (['%','%'] : Text) <:+: t
  dollars : ¬ (['\\','$'] : Text) <:+: t
  separators : ¬ (['\\',':'] : Text) <:+: t
  starts : ∀ c, Text.isBlank c → ¬ (['$','{',c] : Text) <:+: t
  ends : ∀ c, Text.isBlank c → ¬ ([c,'}'] : Text) <:+: t

lemma Bare.not_lost {t : Text} (h : Bare t) {ks : List Token} {a b : Text} {c : CodePoint}
    (ht : t = a ++ c :: b) : ¬ Lost ks a c b := by
  intro hl
  cases hl with
  | @escape _ b m hm =>
    obtain rfl | rfl := hm
    · exact h.dollars ⟨a,b,by simp [ht]⟩
    · exact h.separators ⟨a,b,by simp [ht]⟩
  | @percent a => exact h.percents ⟨a,b,by simp [ht]⟩
  | @blank xs _ ys _ u c v hk hp hs hc hend =>
    obtain hu | hv := hend
    · cases u with
      | nil => exact h.starts c hc ⟨xs.flatMap Token.source,_,by simp [ht]; rfl⟩
      | cons d u =>
        exact h.starts d (hu d List.mem_cons_self) ⟨xs.flatMap Token.source,_,by simp [ht]; rfl⟩
    · obtain rfl | ⟨v,d,rfl⟩ := v.eq_nil_or_concat
      · exact h.ends c hc ⟨xs.flatMap Token.source ++ ('$' :: '{' :: u : Text),_,by simp [ht]; rfl⟩
      · refine h.ends d (hv d (by simp))
          ⟨xs.flatMap Token.source ++ ('$' :: '{' :: (u ++ c :: v) : Text),_,by simp [ht]; rfl⟩

/-- Where nothing is found and defaults are not admitted, a template comes out with characters taken away
that are backslashes before `$` or separators, the second `%` of two, and blanks at the ends of names in
braces; all other characters come out in order and number. A template in which none of these stands comes
out as it is. -/
theorem misses_thin (sw : Switches) (hdef : sw.defaults = false) (ask : Lookup) (h : Misses ask)
    (t : Text) :
    ∃ out, (expandWith sw ask t).outcome = .ok out ∧
      Thinned (Lost (tokens sw t)) [] t [] out ∧
      (out.filter fun c : CodePoint => c ≠ '\\' && c ≠ '%' && !Text.isBlank c) =
        (t.filter fun c : CodePoint => c ≠ '\\' && c ≠ '%' && !Text.isBlank c) ∧
      (Bare t → out = t) := by
  have hthin : Thinned (Lost (tokens sw t)) [] t [] (leftover sw t) := by
    have hall := Thinned.flatMap (fun xs k ys hk => thinned_token hdef hk) [] (tokens sw t) rfl
    rwa [List.flatMap_nil,flatMap_source_tokens,← leftover_tokens] at hall
  refine ⟨leftover sw t,h.outcome sw t,hthin,?_,?_⟩
  · apply hthin.filter_eq
    intro a c b hl
    cases hl with
    | escape => rfl
    | percent => rfl
    | blank _ _ _ hc => simp [hc]
  · intro hbare
    refine hthin.eq_of_none fun x c y hx => ?_
    simpa using hbare.not_lost hx

/-- Both escapes, two `%` and a name with blanks around it, the first of those behind it taken by a
backslash; and a template with a name that a blank stops, a blank within a name and another backslash. -/
theorem thinned_of_marks :
    let sw : Switches := { defaults := false }
    let ask : Lookup := .steady fun _ => .absent
    let t : Text := ['\\','$','%','%','$','{',' ','a','\\',':','\\',' ',' ','}']
    let out : Text := ['$','%','$','{','a',':','\\','}']
    let bare : Text := ['%','a',' ','%','$','{','b',' ','c','}','\\','x']
    sw.defaults = false ∧ Misses ask ∧ (expandWith sw ask t).outcome = .ok out ∧
    Thinned (Lost (tokens sw t)) [] t [] out ∧ Bare bare ∧
    (expandWith sw ask bare).outcome = .ok bare := by
  intro sw ask t out bare
  have hask : Misses ask := fun _ _ => rfl
  have hbare : Bare bare := by
    refine ⟨by decide,by decide,by decide,?_,?_⟩
    · intro c hc hi
      simp [bare,List.infix_cons_iff] at hi
      subst hi
      revert hc
      decide
    · intro c hc hi
      simp [bare,List.infix_cons_iff] at hi
      subst hi
      revert hc
      decide
  obtain ⟨x,hx,hthin,-,-⟩ := misses_thin sw rfl ask hask t
  obtain ⟨y,hy,-,-,hsame⟩ := misses_thin sw rfl ask hask bare
  have hout : (expandWith sw ask t).outcome = .ok out := by decide
  obtain rfl : out = x := Except.ok.inj (hout.symm.trans hx)
  rw [hsame hbare] at hy
  exact ⟨rfl,hask,hout,hthin,hbare,hy⟩

end ShellTemplate.Template
