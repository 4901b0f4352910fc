import ShellTemplate.Context.Basic
import ShellTemplate.Proofs.Template.Keys
import ShellTemplate.Proofs.Template.Units
import ShellTemplate.Proofs.Text.Trim

/-! A template filled from one context, and what is left of it filled from another. Where only names in
braces are admitted and neither the template nor the values hold a mark that is read, the second filling
finds the expressions that the first has left, and the two are one filling from the chain of both. -/
namespace ShellTemplate

lemma Context.ask_pair (st : Store) (first second : Context) (key : Text) :
    (chain [first,second]).ask st key =
      if first.ask st key = .absent then second.ask st key else first.ask st key := by
  rw [ask_chain_cons,ask_chain_cons,ask_chain_nil]
  by_cases h : second.ask st key = .absent <;> simp [h]

/-- What a piece is when it is read again, filled from a context that replies so: the characters of a
value stand for themselves, and a slot without a value is the same slot. -/
def Piece.settled (ask : Text → Reply) : Piece → List Piece
  | .copy t => [.copy t]
  | .slot s =>
    match ask s.key with
    | .value v => v.shown.map fun c => .copy [c]
    | _ => [.slot s]

/-- Filled from a second context, it shows what the piece shows in both. -/
lemma Piece.shown_settled {first : Text → Reply} (hf : ∀ k f, first k ≠ .failure f)
    (second : Text → Reply) (piece : Piece) :
    (piece.settled first).flatMap (Piece.shown second) =
      piece.shown fun k => if first k = .absent then second k else first k := by
  cases piece with
  | copy t => simp [settled,shown]
  | slot s =>
    cases hr : first s.key with
    | value v => simp [settled,shown,hr,Slot.filled,List.flatMap_map]
    | failure f => exact absurd hr (hf _ f)
    | absent => simp [settled,shown,hr]

namespace Template

/-- Names in braces are admitted, without defaults, and nothing else. -/
def bracesOnly : Switches := ⟨true,false,false⟩

/-- Characters that are no marks are copied one by one. -/
lemma Cut.unmarked {w rest : Text} {ps : List Piece} (hw : ∀ c ∈ w, c ≠ '$' ∧ c ≠ '\\')
    (h : Cut bracesOnly rest ps) :
    Cut bracesOnly (w ++ rest) (w.map (fun c => .copy [c]) ++ ps) := by
  induction w with
  | nil => exact h
  | cons c w ih =>
    have hc := hw c List.mem_cons_self
    have hread : Reads bracesOnly [c] (.copy [c]) (w ++ rest) :=
      .other (fun _ => by simp [bracesOnly]) fun he _ => he.elim hc.1 hc.2
    have ih := ih fun d hd => hw d (List.mem_cons_of_mem _ hd)
    have hcons := Cut.cons hread ih
    exact hcons

/-- A trimmed key without marks is read again where it stands in braces. -/
lemma reads_unresolved {k : Text} (he : ('\\' : CodePoint) ∉ k) (hb : ('}' : CodePoint) ∉ k)
    (ht : Text.trim k = k)
    (rest : Text) :
    Reads bracesOnly (Slot.unresolved ⟨.sh,k,none⟩) (.slot ⟨.sh,k,none⟩) rest := by
  have hk : spelled (units k) = k := spelled_units_of_loose (loose_of_not_mem he)
  have hpair : ∀ c, Atom.pair c ∉ units k := pair_not_mem (by rwa [hk])
  have hname : unescaped nameMarks (units k) = k := by
    rw [(unescaped_eq_spelled_iff nameMarks (units k)).2 fun c _ => hpair c,hk]
  have hbrace : Atom.brace ∉ units k := by
    intro hm
    apply hb
    rw [← hk]
    exact List.mem_flatMap.2 ⟨_,hm,by simp [Atom.brace,Atom.text]⟩
  have hread : Reads bracesOnly ('$' :: '{' :: (spelled (units k) ++ (['}'] : Text)))
      (.slot ⟨.sh,Text.trim (unescaped nameMarks (units k)),none⟩) rest :=
    .expression rfl hbrace (.whole fun hd => by cases hd)
  rwa [hname,ht,hk] at hread

/-- A body without backslashes is its own name, and its characters are no closing braces. -/
lemma unescaped_body {b : List Atom} (he : ('\\' : CodePoint) ∉ spelled b) (hb : Atom.brace ∉ b) :
    unescaped nameMarks b = spelled b ∧ ('}' : CodePoint) ∉ spelled b := by
  constructor
  · exact (unescaped_eq_spelled_iff nameMarks b).2 fun c _ => pair_not_mem he c
  · intro hm
    obtain ⟨a,ha,hc⟩ := List.mem_flatMap.1 hm
    cases a with
    | plain c h =>
      obtain rfl : '}' = c := by simpa [Atom.text] using hc
      exact hb ha
    | pair c => exact pair_not_mem he c ha

section
variable {ask : Text → Reply}
  (hv : ∀ k v, ask k = .value v → ('$' : CodePoint) ∉ v.shown ∧ ('\\' : CodePoint) ∉ v.shown)
include hv

/-- One token of a template without backslashes, filled and read again. -/
lemma Reads.settled {source rest rest' : Text} {piece : Piece} {qs : List Piece}
    (h : Reads bracesOnly source piece rest) (he : ('\\' : CodePoint) ∉ source) (hn : rest = [] → rest' = [])
    (hq : Cut bracesOnly rest' qs) :
    Cut bracesOnly (piece.shown ask ++ rest') (piece.settled ask ++ qs) := by
  have hcopy := h.before hn fun hd => by cases hd
  cases h with
  | escapedDollar => simp at he
  | escapedOther => simp at he
  | lastBackslash => simp at he
  | doublePercent hd => cases hd
  | percentName hd => cases hd
  | percentCopied hd => cases hd
  | lastDollar => exact .cons hcopy hq
  | dollarOther => exact .cons hcopy hq
  | @expression b n f _ _ hb hd =>
    obtain ⟨rfl,rfl⟩ := hd.without
    have hs : ('\\' : CodePoint) ∉ spelled n := fun hm => he (by simp [hm])
    obtain ⟨hname,hbrace⟩ := unescaped_body hs hb
    have htrim := (Text.trim_infix (spelled n)).subset
    rw [hname]
    generalize hk : Text.trim (spelled n) = k at htrim
    have ht : Text.trim k = k := by rw [← hk,Text.trim_trim]
    have hread := reads_unresolved (fun hm => hs (htrim hm)) (fun hm => hbrace (htrim hm)) ht rest'
    cases hr : ask k with
    | value v =>
      obtain ⟨hd,hb⟩ := hv k v hr
      have hw : ∀ c ∈ v.shown, c ≠ '$' ∧ c ≠ '\\' := by
        intro c hc
        exact ⟨fun h => hd (h ▸ hc),fun h => hb (h ▸ hc)⟩
      simpa [Piece.shown,Piece.settled,Slot.filled,hr] using Cut.unmarked hw hq
    | failure f => simpa [Piece.shown,Piece.settled,Slot.filled,hr] using Cut.cons hread hq
    | absent => simpa [Piece.shown,Piece.settled,Slot.filled,hr] using Cut.cons hread hq
  | @unclosed b n f tail _ hb hd _ =>
    obtain ⟨rfl,rfl⟩ := hd.without
    have hs : ('\\' : CodePoint) ∉ spelled n := fun hm => he (by simp [hm])
    rw [(unescaped_body hs hb).1] at hcopy ⊢
    exact .cons hcopy hq
  | other => exact .cons hcopy hq

/-- A template without backslashes, filled and read again. -/
theorem Cut.settled {t : Text} {ps : List Piece} (h : Cut bracesOnly t ps) (he : ('\\' : CodePoint) ∉ t) :
    Cut bracesOnly (ps.flatMap (Piece.shown ask)) (ps.flatMap (Piece.settled ask)) := by
  induction h with
  | nil => exact .nil
  | @cons source piece rest ps head tail ih =>
    rw [List.mem_append,not_or] at he
    refine head.settled hv he.1 ?_ (ih he.2)
    rintro rfl
    have hps : ps = [] := by simpa using (cut_iff bracesOnly [] ps).1 tail
    rw [hps]
    rfl

end

/-- Two fillings in turn, the first from a context without marks in its values, are one filling from the
chain of both contexts. A second filling from the same context changes nothing. -/
theorem expand_expand (st : Store) (first second : Context) (t : Text) (ht : ('\\' : CodePoint) ∉ t)
    (hf : ∀ k f, first.ask st k ≠ .failure f) (hs : ∀ k f, second.ask st k ≠ .failure f)
    (hv : ∀ k v, first.ask st k = .value v → ('$' : CodePoint) ∉ v.shown ∧ ('\\' : CodePoint) ∉ v.shown) :
    ∃ x y, (expand bracesOnly (first.ask st) t).outcome = .ok x ∧
      (expand bracesOnly (second.ask st) x).outcome = .ok y ∧
      (expand bracesOnly ((Context.chain [first,second]).ask st) t).outcome = .ok y ∧
      (expand bracesOnly (first.ask st) x).outcome = .ok x := by
  have hcut := (cut_iff bracesOnly t _).2 rfl
  have hread := (cut_iff bracesOnly _ _).1 (hcut.settled hv ht)
  -- read again, what the first filling has left shows in any context what both show together
  have hagain : ∀ ask : Text → Reply,
      (pieces bracesOnly ((pieces bracesOnly t).flatMap (Piece.shown (first.ask st)))).flatMap
          (Piece.shown ask) =
        (pieces bracesOnly t).flatMap
          (Piece.shown fun k => if first.ask st k = .absent then ask k else first.ask st k) := by
    intro ask
    rw [← hread,List.flatMap_assoc]
    apply List.flatMap_congr
    intro piece _
    exact Piece.shown_settled hf ask piece
  have hboth : ∀ k f, (Context.chain [first,second]).ask st k ≠ .failure f := by
    intro k f
    rw [Context.ask_pair]
    split
    · exact hs k f
    · exact hf k f
  have hself : (fun k => if first.ask st k = .absent then first.ask st k else first.ask st k) =
      first.ask st := funext fun k => ite_self _
  refine ⟨_,_,expand_pieces hf _ _,expand_pieces hs _ _,?_,?_⟩
  · rw [expand_pieces hboth,hagain,← funext (Context.ask_pair st first second)]
  · rw [expand_pieces hf,hagain,hself]

/-- A value in braces that are no expression, a trimmed key for the second context, a `$` with a
character that it takes and a body that is cut off. -/
theorem filled_from_two :
    let st : Store := { environment := .empty, shared := .empty }
    let first : Context := .source (.function fun k =>
      if k = (['a'] : Text) then .value (.text ['{','%','}']) else .absent)
    let second : Context := .source (.function fun k =>
      if k = (['b'] : Text) then .value (.flag true) else .absent)
    let t : Text := ['$','{',' ','a','}','$','{',' ','b',' ','}','$','x','$','{','c']
    let x : Text := ['{','%','}','$','{','b','}','$','x','$','{','c']
    let y : Text := ['{','%','}','T','r','u','e','$','x','$','{','c']
    ('\\' : CodePoint) ∉ t ∧ (∀ k f, first.ask st k ≠ .failure f) ∧ (∀ k f, second.ask st k ≠ .failure f) ∧
    (∀ k v, first.ask st k = .value v → ('$' : CodePoint) ∉ v.shown ∧ ('\\' : CodePoint) ∉ v.shown) ∧
    (expand bracesOnly (first.ask st) t).outcome = .ok x ∧
    (expand bracesOnly (second.ask st) x).outcome = .ok y ∧
    (expand bracesOnly ((Context.chain [first,second]).ask st) t).outcome = .ok y ∧
    (expand bracesOnly (first.ask st) x).outcome = .ok x := by
  intro st first second t x y
  have ht : ('\\' : CodePoint) ∉ t := by decide
  have hask : ∀ k, first.ask st k =
      if k = (['a'] : Text) then .value (.text ['{','%','}']) else .absent := fun k => by
    simp [first,Context.ask,Source.reply]
  have hf : ∀ k f, first.ask st k ≠ .failure f := by
    intro k f
    rw [hask]
    split <;> simp
  have hs : ∀ k f, second.ask st k ≠ .failure f := by
    intro k f
    simp only [second,Context.ask,Context.answer_source,Source.reply]
    split <;> simp
  have hv : ∀ k v, first.ask st k = .value v → ('$' : CodePoint) ∉ v.shown ∧
      ('\\' : CodePoint) ∉ v.shown := by
    intro k v h
    rw [hask] at h
    split at h
    · cases h
      decide
    · cases h
  obtain ⟨x',y',hx,hy,hxy,hxx⟩ := expand_expand st first second t ht hf hs hv
  have hfirst : (expand bracesOnly (first.ask st) t).outcome = .ok x := by decide
  obtain rfl : x = x' := Except.ok.inj (hfirst.symm.trans hx)
  have hsecond : (expand bracesOnly (second.ask st) x).outcome = .ok y := by decide
  obtain rfl : y = y' := Except.ok.inj (hsecond.symm.trans hy)
  exact ⟨ht,hf,hs,hv,hx,hy,hxy,hxx⟩

end Template

end ShellTemplate
