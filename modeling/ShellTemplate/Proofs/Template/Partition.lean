import Mathlib.Tactic.ByContra
import ShellTemplate.Proofs.Template.Loops

/-! The stretches that the loops read. Every loop leaves off behind the index it was given and not behind the
end of the template, so the loop around them comes to an end, and what it reads in one turn begins where the
turn before it has left off. -/
namespace ShellTemplate.Template

/-- A loop leaves off behind its start, at the end of the template at the latest, and has only written more;
or a key that it asked for has failed. -/
def Advances (ask : Lookup) (t : Text) (start : Nat) (p : Progress) : Exit → Prop
  | .ok (i,q) => start < i ∧ i ≤ t.length ∧ ∃ out, q.written.toList = p.written.toList ++ out
  | .error e => ∃ key f, ask p.asked key = .failure f ∧ e.outcome = .error f

section
variable {ask : Lookup} {t : Text} {start : Nat} {p : Progress}

lemma advances_write {i : Nat} (hi : start < i) (hl : i ≤ t.length) (out : Text) :
    Advances ask t start p (.ok (i,p.write out)) :=
  ⟨hi,hl,out,Progress.write_written out p⟩

lemma advances_fill {i : Nat} (hi : start < i) (hl : i ≤ t.length) (s : Slot) :
    Advances ask t start p ((p.fill ask s).map (i,·)) := by
  rw [Progress.fill]
  cases hr : ask p.asked s.key with
  | value v => exact ⟨hi,hl,_,Progress.write_written ..⟩
  | failure f => exact ⟨s.key,f,hr,rfl⟩
  | absent =>
    cases s.fallback with
    | some d => exact ⟨hi,hl,_,Progress.write_written ..⟩
    | none => exact ⟨hi,hl,_,Progress.write_written ..⟩

lemma percentLoop_advances (name : Text) {i : Nat} (hi : start < i) (hl : i ≤ t.length) :
    Advances ask t start p (percentLoop ask t p name i) := by
  fun_induction percentLoop ask t p name i with
  | case1 i h hc => exact advances_write (by omega) h _
  | case2 name i h hc hn => exact advances_fill (by omega) h _
  | case3 name i h hc ha ih => exact ih (by omega) h
  | case4 name i h hc ha => exact advances_write hi hl _
  | case5 name i h => exact advances_write hi hl _

theorem percentAt_advances (h : start < t.length) : Advances ask t start p (percentAt ask t p start) :=
  percentLoop_advances [] (Nat.lt_succ_self start) h

lemma defaultLoop_le (value : Text) (escaped : Bool) {i : Nat} (hl : i ≤ t.length) :
    (defaultLoop t start value escaped i).1 ≤ t.length := by
  fun_induction defaultLoop t start value escaped i with
  | case1 value i h ih => exact ih h
  | case2 => exact hl
  | case3 value escaped i h he hc hb ih => exact ih h
  | case4 value escaped i h he hc hb ih => exact ih h
  | case5 => exact hl

lemma leaveDefault_advances (name : Text) {d : Nat × Text} (hd : start < d.1) (hl : d.1 ≤ t.length) :
    Advances ask t start p (leaveDefault ask t p name d) := by
  rw [leaveDefault]
  split
  · exact advances_fill (by omega) (by omega) _
  · exact advances_write hd hl _

/-- All that a loop over a body does: it goes into no default and advances, or it goes into one default and
leaves off where that does. -/
lemma bracedLoop_cases (defaults : Bool) (name : Text) (escaped : Bool) {fallback : Option Text}
    (hf : fallback = none) {i : Nat} (hi : start < i) (hl : i ≤ t.length) :
    let v := bracedLoop ask t defaults p name escaped fallback i
    (v.entries = [] ∧ Advances ask t start p v.exit) ∨
      ∃ k name', v.entries = [k] ∧ start < k ∧ t[k]? = some (':' : CodePoint) ∧
        v.exit = leaveDefault ask t p name' (defaultAt t k) := by
  fun_induction bracedLoop ask t defaults p name escaped fallback i with
  | case1 name fallback i h ih => exact ih hf (by omega) h
  | case2 name escaped fallback i h he hc => exact .inl ⟨rfl,advances_fill (by omega) h _⟩
  | case3 name escaped fallback i h he hc hs ih =>
    rw [bracedLoop_left]
    exact .inr ⟨i,name,rfl,hi,hs.1 ▸ List.getElem?_eq_getElem h,rfl⟩
  | case4 name escaped fallback i h he hc hs hb ih => exact ih hf (by omega) h
  | case5 name escaped fallback i h he hc hs hb ih => exact ih hf (by omega) h
  | case6 name escaped fallback i h => exact .inl ⟨rfl,advances_write hi hl _⟩

/-- A loop over an expression in braces goes into one default at most. -/
theorem dollarAt_cases (defaults : Bool) (h : start < t.length) :
    let v := dollarAt ask t defaults p start
    (v.entries = [] ∧ Advances ask t start p v.exit) ∨
      ∃ k name, v.entries = [k] ∧ start < k ∧ t[k]? = some (':' : CodePoint) ∧
        v.exit = leaveDefault ask t p name (defaultAt t k) := by
  intro v
  simp only [v,dollarAt]
  split
  · rename_i hnext
    split
    · exact bracedLoop_cases defaults [] false rfl (by omega) hnext
    · exact .inl ⟨rfl,advances_write (by omega) hnext _⟩
  · exact .inl ⟨rfl,advances_write (by omega) h _⟩

theorem dollarAt_advances (defaults : Bool) (h : start < t.length) :
    Advances ask t start p (dollarAt ask t defaults p start).exit := by
  obtain ⟨-,ha⟩ | ⟨k,name,-,hk,hc,hexit⟩ := @dollarAt_cases ask t start p defaults h
  · exact ha
  · obtain ⟨hlt,-⟩ := List.getElem?_eq_some_iff.1 hc
    have hle : k + 1 ≤ (defaultAt t k).1 := le_defaultLoop t k [] false (k + 1)
    rw [hexit]
    exact leaveDefault_advances name (by omega) (defaultLoop_le [] false hlt)

end

section
variable {t : Text}

lemma of_drop_eq_cons {i : Nat} {c : CodePoint} {u : Text} (h : t.drop i = c :: u) :
    ∃ hl : i < t.length, t[i] = c ∧ t.drop (i + 1) = u := by
  have hl : i < t.length := by
    by_contra hn
    rw [List.drop_eq_nil_of_le (Nat.le_of_not_lt hn)] at h
    cases h
  rw [List.drop_eq_getElem_cons hl] at h
  exact ⟨hl,List.cons.inj h⟩

/-- A default is read unit by unit. -/
lemma defaultLoop_spelled {start i : Nat} {b : List Atom} (hb : Atom.brace ∉ b) {u : Text}
    (h : t.drop i = spelled b ++ u) (value : Text) :
    defaultLoop t start value false i =
      defaultLoop t start (value ++ unescaped defaultMarks b) false (i + (spelled b).length) := by
  induction b generalizing i value with
  | nil => simp
  | cons a b ih =>
    obtain ⟨ha,hb'⟩ : Atom.brace ≠ a ∧ Atom.brace ∉ b := by simpa using hb
    rw [spelled_cons,List.append_assoc] at h
    cases a with
    | plain c hc =>
      have hbrace := Atom.plain_ne_brace ha.symm
      obtain ⟨hl,rfl,hrest⟩ := of_drop_eq_cons h
      have hstep : defaultLoop t start value false i =
          defaultLoop t start (value ++ [t[i]]) false (i + 1) := by
        rw [defaultLoop]
        simp [hl,hbrace,hc]
      rw [hstep,ih hb' hrest]
      simp [Atom.text,Atom.shed,Nat.add_assoc,Nat.add_comm 1]
    | pair c =>
      obtain ⟨hl,hbackslash,hnext⟩ := of_drop_eq_cons h
      obtain ⟨hl',rfl,hrest⟩ := of_drop_eq_cons hnext
      have hstep : defaultLoop t start value false i =
          defaultLoop t start (value ++ (Atom.pair t[i + 1]).shed defaultMarks) false (i + 2) := by
        rw [defaultLoop,defaultLoop]
        simp [hl,hl',hbackslash]
      rw [hstep,ih hb' hrest]
      simp [Atom.text,Nat.add_assoc,Nat.add_comm 2]

lemma defaultLoop_end (start : Nat) (value : Text) (escaped : Bool) {i : Nat} (h : i = t.length) :
    defaultLoop t start value escaped i = (t.length,t.drop start) := by
  rw [defaultLoop]
  simp [h]

/-- A default ends at the first brace that no backslash stands before, and is left with its value; without
such a brace it is left at the end of the template as it was written, separator included. -/
theorem defaultAt_cases {start : Nat} (h : start < t.length) :
    (∃ b rest, Atom.brace ∉ b ∧ t.drop (start + 1) = spelled b ++ ('}' :: rest : Text) ∧
      defaultAt t start = (start + 1 + (spelled b).length,unescaped defaultMarks b)) ∨
    ∃ b tail, Atom.brace ∉ b ∧ Dangling tail ∧ t.drop (start + 1) = spelled b ++ tail ∧
      defaultAt t start = (t.length,t.drop start) := by
  obtain ⟨b,rest,hb,ht⟩ | ⟨b,tail,hb,htail,ht⟩ := exists_body (t.drop (start + 1))
  · refine .inl ⟨b,rest,hb,ht,?_⟩
    have hbrace : t.drop (start + 1 + (spelled b).length) = ('}' :: rest : Text) := by
      rw [← List.drop_drop,ht,List.drop_left]
    obtain ⟨hl,hc,-⟩ := of_drop_eq_cons hbrace
    rw [defaultAt,defaultLoop_spelled hb ht,List.nil_append,defaultLoop]
    simp [hl,hc]
  · refine .inr ⟨b,tail,hb,htail,ht,?_⟩
    have hlength : start + 1 + (spelled b).length + tail.length = t.length := by
      have := congrArg List.length ht
      rw [List.length_drop,List.length_append] at this
      omega
    have hleft : t.drop (start + 1 + (spelled b).length) = tail := by
      rw [← List.drop_drop,ht,List.drop_left]
    rw [defaultAt,defaultLoop_spelled hb ht]
    obtain rfl | rfl := htail
    · exact defaultLoop_end start _ false hlength
    · obtain ⟨hl,hbackslash,-⟩ := of_drop_eq_cons hleft
      rw [defaultLoop]
      simpa [hl,hbackslash] using defaultLoop_end start _ true hlength

end

/-- The reading between the loops: at an index, and perhaps behind a backslash. -/
structure Cursor where
  index : Nat := 0
  escaped : Bool := false
  progress : Progress := {}

/-- What a pass is in the middle of there. -/
def Cursor.reading (s : Cursor) : Reading := if s.escaped then .backslash else .outside

section
variable (sw : Switches) (ask : Lookup) (t : Text)

/-- One turn of the outer loop, which reads a character or leaves an expression to its own loop. -/
def turn (s : Cursor) (h : s.index < t.length) : Except Expansion Cursor :=
  let c := t[s.index]
  let p := s.progress
  if s.escaped then .ok { index := s.index + 1, progress := p.write ((Atom.pair c).shed ['$']) }
  else if c = '%' ∧ sw.dos then
    (percentAt ask t p s.index).map fun (i,p) => { index := i, progress := p }
  else if c = '$' ∧ sw.sh then
    (dollarAt ask t sw.defaults p s.index).exit.map fun (i,p) => { index := i, progress := p }
  else if c = '\\' ∧ sw.sh then .ok { index := s.index + 1, escaped := true, progress := p }
  else .ok { index := s.index + 1, progress := p.write [c] }

/-- What comes of the template from a cursor on, unless a failure has ended the turn. -/
def proceedFrom : Except Expansion Cursor → Expansion
  | .ok s => resume sw ask (s.reading,s.progress) (t.drop s.index)
  | .error e => e

lemma proceedFrom_map (e : Exit) :
    proceedFrom sw ask t (e.map fun (i,p) => { index := i, progress := p }) = goOn sw ask t e := by
  cases e <;> rfl

/-- A turn does what the pass does up to where the turn ends. -/
theorem resume_turn (s : Cursor) (h : s.index < t.length) :
    resume sw ask (s.reading,s.progress) (t.drop s.index) =
      proceedFrom sw ask t (turn sw ask t s h) := by
  obtain ⟨i,escaped,p⟩ := s
  rw [List.drop_eq_getElem_cons h,resume_cons,turn]
  simp only at h ⊢
  generalize t[i] = c
  cases escaped with
  | true =>
    by_cases hc : c = '$' <;> simp [Cursor.reading,step,Atom.shed,proceedFrom,hc]
  | false =>
    by_cases hp : c = '%' ∧ sw.dos = true
    · simp [Cursor.reading,step,readOutside,hp,proceedFrom_map,percentAt,resume_percentLoop]
    by_cases hd : c = '$' ∧ sw.sh = true
    · simp [Cursor.reading,step,readOutside,hd,proceedFrom_map,resume_dollarAt]
    by_cases hb : c = '\\' ∧ sw.sh = true
    · simp [Cursor.reading,step,readOutside,hb,proceedFrom]
    · simp [Cursor.reading,step,readOutside,hp,hd,hb,proceedFrom]

variable {sw ask t}

/-- A turn goes on, but not beyond the end of the template, or a failure ends it. -/
def Forward (t : Text) (s : Cursor) : Except Expansion Cursor → Prop
  | .ok s' => s.index < s'.index ∧ s'.index ≤ t.length
  | .error e => ∃ f, e.outcome = .error f

lemma Advances.forward {s : Cursor} {e : Exit} (h : Advances ask t s.index s.progress e) :
    Forward t s (e.map fun (i,p) => { index := i, progress := p }) := by
  cases e with
  | ok v => exact ⟨h.1,h.2.1⟩
  | error e =>
    obtain ⟨key,f,-,hf⟩ := h
    exact ⟨f,hf⟩

lemma turn_forward (s : Cursor) (h : s.index < t.length) : Forward t s (turn sw ask t s h) := by
  have hone : s.index < s.index + 1 ∧ s.index + 1 ≤ t.length := ⟨Nat.lt_succ_self _,h⟩
  rw [turn]
  split
  · exact hone
  split
  · exact (percentAt_advances h).forward
  split
  · exact (dollarAt_advances sw.defaults h).forward
  split
  · exact hone
  · exact hone

variable (sw ask t)

/-- The outer loop: what its turns read, each from an index to where it leaves off, and what comes of it
all. -/
def scan (s : Cursor) : List (Nat × Nat) × Expansion :=
  if h : s.index < t.length then
    match _ : turn sw ask t s h with
    | .ok s' =>
      let r := scan s'
      ((s.index,s'.index) :: r.1,r.2)
    | .error e => ([],e)
  else ([],(s.progress.write s.reading.cut).finish)
termination_by t.length - s.index
decreasing_by
  have hf := @turn_forward sw ask t s h
  rw [‹turn sw ask t s h = .ok s'›] at hf
  obtain ⟨hlt,hle⟩ := hf
  omega

/-- The loops together do what the pass does. -/
theorem scan_snd (s : Cursor) :
    (scan sw ask t s).2 = resume sw ask (s.reading,s.progress) (t.drop s.index) := by
  fun_induction scan sw ask t s with
  | case1 s h s' hs r ih => rw [resume_turn sw ask t s h,hs,proceedFrom,← ih]
  | case2 s h e hs => rw [resume_turn sw ask t s h,hs,proceedFrom]
  | case3 s h => rw [List.drop_eq_nil_of_le (Nat.le_of_not_lt h),resume_nil]

/-- What is read in one turn after another, from an index to another: no stretch is empty, and each begins
where the one before it has left off. -/
inductive Follow : Nat → Nat → List (Nat × Nat) → Prop
  | nil (i : Nat) : Follow i i []
  | cons {i j n : Nat} {xs : List (Nat × Nat)} (h : i < j) (hrest : Follow j n xs) :
      Follow i n ((i,j) :: xs)

/-- The indices from one to another. -/
def indices (s : Nat × Nat) : List Nat := List.range' s.1 (s.2 - s.1)

lemma indices_append {i j n : Nat} (hij : i ≤ j) (hjn : j ≤ n) :
    indices (i,j) ++ indices (j,n) = indices (i,n) := by
  have h := List.range'_append_1 (s := i) (m := j - i) (n := n - j)
  rw [show i + (j - i) = j by omega,show j - i + (n - j) = n - i by omega] at h
  exact h

section
variable {i n : Nat} {xs : List (Nat × Nat)}

lemma Follow.le (h : Follow i n xs) : i ≤ n := by
  induction h with
  | nil => exact Nat.le_refl _
  | cons h hrest ih => omega

lemma Follow.nonempty (h : Follow i n xs) : ∀ x ∈ xs, x.1 < x.2 := by
  induction h with
  | nil => nofun
  | cons h hrest ih => exact List.forall_mem_cons.2 ⟨h,ih⟩

lemma Follow.length_le (h : Follow i n xs) : xs.length ≤ n - i := by
  induction h with
  | nil => exact Nat.zero_le _
  | cons h hrest ih =>
    have hle := hrest.le
    rw [List.length_cons]
    omega

/-- Stretches that follow one another have every index once, in order. -/
lemma Follow.flatMap_indices (h : Follow i n xs) : xs.flatMap indices = indices (i,n) := by
  induction h with
  | nil => simp [indices]
  | cons h hrest ih => rw [List.flatMap_cons,ih,indices_append (Nat.le_of_lt h) hrest.le]

end

/-- The turns read up to the end of the template, unless a failure ends them before. -/
theorem scan_fst (s : Cursor) (hl : s.index ≤ t.length) :
    ∃ n ≤ t.length, Follow s.index n (scan sw ask t s).1 ∧
      ((∃ x, (scan sw ask t s).2.outcome = .ok x) → n = t.length) ∧
      ((∃ f, (scan sw ask t s).2.outcome = .error f) → n < t.length) := by
  fun_induction scan sw ask t s with
  | case1 s h s' hs r ih =>
    have hf := @turn_forward sw ask t s h
    rw [hs] at hf
    obtain ⟨hlt,hle⟩ := hf
    obtain ⟨n,hn,hfollow,hok,herror⟩ := ih hle
    exact ⟨n,hn,.cons hlt hfollow,hok,herror⟩
  | case2 s h e hs =>
    have hf := @turn_forward sw ask t s h
    rw [hs] at hf
    obtain ⟨f,hf⟩ := hf
    refine ⟨s.index,hl,.nil _,?_,fun _ => h⟩
    rintro ⟨x,hx⟩
    rw [hf] at hx
    cases hx
  | case3 s h =>
    have hend : s.index = t.length := Nat.le_antisymm hl (Nat.le_of_not_lt h)
    refine ⟨s.index,hl,.nil _,fun _ => hend,?_⟩
    rintro ⟨f,hf⟩
    cases hf

end

/-- From every start in the template the loops over expressions leave off behind it, at the end at the
latest, and only write more, unless a key fails; and they do what the pass does there. A loop over an
expression in braces goes into one default at most, and then either completes the expression at the brace
where the default is left, which is the first that no backslash stands before, or copies it at the end of the
template, where the default is left as it was written. So the outer loop comes to its end, in as many turns
as the template has characters at most. Its turns read stretches that are not empty, follow one another
without a gap and have every index once, and what comes of them is what comes of the pass. -/
theorem loops_partition (sw : Switches) (ask : Lookup) (t : Text) :
    (∀ start p, start < t.length →
      let percent := percentAt ask t p start
      let dollar := dollarAt ask t sw.defaults p start
      Advances ask t start p percent ∧
      resume sw ask (.percent [],p) (t.drop (start + 1)) = goOn sw ask t percent ∧
      Advances ask t start p dollar.exit ∧
      resume sw ask (.dollar,p) (t.drop (start + 1)) = goOn sw ask t dollar.exit ∧
      (dollar.entries = [] ∨ ∃ k name, dollar.entries = [k] ∧ start < k ∧ t[k]? = some (':' : CodePoint) ∧
        dollar.exit = leaveDefault ask t p name (defaultAt t k))) ∧
    (∀ start, t[start]? = some (':' : CodePoint) →
      (∃ b rest, Atom.brace ∉ b ∧ t.drop (start + 1) = spelled b ++ ('}' :: rest : Text) ∧
        defaultAt t start = (start + 1 + (spelled b).length,unescaped defaultMarks b)) ∨
      ∃ b tail, Atom.brace ∉ b ∧ Dangling tail ∧ t.drop (start + 1) = spelled b ++ tail ∧
        defaultAt t start = (t.length,t.drop start)) ∧
    let run := scan sw ask t {}
    run.2 = expandWith sw ask t ∧ (∀ x ∈ run.1, x.1 < x.2) ∧ run.1.length ≤ t.length ∧
    ((∃ x, run.2.outcome = .ok x) → run.1.flatMap indices = List.range t.length) ∧
    ∀ f, run.2.outcome = .error f →
      ∃ n < t.length, run.1.flatMap indices = List.range n ∧ run.1.length ≤ n := by
  refine ⟨fun start p h => ?_,fun start hc => ?_,?_⟩
  · refine ⟨percentAt_advances h,resume_percentLoop sw ask t p [] (start + 1),
      dollarAt_advances sw.defaults h,resume_dollarAt sw ask t p start,?_⟩
    obtain ⟨hnone,-⟩ | hone := @dollarAt_cases ask t start p sw.defaults h
    · exact .inl hnone
    · exact .inr hone
  · obtain ⟨h,-⟩ := List.getElem?_eq_some_iff.1 hc
    exact defaultAt_cases h
  · intro run
    obtain ⟨n,hn,hfollow,hok,herror⟩ := scan_fst sw ask t {} (Nat.zero_le _)
    have hrange : run.1.flatMap indices = List.range n := by
      rw [hfollow.flatMap_indices,indices,List.range_eq_range']
      rfl
    have hcount : run.1.length ≤ n := hfollow.length_le
    refine ⟨scan_snd sw ask t {},hfollow.nonempty,by omega,fun hx => ?_,fun f hf => ?_⟩
    · rw [hrange,hok hx]
    · exact ⟨n,herror ⟨f,hf⟩,hrange,hcount⟩

/-- A default that holds a brace behind a backslash, and a `%` at the end; with a key that has no value, and
with one that fails. -/
theorem loops_around_default :
    let t : Text := ['$','{','a',':','\\','}','}','%']
    let absent : Lookup := .steady fun _ => .absent
    let failing : Lookup := .steady fun k => .failure (.missingKey k)
    Advances absent t 0 {} (dollarAt absent t true {} 0).exit ∧
    (dollarAt absent t true {} 0).entries = [3] ∧ defaultAt t 3 = (6,(['}'] : Text)) ∧
    (∃ b rest, Atom.brace ∉ b ∧ t.drop 4 = spelled b ++ ('}' :: rest : Text) ∧
      defaultAt t 3 = (4 + (spelled b).length,unescaped defaultMarks b)) ∧
    (scan {} absent t {}).2.outcome = .ok ['}','%'] ∧
    (scan {} absent t {}).1.flatMap indices = List.range 8 ∧
    (scan {} failing t {}).2.outcome = .error (.missingKey ['a']) ∧
    (scan {} failing t {}).1.length < 8 := by
  intro t absent failing
  obtain ⟨hloops,hdefaults,heq,-,-,hcover,-⟩ := loops_partition {} absent t
  obtain ⟨-,-,heq',-,-,-,herror⟩ := loops_partition {} failing t
  obtain ⟨-,-,hadvances,-,-⟩ := hloops 0 {} (by decide)
  have hentries : (dollarAt absent t true {} 0).entries = [3] := by
    simp [t,dollarAt,bracedLoop,defaultAt,defaultLoop,Visit.entering]
  have hdefault : defaultAt t 3 = (6,(['}'] : Text)) := by
    simp [t,defaultAt,defaultLoop,Atom.shed,defaultMarks]
  have hbrace : ∃ b rest, Atom.brace ∉ b ∧ t.drop 4 = spelled b ++ ('}' :: rest : Text) ∧
      defaultAt t 3 = (4 + (spelled b).length,unescaped defaultMarks b) := by
    obtain h | ⟨b,tail,-,-,-,hend⟩ := hdefaults 3 rfl
    · exact h
    · rw [hdefault] at hend
      cases hend
  have hok : (scan {} absent t {}).2.outcome = .ok ['}','%'] := by
    rw [heq]
    rfl
  have hfails : (scan {} failing t {}).2.outcome = .error (.missingKey ['a']) := by
    rw [heq']
    rfl
  obtain ⟨n,hn,-,hcount⟩ := herror _ hfails
  exact ⟨hadvances,hentries,hdefault,hbrace,hok,hcover ⟨_,hok⟩,hfails,Nat.lt_of_le_of_lt hcount hn⟩

end ShellTemplate.Template
