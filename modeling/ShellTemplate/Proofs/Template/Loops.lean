import ShellTemplate.Proofs.Template.Atom
import ShellTemplate.Proofs.Template.Step

/-! A template read by index. Each kind of expression has a loop of its own, which is given the index where
the expression begins and leaves the index where the reading goes on. A character is read only with a proof
that its index is in range. What the loops do together is the pass. -/
namespace ShellTemplate.Template

/-- Where a loop leaves off, with what has been done by then, unless a failure ends it. -/
abbrev Exit := Except Expansion (Nat × Progress)

/-- What a loop over an expression in braces did: where it went into a default, and where it left off. -/
structure Visit where
  entries : List Nat := []
  exit : Exit

def Visit.entering (i : Nat) (v : Visit) : Visit := { v with entries := i :: v.entries }

section
variable (ask : Lookup) (t : Text)

/-- The name behind a `%`, from an index on. What stops the name is left to be read again. -/
def percentLoop (p : Progress) (name : Text) (i : Nat) : Exit :=
  if h : i < t.length then
    if t[i] = '%' then
      if name = [] then .ok (i + 1,p.write ['%'])
      else (p.fill ask ⟨.dos,name,none⟩).map (i + 1,·)
    else if Text.isAlphanumeric t[i] then percentLoop p (name ++ [t[i]]) (i + 1)
    else .ok (i,p.write ('%' :: name))
  else .ok (i,p.write ('%' :: name))
termination_by t.length - i

/-- The expression whose `%` is at an index. -/
def percentAt (p : Progress) (start : Nat) : Exit := percentLoop ask t p [] (start + 1)

/-- The default whose separator is at `start`, from an index on: where its brace is, which is left to be
read again, and its value; or the end of the template and all from the separator on, as it is. -/
def defaultLoop (start : Nat) (value : Text) (escaped : Bool) (i : Nat) : Nat × Text :=
  if h : i < t.length then
    if escaped then defaultLoop start (value ++ (Atom.pair t[i]).shed defaultMarks) false (i + 1)
    else if t[i] = '}' then (i,value)
    else if t[i] = '\\' then defaultLoop start value true (i + 1)
    else defaultLoop start (value ++ [t[i]]) false (i + 1)
  else (i,(t.take i).drop start)
termination_by t.length - i

def defaultAt (start : Nat) : Nat × Text := defaultLoop t start [] false (start + 1)

lemma le_defaultLoop (start : Nat) (value : Text) (escaped : Bool) (i : Nat) :
    i ≤ (defaultLoop t start value escaped i).1 := by
  fun_induction defaultLoop t start value escaped i with
  | case1 value i h ih => omega
  | case2 => exact Nat.le_refl _
  | case3 value i h ih => omega
  | case4 value i h ih => omega
  | case5 => exact Nat.le_refl _

variable (defaults : Bool) (p : Progress)

/-- The body of an expression in braces, from an index on, with the default that has been read. -/
def bracedLoop (name : Text) (escaped : Bool) (fallback : Option Text) (i : Nat) : Visit :=
  if h : i < t.length then
    if escaped then bracedLoop (name ++ (Atom.pair t[i]).shed nameMarks) false fallback (i + 1)
    else if t[i] = '}' then
      { exit := (p.fill ask ⟨.sh,Text.trim name,fallback⟩).map (i + 1,·) }
    else if t[i] = ':' ∧ defaults then
      (bracedLoop name false (some (defaultAt t i).2) (defaultAt t i).1).entering i
    else if t[i] = '\\' then bracedLoop name true fallback (i + 1)
    else bracedLoop (name ++ [t[i]]) false fallback (i + 1)
  else
    { exit := .ok (i,p.write ('$' :: '{' ::
        (name ++ (if escaped then ['\\'] else [] : Text) ++ fallback.getD []))) }
termination_by t.length - i
decreasing_by
  · omega
  · have := le_defaultLoop t i [] false (i + 1)
    simp only [defaultAt]
    omega
  · omega
  · omega

/-- The expression whose `$` is at an index. -/
def dollarAt (start : Nat) : Visit :=
  if h : start + 1 < t.length then
    if t[start + 1] = '{' then bracedLoop ask t defaults p [] false none (start + 2)
    else { exit := .ok (start + 2,p.write ['$',t[start + 1]]) }
  else { exit := .ok (start + 1,p.write ['$']) }

/-- How an expression goes on where its default has left off: it is complete at the brace, or the template
has ended and it is copied. -/
def leaveDefault (name : Text) (d : Nat × Text) : Exit :=
  if d.1 < t.length then (p.fill ask ⟨.sh,Text.trim name,some d.2⟩).map (d.1 + 1,·)
  else .ok (d.1,p.write ('$' :: '{' :: (name ++ d.2)))

end

section
variable (sw : Switches) (ask : Lookup) (t : Text)

/-- What comes of the template once a loop has left off. -/
def goOn : Exit → Expansion
  | .ok (i,p) => resume sw ask (.outside,p) (t.drop i)
  | .error e => e

lemma goOn_fill (s : Slot) (p : Progress) (i : Nat) :
    goOn sw ask t ((p.fill ask s).map (i,·)) = proceed sw ask (close ask s p) (t.drop i) := by
  rw [close]
  cases p.fill ask s <;> rfl

/-- A loop that reaches the end of the template has copied what the pass would copy there. -/
lemma goOn_end {i : Nat} (h : ¬ i < t.length) (r : Reading) (p : Progress) :
    resume sw ask (r,p) (t.drop i) = goOn sw ask t (.ok (i,p.write r.cut)) := by
  have hnil : t.drop i = [] := List.drop_eq_nil_of_le (Nat.le_of_not_lt h)
  rw [goOn,hnil,resume_nil,resume_nil]
  simp [Reading.cut]

/-- The loop over a name behind `%` does what the pass does there. -/
theorem resume_percentLoop (p : Progress) (name : Text) (i : Nat) :
    resume sw ask (.percent name,p) (t.drop i) = goOn sw ask t (percentLoop ask t p name i) := by
  fun_induction percentLoop ask t p name i with
  | case1 i h hc =>
    rw [List.drop_eq_getElem_cons h,resume_cons,hc]
    simp [step,goOn]
  | case2 name i h hc hn =>
    rw [List.drop_eq_getElem_cons h,resume_cons,hc,goOn_fill]
    simp [step,hn]
  | case3 name i h hc ha ih =>
    rw [List.drop_eq_getElem_cons h,resume_cons,← ih]
    simp [step,hc,ha]
  | case4 name i h hc ha =>
    rw [goOn,List.drop_eq_getElem_cons h,resume_cons,resume_cons]
    simp [step,hc,ha]
  | case5 name i h => exact goOn_end sw ask t h _ p

lemma stretch_push {t : Text} {start i : Nat} (hi : start ≤ i) (h : i < t.length) :
    (t.take i).drop start ++ [t[i]] = (t.take (i + 1)).drop start := by
  rw [← List.take_append_getElem h,List.drop_append_of_le_length (by simp; omega)]

/-- So does the loop over a default, with what it leaves over to the loop around it. -/
lemma resume_defaultLoop (p : Progress) (name value : Text) (escaped : Bool) {start i : Nat}
    (hi : start < i) (hl : i ≤ t.length) :
    resume sw ask (.fallback name value ((t.take i).drop start) escaped,p) (t.drop i) =
      goOn sw ask t (leaveDefault ask t p name (defaultLoop t start value escaped i)) := by
  fun_induction defaultLoop t start value escaped i with
  | case1 value i h ih =>
    rw [List.drop_eq_getElem_cons h,resume_cons,← ih (by omega) h,← stretch_push (Nat.le_of_lt hi) h]
    simp [step,Atom.shed,defaultMarks]
  | case2 value escaped i h he hc =>
    rw [List.drop_eq_getElem_cons h,resume_cons,hc,leaveDefault,if_pos h,goOn_fill]
    simp [step,he]
  | case3 value escaped i h he hc hb ih =>
    rw [List.drop_eq_getElem_cons h,resume_cons,← ih (by omega) h,← stretch_push (Nat.le_of_lt hi) h,hb]
    simp [step,he]
  | case4 value escaped i h he hc hb ih =>
    rw [List.drop_eq_getElem_cons h,resume_cons,← ih (by omega) h,← stretch_push (Nat.le_of_lt hi) h]
    simp [step,he,hc,hb]
  | case5 value escaped i h =>
    rw [leaveDefault,if_neg h]
    exact goOn_end sw ask t h _ p

/-- A default leaves its brace to be read again. -/
lemma defaultLoop_brace (start : Nat) (value : Text) (escaped : Bool) (i : Nat) :
    let d := defaultLoop t start value escaped i
    d.1 < t.length → t[d.1]? = some ('}' : CodePoint) := by
  fun_induction defaultLoop t start value escaped i with
  | case1 value i h ih => exact ih
  | case2 value escaped i h he hc => exact fun _ => hc ▸ List.getElem?_eq_getElem h
  | case3 value escaped i h he hc hb ih => exact ih
  | case4 value escaped i h he hc hb ih => exact ih
  | case5 value escaped i h => exact fun hlt => absurd hlt h

/-- Behind a default the loop over a body does not go on: it is at the brace or at the end. -/
lemma bracedLoop_left (defaults : Bool) (p : Progress) (name : Text) (k : Nat) :
    bracedLoop ask t defaults p name false (some (defaultAt t k).2) (defaultAt t k).1 =
      { exit := leaveDefault ask t p name (defaultAt t k) } := by
  have hbrace : (defaultAt t k).1 < t.length → t[(defaultAt t k).1]? = some ('}' : CodePoint) :=
    defaultLoop_brace t k [] false (k + 1)
  rw [bracedLoop,leaveDefault]
  by_cases h : (defaultAt t k).1 < t.length
  · have hc : t[(defaultAt t k).1] = '}' := by simpa [h] using hbrace h
    simp [h,hc]
  · simp [h]

/-- The loop over a body does what the pass does there. -/
theorem resume_bracedLoop (p : Progress) (name : Text) (escaped : Bool) {fallback : Option Text}
    (hf : fallback = none) (i : Nat) :
    resume sw ask (.braced name escaped,p) (t.drop i) =
      goOn sw ask t (bracedLoop ask t sw.defaults p name escaped fallback i).exit := by
  fun_induction bracedLoop ask t sw.defaults p name escaped fallback i with
  | case1 name fallback i h ih =>
    rw [List.drop_eq_getElem_cons h,resume_cons,← ih hf]
    by_cases hc : t[i] = ':' <;> simp [step,Atom.shed,nameMarks,hc]
  | case2 name escaped fallback i h he hc =>
    rw [List.drop_eq_getElem_cons h,resume_cons,hc,goOn_fill,hf]
    simp [step,he]
  | case3 name escaped fallback i h he hc hs ih =>
    have hstretch : (t.take (i + 1)).drop i = ([':'] : Text) := by
      rw [← stretch_push (Nat.le_refl i) h,hs.1]
      simp
    have hdefault := resume_defaultLoop sw ask t p name [] false (Nat.lt_succ_self i) h
    rw [hstretch] at hdefault
    rw [List.drop_eq_getElem_cons h,resume_cons,hs.1,Visit.entering,bracedLoop_left]
    simpa [step,he,hs.2,defaultAt] using hdefault
  | case4 name escaped fallback i h he hc hs hb ih =>
    rw [List.drop_eq_getElem_cons h,resume_cons,hb,← ih hf]
    simp [step,he]
  | case5 name escaped fallback i h he hc hs hb ih =>
    rw [List.drop_eq_getElem_cons h,resume_cons,← ih hf]
    simp [step,he,hc,hs,hb]
  | case6 name escaped fallback i h =>
    rw [hf]
    simpa [Reading.cut] using goOn_end sw ask t h (.braced name escaped) p

theorem resume_dollarAt (p : Progress) (start : Nat) :
    resume sw ask (.dollar,p) (t.drop (start + 1)) =
      goOn sw ask t (dollarAt ask t sw.defaults p start).exit := by
  rw [dollarAt]
  split
  · rename_i h
    rw [List.drop_eq_getElem_cons h,resume_cons]
    split
    · rename_i hc
      rw [← resume_bracedLoop sw ask t p [] false rfl,hc]
      simp [step]
    · rename_i hc
      simp [step,hc,goOn]
  · rename_i h
    exact goOn_end sw ask t h .dollar p

end

end ShellTemplate.Template
