import ShellTemplate.Proofs.Json.Grammar

/-! Reading JSON by its grammar. A text is read as a value just if the grammar derives it: the reader follows
every derivation, and what it has read up to its end is one. -/
namespace ShellTemplate.Json

/-- Every step that the reader can take, if so many containers may be open at once. -/
inductive Step (depth : Nat) : State → Symbol → State → Prop
  | scalar {fs x v} (h : Denotes x v) : Step depth (.value fs) x (deliver v fs)
  | openArray {fs} (h : fs.length < depth) : Step depth (.value fs) .openArray (.firstItem fs)
  | openObject {fs} (h : fs.length < depth) : Step depth (.value fs) .openObject (.firstName fs)
  | emptyArray {fs} : Step depth (.firstItem fs) .closeArray (deliver (.array []) fs)
  | firstItem {fs x s} (hx : x ≠ .closeArray) (h : Step depth (.value (.array [] :: fs)) x s) :
      Step depth (.firstItem fs) x s
  | emptyObject {fs} : Step depth (.firstName fs) .closeObject (deliver (.object []) fs)
  | firstName {fs k} : Step depth (.firstName fs) (.text k) (.colon [] k fs)
  | nextName {ms fs k} : Step depth (.nextName ms fs) (.text k) (.colon ms k fs)
  | colon {ms k fs} : Step depth (.colon ms k fs) .colon (.value (.object ms k :: fs))
  | nextItem {vs fs} : Step depth (.itemEnd vs fs) .comma (.value (.array vs :: fs))
  | closeArray {vs fs} : Step depth (.itemEnd vs fs) .closeArray (deliver (.array vs.reverse) fs)
  | nextMember {ms fs} : Step depth (.memberEnd ms fs) .comma (.nextName ms fs)
  | closeObject {ms fs} : Step depth (.memberEnd ms fs) .closeObject (deliver (.object ms.reverse) fs)

variable {depth : Nat}

lemma beginValue_ok {fs : List Frame} {x : Symbol} {s : State} (h : beginValue depth fs x = .ok s) :
    Step depth (.value fs) x s := by
  cases x with
  | int negative ds =>
    rw [beginValue] at h
    split at h
    · cases h
    · cases h
      exact .scalar (.int (by omega))
  | openArray =>
    rw [beginValue] at h
    split at h
    · cases h
      exact .openArray ‹_›
    · cases h
  | openObject =>
    rw [beginValue] at h
    split at h
    · cases h
      exact .openObject ‹_›
    · cases h
  | null | bool | float | text =>
    cases h
    exact .scalar (by constructor)
  | _ => cases h

lemma step_eq_ok_iff {s s' : State} {x : Symbol} : s.step depth x = .ok s' ↔ Step depth s x s' := by
  constructor
  · intro h
    cases s with
    | value fs => exact beginValue_ok h
    | firstItem fs =>
      rw [State.step] at h
      split at h
      · rename_i hx
        cases h
        exact hx ▸ .emptyArray
      · rename_i hx
        exact .firstItem hx (beginValue_ok h)
    | colon ms k fs =>
      rw [State.step] at h
      split at h
      · rename_i hx
        cases h
        exact hx ▸ .colon
      · cases h
    | finished v => cases h
    | _ => cases x <;> cases h <;> constructor
  · intro h
    induction h with
    | scalar h =>
      cases h with
      | int h => exact if_neg (by omega)
      | _ => rfl
    | openArray h => exact if_pos h
    | openObject h => exact if_pos h
    | firstItem hx h ih => exact (if_neg hx).trans ih
    | _ => rfl

/-- The rest of a text leads from a state to a value that is complete, and the text ends there. -/
def Finishes (depth : Nat) (s : State) (l : Lexed) (v : Json) : Prop :=
  s.steps depth l.lexemes = .ok (.finished v) ∧ l.stop = .done

lemma finishes_push {s : State} {l : Lexed} {v : Json} {position : Nat} {x : Symbol} :
    Finishes depth s (l.push position x) v ↔ ∃ s', Step depth s x s' ∧ Finishes depth s' l v := by
  simp only [Finishes,Lexed.push,State.steps,← step_eq_ok_iff]
  cases s.step depth x with
  | ok s' => simp
  | error cause => simp

lemma read_eq_ok_iff_finishes {t : Text} {v : Json} :
    Json.read depth t = .ok v ↔
      t.head? ≠ some ('\uFEFF' : CodePoint) ∧ Finishes depth (.value []) (lex t) v := by
  rw [Json.read,Finishes]
  split
  · rename_i h
    exact iff_of_false nofun fun hv => hv.1 h
  · rename_i h
    simp only [ne_eq,h,not_false_eq_true,true_and]
    cases hsteps : (State.value []).steps depth (lex t).lexemes with
    | error r => exact iff_of_false nofun nofun
    | ok s =>
      cases hstop : (lex t).stop with
      | done => cases s <;> simp
      | stray => simp
      | broken f => dsimp only; split <;> simp

lemma not_finishes_nil {s : State} {l : Lexed} {v : Json} (hl : l.lexemes = []) (h : Finishes depth s l v) :
    s = .finished v := by
  rw [Finishes,hl,State.steps] at h
  exact Except.ok.inj h.1

/-- The text of a phrase brings the reader to where the phrase is complete, whatever it has read before. -/
def Phrase.Followed (depth n : Nat) (t : Text) : Phrase → Prop
  | .value v | .spaced v => ∀ (fs : List Frame) (r : Text) (w : Json),
      n + fs.length ≤ depth → Ends r → (∀ q, Finishes depth (deliver v fs) (lexFrom q r) w) →
      ∀ q, Finishes depth (.value fs) (lexFrom q (t ++ r)) w
  | .items vs => ∀ (fs : List Frame) (before : List Json) (r : Text) (w : Json),
      n + fs.length < depth →
      (∀ q, Finishes depth (deliver (.array (before.reverse ++ vs)) fs) (lexFrom q r) w) →
      ∀ q, Finishes depth (.value (.array before :: fs)) (lexFrom q (t ++ (']' :: r : Text))) w
  | .members ms => ∀ (fs : List Frame) (before : List (Text × Json)) (r : Text) (w : Json),
      n + fs.length < depth →
      (∀ q, Finishes depth (deliver (.object (before.reverse ++ ms)) fs) (lexFrom q r) w) →
      ∀ q, Finishes depth (.nextName before fs) (lexFrom q (t ++ ('}' :: r : Text))) w

/-- A mark is read and takes the reader one step. -/
lemma finishes_mark {s s' : State} {c : CodePoint} {x : Symbol} {t : Text} {w : Json} (hc : mark? c = some x)
    (hx : Step depth s x s') (h : ∀ q, Finishes depth s' (lexFrom q t) w) (q : Nat) :
    Finishes depth s (lexFrom q (c :: t)) w := by
  rw [lexFrom_mark hc]
  exact finishes_push.2 ⟨s',hx,h _⟩

lemma finishes_space {s : State} {a t : Text} {w : Json} (ha : Space a)
    (h : ∀ q, Finishes depth s (lexFrom q t) w) (q : Nat) : Finishes depth s (lexFrom q (a ++ t)) w := by
  rw [lexFrom_space ha]
  exact h _

lemma finishes_name {s s' : State} {k t r : Text} {w : Json} (ht : SpelledName k t)
    (hx : Step depth s (.text k) s') (h : ∀ q, Finishes depth s' (lexFrom q r) w) (q : Nat) :
    Finishes depth s (lexFrom q (t ++ r)) w := by
  obtain ⟨a,u,b,rfl,ha,hb,hu⟩ := ht
  have hname : ∀ q, Finishes depth s (lexFrom q ('"' :: (u ++ ('"' :: (b ++ r) : Text)))) w := by
    intro q
    rw [lexFrom_quote (readString_spelled hu _ _ _)]
    exact finishes_push.2 ⟨s',hx,finishes_space hb h _⟩
  simpa using finishes_space ha hname q

lemma finishes_firstItem {fs : List Frame} {l : Lexed} {w : Json}
    (h : Finishes depth (.value (.array [] :: fs)) l w) : Finishes depth (.firstItem fs) l w := by
  obtain ⟨_ | ⟨⟨position,x⟩,ls⟩,p,stop⟩ := l
  · cases not_finishes_nil rfl h
  · obtain ⟨s,hx,hs⟩ := finishes_push.1 (show Finishes depth _ (Lexed.push position x ⟨ls,p,stop⟩) w from h)
    refine finishes_push.2 ⟨s,.firstItem ?_ hx,hs⟩
    rintro rfl
    cases hx with
    | scalar h => cases h

lemma finishes_firstName {fs : List Frame} {l : Lexed} {w : Json} (h : Finishes depth (.nextName [] fs) l w) :
    Finishes depth (.firstName fs) l w := by
  obtain ⟨_ | ⟨⟨position,x⟩,ls⟩,p,stop⟩ := l
  · cases not_finishes_nil rfl h
  · obtain ⟨s,hx,hs⟩ := finishes_push.1 (show Finishes depth _ (Lexed.push position x ⟨ls,p,stop⟩) w from h)
    cases hx with
    | nextName => exact finishes_push.2 ⟨_,.firstName,hs⟩

lemma ends_cons {c : CodePoint} {r : Text} (h : isSpace c ∨ c = ',' ∨ c = ']' ∨ c = '}') : Ends (c :: r) := by
  rintro d ⟨⟩
  exact h

lemma Ends.space {a r : Text} (ha : Space a) (hr : Ends r) : Ends (a ++ r) := by
  cases a with
  | nil => exact hr
  | cons c a => exact ends_cons (.inl (ha c List.mem_cons_self))

/-- The reader follows every derivation. -/
theorem Spelled.followed {n : Nat} {p : Phrase} {t : Text} (h : Spelled n p t) : p.Followed depth n t := by
  induction h with
  | scalar hs hv =>
    intro fs r w hd hr hnext q
    rw [lexFrom_spelled hs fun _ => hr]
    exact finishes_push.2 ⟨_,.scalar hv,hnext _⟩
  | @emptyArray n a ha =>
    intro fs r w hd hr hnext
    have hclose := finishes_space ha (finishes_mark (c := ']') rfl .emptyArray hnext)
    simpa using finishes_mark (c := '[') rfl (.openArray (by omega)) hclose
  | @array n vs t h ih =>
    intro fs r w hd hr hnext
    have hitems := fun q => finishes_firstItem (ih fs [] r w (by omega) hnext q)
    simpa using finishes_mark (c := '[') rfl (.openArray (by omega)) hitems
  | @emptyObject n a ha =>
    intro fs r w hd hr hnext
    have hclose := finishes_space ha (finishes_mark (c := '}') rfl .emptyObject hnext)
    simpa using finishes_mark (c := '{') rfl (.openObject (by omega)) hclose
  | @object n ms t h ih =>
    intro fs r w hd hr hnext
    have hmembers := fun q => finishes_firstName (ih fs [] r w (by omega) hnext q)
    simpa using finishes_mark (c := '{') rfl (.openObject (by omega)) hmembers
  | @spaced n v a t b ha hb h ih =>
    intro fs r w hd hr hnext
    have hvalue := ih fs (b ++ r) w hd (hr.space hb) (finishes_space hb hnext)
    simpa using finishes_space ha hvalue
  | lastItem hv ih =>
    intro fs before r w hd hnext
    refine ih (.array before :: fs) (']' :: r) w hd (ends_cons (by decide)) ?_
    exact finishes_mark rfl .closeArray (by simpa using hnext)
  | @item n v vs t u hv h ihv ih =>
    intro fs before r w hd hnext
    have hrest := ih fs (v :: before) r w hd (by simpa using hnext)
    have hcomma := finishes_mark (c := ',') (s := .itemEnd (v :: before) fs) rfl .nextItem hrest
    simpa using ihv (.array before :: fs) _ w hd (ends_cons (by decide)) hcomma
  | @lastMember n k v q t hk hv ih =>
    intro fs before r w hd hnext
    have hvalue := ih (.object before k :: fs) ('}' :: r) w hd (ends_cons (by decide))
      (finishes_mark rfl .closeObject (by simpa using hnext))
    simpa using finishes_name hk .nextName (finishes_mark (c := ':') rfl .colon hvalue)
  | @member n k v ms q t u hk hv h ihv ih =>
    intro fs before r w hd hnext
    have hrest := ih fs ((k,v) :: before) r w hd (by simpa using hnext)
    have hcomma := finishes_mark (c := ',') (s := .memberEnd ((k,v) :: before) fs) rfl .nextMember hrest
    have hvalue := ihv (.object before k :: fs) _ w hd (ends_cons (by decide)) hcomma
    simpa using finishes_name hk .nextName (finishes_mark (c := ':') rfl .colon hvalue)

/-- What leads on from a state is nothing but space, where the value is complete, or a symbol behind space. -/
lemma finishes_cases {s : State} {t : Text} {w : Json} {position : Nat}
    (h : Finishes depth s (lexFrom position t) w) : (s = .finished w ∧ Space t) ∨
      ∃ a u r x p q s', t = a ++ (u ++ r) ∧ Space a ∧ x.Spelled u ∧ r.length < t.length ∧
        lexFrom position t = (lexFrom q r).push p x ∧ Step depth s x s' ∧
          Finishes depth s' (lexFrom q r) w := by
  obtain ⟨hspace,hnil,-⟩ | ⟨-,hstop⟩ | ⟨a,u,r,x,p,q,rfl,ha,hne,hx,hlex⟩ := lexFrom_cases position t
  · exact .inl ⟨not_finishes_nil hnil h,hspace⟩
  · exact absurd h.2 hstop
  · rw [hlex] at h
    obtain ⟨s',hstep,hs'⟩ := finishes_push.1 h
    have hpos := List.length_pos_iff.2 hne
    refine .inr ⟨a,u,r,x,p,q,s',rfl,ha,hx,?_,hlex,hstep,hs'⟩
    simp only [List.length_append]
    omega

lemma Symbol.Spelled.eq_mark {c : CodePoint} {x : Symbol} {u : Text} (h : x.Spelled u)
    (hc : mark? c = some x) :
    u = [c] := by
  unfold mark? at hc
  split at hc <;> cases hc
  all_goals
    cases h with
    | number h => cases h
    | _ => rfl

lemma Symbol.Spelled.eq_text {k u : Text} (h : (Symbol.text k).Spelled u) :
    ∃ v, u = ('"' :: (v ++ (['"'] : Text)) : Text) ∧ SpelledText k v := by
  cases h with
  | number h => cases h
  | text h => exact ⟨_,rfl,h⟩

/-- Wherever the reader takes a text on from the beginning of a value, the text begins with the value. -/
def ValueIn (depth : Nat) (t : Text) : Prop := ∀ fs n q w, n + fs.length = depth →
  Finishes depth (.value fs) (lexFrom q t) w → ∃ a u r v q', t = a ++ (u ++ r) ∧ Space a ∧
    Spelled n (.value v) u ∧ r.length < t.length ∧ Finishes depth (deliver v fs) (lexFrom q' r) w

def ItemsIn (depth : Nat) (t : Text) : Prop := ∀ fs before n q w, n + fs.length + 1 = depth →
  Finishes depth (.value (.array before :: fs)) (lexFrom q t) w → ∃ u r vs q', t = u ++ (']' :: r : Text) ∧
    Spelled n (.items vs) u ∧ Finishes depth (deliver (.array (before.reverse ++ vs)) fs) (lexFrom q' r) w

def MembersIn (depth : Nat) (t : Text) : Prop := ∀ fs before n q w, n + fs.length + 1 = depth →
  Finishes depth (.nextName before fs) (lexFrom q t) w → ∃ u r ms q', t = u ++ ('}' :: r : Text) ∧
    Spelled n (.members ms) u ∧ Finishes depth (deliver (.object (before.reverse ++ ms)) fs) (lexFrom q' r) w

lemma array_in {t : Text} (hi : ItemsIn depth t) {fs : List Frame} {n q : Nat} {w : Json}
    (hn : n + fs.length + 1 = depth) (h : Finishes depth (.firstItem fs) (lexFrom q t) w) :
    ∃ u r vs q', t = u ++ (']' :: r : Text) ∧
      Spelled (n + 1) (.value (.array vs)) ('[' :: (u ++ ([']'] : Text))) ∧
      Finishes depth (deliver (.array vs) fs) (lexFrom q' r) w := by
  obtain ⟨hfin,-⟩ | ⟨a,u,r,x,p,q',s,rfl,ha,hx,-,hlex,hstep,hs⟩ := finishes_cases h
  · cases hfin
  · cases hstep with
    | emptyArray =>
      obtain rfl := hx.eq_mark (c := ']') rfl
      exact ⟨a,r,[],q',rfl,.emptyArray ha,hs⟩
    | firstItem hne hstep =>
      obtain ⟨u',r',vs,q'',ht,hvs,hrest⟩ := hi fs [] n q w hn
        (by rw [hlex]; exact finishes_push.2 ⟨s,hstep,hs⟩)
      exact ⟨u',r',vs,q'',ht,.array hvs,hrest⟩

lemma object_in {t : Text} (hm : MembersIn depth t) {fs : List Frame} {n q : Nat} {w : Json}
    (hn : n + fs.length + 1 = depth) (h : Finishes depth (.firstName fs) (lexFrom q t) w) :
    ∃ u r ms q', t = u ++ ('}' :: r : Text) ∧
      Spelled (n + 1) (.value (.object ms)) ('{' :: (u ++ (['}'] : Text))) ∧
      Finishes depth (deliver (.object ms) fs) (lexFrom q' r) w := by
  obtain ⟨hfin,-⟩ | ⟨a,u,r,x,p,q',s,rfl,ha,hx,-,hlex,hstep,hs⟩ := finishes_cases h
  · cases hfin
  · cases hstep with
    | emptyObject =>
      obtain rfl := hx.eq_mark (c := '}') rfl
      exact ⟨a,r,[],q',rfl,.emptyObject ha,hs⟩
    | firstName =>
      obtain ⟨u',r',ms,q'',ht,hms,hrest⟩ := hm fs [] n q w hn
        (by rw [hlex]; exact finishes_push.2 ⟨_,.nextName,hs⟩)
      exact ⟨u',r',ms,q'',ht,.object hms,hrest⟩

lemma valueIn {t : Text} (h : ∀ u : Text, u.length < t.length → ItemsIn depth u ∧ MembersIn depth u) :
    ValueIn depth t := by
  intro fs n q w hn hfin
  obtain ⟨hs,-⟩ | ⟨a,u,r,x,p,q',s,rfl,ha,hx,hr,hlex,hstep,hs⟩ := finishes_cases hfin
  · cases hs
  · cases hstep with
    | scalar hv => exact ⟨a,u,r,_,q',rfl,ha,.scalar hx hv,hr,hs⟩
    | openArray hd =>
      obtain rfl := hx.eq_mark (c := '[') rfl
      obtain ⟨m,rfl⟩ : ∃ m, n = m + 1 := ⟨n - 1,by omega⟩
      obtain ⟨u,r',vs,q'',rfl,hvs,hrest⟩ := array_in (n := m) (h r hr).1 (by omega) hs
      refine ⟨a,'[' :: (u ++ ([']'] : Text)),r',_,q'',by simp,ha,hvs,?_,hrest⟩
      simp only [List.length_append,List.length_cons] at hr ⊢
      omega
    | openObject hd =>
      obtain rfl := hx.eq_mark (c := '{') rfl
      obtain ⟨m,rfl⟩ : ∃ m, n = m + 1 := ⟨n - 1,by omega⟩
      obtain ⟨u,r',ms,q'',rfl,hms,hrest⟩ := object_in (n := m) (h r hr).2 (by omega) hs
      refine ⟨a,'{' :: (u ++ (['}'] : Text)),r',_,q'',by simp,ha,hms,?_,hrest⟩
      simp only [List.length_append,List.length_cons] at hr ⊢
      omega

lemma itemsIn {t : Text} (hv : ValueIn depth t) (h : ∀ u : Text, u.length < t.length → ItemsIn depth u) :
    ItemsIn depth t := by
  intro fs before n q w hn hfin
  obtain ⟨a,u,r,v,q',rfl,ha,hu,hr,hrest⟩ := hv (.array before :: fs) n q w hn hfin
  obtain ⟨hs,-⟩ | ⟨b,c,r',x,p,q'',s,rfl,hb,hx,hr',hlex,hstep,hs⟩ := finishes_cases hrest
  · cases hs
  · cases hstep with
    | nextItem =>
      obtain rfl := hx.eq_mark (c := ',') rfl
      obtain ⟨u',r'',vs,q₃,rfl,hvs,hlast⟩ := h r' (by omega) fs (v :: before) n q'' w hn hs
      refine ⟨a ++ (u ++ b) ++ (',' :: u' : Text),r'',v :: vs,q₃,by simp,.item (.spaced ha hb hu) hvs,?_⟩
      simpa using hlast
    | closeArray =>
      obtain rfl := hx.eq_mark (c := ']') rfl
      refine ⟨a ++ (u ++ b),r',[v],q'',by simp,.lastItem (.spaced ha hb hu),?_⟩
      simpa using hs

/-- A name and the mark behind it, up to the value. -/
lemma name_in {t : Text} {fs : List Frame} {before : List (Text × Json)} {q : Nat} {w : Json}
    (h : Finishes depth (.nextName before fs) (lexFrom q t) w) : ∃ k u r q', t = u ++ (':' :: r : Text) ∧
      SpelledName k u ∧ r.length < t.length ∧
        Finishes depth (.value (.object before k :: fs)) (lexFrom q' r) w := by
  obtain ⟨hs,-⟩ | ⟨a,u,r,x,p,q',s,rfl,ha,hx,hr,hlex,hstep,hs⟩ := finishes_cases h
  · cases hs
  · cases hstep with
    | nextName =>
      obtain ⟨v,rfl,hv⟩ := hx.eq_text
      obtain ⟨hs',-⟩ | ⟨b,c,r',x,p,q'',s,rfl,hb,hx,hr',hlex,hstep,hs'⟩ := finishes_cases hs
      · cases hs'
      · cases hstep with
        | colon =>
          obtain rfl := hx.eq_mark (c := ':') rfl
          exact ⟨_,a ++ ('"' :: (v ++ ('"' :: b : Text)) : Text),r',q'',by simp,
            ⟨a,v,b,rfl,ha,hb,hv⟩,by omega,hs'⟩

lemma membersIn {t : Text} (h : ∀ u : Text, u.length < t.length → ValueIn depth u ∧ MembersIn depth u) :
    MembersIn depth t := by
  intro fs before n q w hn hfin
  obtain ⟨k,m,r₀,q₀,rfl,hm,hr₀,hvalue⟩ := name_in hfin
  obtain ⟨a,u,r,v,q',rfl,ha,hu,hr,hrest⟩ := (h r₀ hr₀).1 (.object before k :: fs) n q₀ w hn hvalue
  obtain ⟨hs,-⟩ | ⟨b,c,r',x,p,q'',s,rfl,hb,hx,hr',hlex,hstep,hs⟩ := finishes_cases hrest
  · cases hs
  · cases hstep with
    | nextMember =>
      obtain rfl := hx.eq_mark (c := ',') rfl
      obtain ⟨u',r'',ms,q₃,rfl,hms,hlast⟩ := (h r' (by omega)).2 fs ((k,v) :: before) n q'' w hn hs
      refine ⟨m ++ (':' :: (a ++ (u ++ b) ++ (',' :: u' : Text)) : Text),r'',(k,v) :: ms,q₃,by simp,
        .member hm (.spaced ha hb hu) hms,?_⟩
      simpa using hlast
    | closeObject =>
      obtain rfl := hx.eq_mark (c := '}') rfl
      refine ⟨m ++ (':' :: (a ++ (u ++ b)) : Text),r',[(k,v)],q'',by simp,
        .lastMember hm (.spaced ha hb hu),?_⟩
      simpa using hs

/-- Every text is taken on as the grammar says. The induction is on the length of the text, which every
symbol that is read makes less. -/
lemma phrases_in (depth : Nat) (t : Text) : ValueIn depth t ∧ ItemsIn depth t ∧ MembersIn depth t := by
  induction h : t.length using Nat.strong_induction_on generalizing t with
  | h m ih =>
    subst h
    have hv : ValueIn depth t := valueIn fun u hu => (ih _ hu u rfl).2
    exact ⟨hv,itemsIn hv fun u hu => (ih _ hu u rfl).2.1,
      membersIn fun u hu => ⟨(ih _ hu u rfl).1,(ih _ hu u rfl).2.2⟩⟩

/-- A byte order mark begins no symbol. -/
lemma lexFrom_byteOrderMark (position : Nat) (t : Text) :
    lexFrom position ('\uFEFF' :: t) = ⟨[],position,.stray⟩ := by
  rw [lexFrom]
  rfl

/-- A text is read as a value just if it is that value, no deeper than it may be, with space around it. -/
theorem read_eq_ok_iff {t : Text} {v : Json} :
    Json.read depth t = .ok v ↔ Spelled depth (.spaced v) t := by
  rw [read_eq_ok_iff_finishes]
  constructor
  · rintro ⟨-,h⟩
    obtain ⟨a,u,r,v',q,rfl,ha,hu,-,hrest⟩ := (phrases_in depth t).1 [] depth 0 v (Nat.add_zero _) h
    obtain ⟨hs,hr⟩ | ⟨_,_,_,_,_,_,_,-,-,-,-,-,hstep,-⟩ := finishes_cases hrest
    · cases hs
      exact .spaced ha hr hu
    · cases hstep
  · intro h
    have hfin : Finishes depth (.value []) (lexFrom 0 (t ++ [])) v :=
      h.followed [] [] v (by simp) nofun (fun q => ⟨by rw [lexFrom]; rfl,by rw [lexFrom]⟩) 0
    rw [List.append_nil] at hfin
    refine ⟨fun hmark => ?_,hfin⟩
    obtain ⟨r,rfl⟩ := List.head?_eq_some_iff.1 hmark
    rw [lexFrom_byteOrderMark] at hfin
    cases hfin.2

end ShellTemplate.Json
