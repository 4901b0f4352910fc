import ShellTemplate.Log.Notice
import ShellTemplate.Proofs.Template.Grammar

/-! Values never steer a pass. The keys of a template, the texts between its slots and their order are
settled before any value is known; a context decides what stands in each slot and where a failure breaks
the pass off, and nothing else. -/
namespace ShellTemplate

def Piece.slot? : Piece → Option Slot
  | .copy _ => none
  | .slot s => some s

/-- What stands for a slot after this reply. -/
def Slot.filled (s : Slot) : Reply → Text
  | .value v => v.shown
  | _ => s.fallback.getD s.unresolved

/-- What stands for a piece in a context that replies so to its key. -/
def Piece.shown (ask : Text → Reply) : Piece → Text
  | .copy t => t
  | .slot s => s.filled (ask s.key)

/-- Whether a slot has got neither a value nor a fallback. -/
def Slot.missed (s : Slot) (r : Reply) : Bool := r = .absent && s.fallback = none

/-- The log entry for a slot that has got neither. -/
def Slot.entry (s : Slot) : Text :=
  match s.style with
  | .dos => "Unresolved DOS-style expression: ".toText ++ s.key
  | .sh => "Unresolved sh-style expression: ".toText ++ s.key

/-- What a context replies to keys that are asked for one after the other. -/
def Lookup.replies (ask : Lookup) : List Text → List Reply
  | [] => []
  | k :: ks => ask [] k :: (ask.after [k]).replies ks

/-- The reply to a key rests on the keys before it. -/
theorem Lookup.replies_getElem? (ask : Lookup) (ks : List Text) (i : Nat) :
    (ask.replies ks)[i]? = ks[i]?.map (ask (ks.take i)) := by
  induction ks generalizing ask i with
  | nil => simp [replies]
  | cons k ks ih =>
    cases i with
    | zero => simp [replies]
    | succ i => simp [replies,ih,after]

/-- Among replies there is a first failure, or none. -/
lemma exists_first_failure (rs : List Reply) : (∀ r ∈ rs, ∀ f, r ≠ .failure f) ∨
    ∃ i f, rs[i]? = some (.failure f) ∧ ∀ r ∈ rs.take i, ∀ g, r ≠ .failure g := by
  induction rs with
  | nil => exact .inl nofun
  | cons r rs ih =>
    by_cases hr : ∃ f, r = .failure f
    · obtain ⟨f,rfl⟩ := hr
      exact .inr ⟨0,f,rfl,nofun⟩
    · have hr : ∀ f, r ≠ .failure f := fun f hf => hr ⟨f,hf⟩
      obtain h | ⟨i,f,hi,h⟩ := ih
      · exact .inl (List.forall_mem_cons.2 ⟨hr,h⟩)
      · exact .inr ⟨i+1,f,hi,List.forall_mem_cons.2 ⟨hr,h⟩⟩

namespace Template

def slots (ps : List Piece) : List Slot := ps.filterMap Piece.slot?

def keys (ps : List Piece) : List Text := (slots ps).map Slot.key

/-- The pieces joined, each slot filled by its own reply. -/
def woven : List Piece → List Reply → Text
  | .copy t :: ps, rs => t ++ woven ps rs
  | .slot s :: ps, r :: rs => s.filled r ++ woven ps rs
  | _, _ => []

/-- The slots that have got neither a value nor a fallback, as far as there are replies. -/
def missed (ss : List Slot) (rs : List Reply) : List Slot :=
  ((ss.zip rs).filter fun x => x.1.missed x.2).map Prod.fst

@[simp] lemma slots_copy (t : Text) (ps : List Piece) : slots (.copy t :: ps) = slots ps := rfl
@[simp] lemma slots_slot (s : Slot) (ps : List Piece) : slots (.slot s :: ps) = s :: slots ps := rfl
@[simp] lemma keys_copy (t : Text) (ps : List Piece) : keys (.copy t :: ps) = keys ps := rfl
@[simp] lemma keys_slot (s : Slot) (ps : List Piece) :
    keys (.slot s :: ps) = s.key :: keys ps := rfl

lemma missed_cons (s : Slot) (ss : List Slot) (r : Reply) (rs : List Reply) :
    missed (s :: ss) (r :: rs) = (if s.missed r then [s] else []) ++ missed ss rs := by
  by_cases h : s.missed r <;> simp [missed,h]

/-- A slot whose key does not fail. -/
lemma fill_slot {ask : Lookup} {s : Slot} (h : ∀ f, ask [] s.key ≠ .failure f) (ps : List Piece) :
    fill ask (.slot s :: ps) = (fill (ask.after [s.key]) ps).after [s.key]
      (if s.missed (ask [] s.key) then [s] else []) (s.filled (ask [] s.key)) := by
  cases hr : ask [] s.key with
  | value v => simp [fill,hr,Slot.missed,Slot.filled]
  | failure f => exact absurd hr (h f)
  | absent => cases hf : s.fallback <;> simp [fill,hr,Slot.missed,Slot.filled,hf]

lemma fill_slot_failure {ask : Lookup} {s : Slot} {f : Failure} (h : ask [] s.key = .failure f)
    (ps : List Piece) : fill ask (.slot s :: ps) = ⟨[s.key],[],.error f⟩ := by
  simp [fill,h]

/-- Without a failure every key is asked for and every slot is filled. -/
theorem fill_of_replies (ask : Lookup) (ps : List Piece)
    (h : ∀ r ∈ ask.replies (keys ps), ∀ f, r ≠ .failure f) :
    fill ask ps = ⟨keys ps,missed (slots ps) (ask.replies (keys ps)),
      .ok (woven ps (ask.replies (keys ps)))⟩ := by
  induction ps generalizing ask with
  | nil => rfl
  | cons piece ps ih =>
    cases piece with
    | copy t =>
      rw [fill,ih ask h]
      rfl
    | slot s =>
      have hh : ∀ f, ask [] s.key ≠ .failure f := h _ (by simp [Lookup.replies])
      have ht := ih (ask.after [s.key]) fun r hr => h r (by simp [Lookup.replies,hr])
      rw [fill_slot hh,ht]
      simp [Expansion.after,Except.map,Lookup.replies,missed_cons,woven]

/-- At the first failure the slots before it are done and no later key is asked for. -/
theorem fill_of_failure (ask : Lookup) (ps : List Piece) (i : Nat) (f : Failure)
    (hi : (ask.replies (keys ps))[i]? = some (.failure f))
    (h : ∀ r ∈ (ask.replies (keys ps)).take i, ∀ g, r ≠ .failure g) :
    fill ask ps = ⟨(keys ps).take (i+1),missed (slots ps) ((ask.replies (keys ps)).take i),
      .error f⟩ := by
  induction ps generalizing ask i with
  | nil => simp [keys,slots,Lookup.replies] at hi
  | cons piece ps ih =>
    cases piece with
    | copy t =>
      rw [fill,ih ask i hi h]
      rfl
    | slot s =>
      cases i with
      | zero =>
        have hf : ask [] s.key = .failure f := by simpa [Lookup.replies] using hi
        rw [fill_slot_failure hf]
        simp [missed]
      | succ i =>
        have hh : ∀ g, ask [] s.key ≠ .failure g := h _ (by simp [Lookup.replies])
        have ht := ih (ask.after [s.key]) i (by simpa [Lookup.replies] using hi)
          fun r hr => h r (by simp [Lookup.replies,hr])
        rw [fill_slot hh,ht]
        simp [Expansion.after,Except.map,Lookup.replies,missed_cons]

/-- A context that fails on no key and replies alike whatever it was asked before fills every piece by
itself. -/
theorem fill_steady {ask : Text → Reply} (h : ∀ k f, ask k ≠ .failure f) (ps : List Piece) :
    (fill (.steady ask) ps).outcome = .ok (ps.flatMap (Piece.shown ask)) := by
  induction ps with
  | nil => rfl
  | cons piece ps ih =>
    cases piece with
    | copy t => simp [fill,Expansion.after,ih,Except.map,Piece.shown]
    | slot s =>
      have hs : ∀ f, Lookup.steady ask [] s.key ≠ .failure f := h s.key
      rw [fill_slot hs]
      simp [Expansion.after,ih,Except.map,Piece.shown,Lookup.steady]

theorem expand_pieces {ask : Text → Reply} (h : ∀ k f, ask k ≠ .failure f) (sw : Switches)
    (t : Text) : (expand sw ask t).outcome = .ok ((pieces sw t).flatMap (Piece.shown ask)) := by
  rw [expand,expandWith_eq_fill,fill_steady h]

/-- Two contexts that reply alike to the keys give the same expansion. -/
theorem fill_congr (ask ask' : Lookup) (ps : List Piece)
    (h : ask.replies (keys ps) = ask'.replies (keys ps)) : fill ask ps = fill ask' ps := by
  induction ps generalizing ask ask' with
  | nil => rfl
  | cons piece ps ih =>
    cases piece with
    | copy t => rw [fill,fill,ih ask ask' h]
    | slot s =>
      simp only [keys_slot,Lookup.replies,List.cons.injEq] at h
      rw [fill,fill,h.1,ih _ _ h.2]

lemma logged_notices (quiet : Bool) (e : Expansion) :
    Notice.logged quiet e.notices = if quiet then [] else e.unresolved.map Slot.entry := by
  have h : ∀ s : Slot, (Notice.unresolved s).text = s.entry := by
    rintro ⟨style,key,fallback⟩
    cases style <;> rfl
  simp [Notice.logged,Expansion.notices,Function.comp_def,h]

/-- Every template has pieces of its own. A context that fails on none of their keys is asked for exactly
these keys, in order; the output is the pieces with each slot filled by the reply to its own key, and the
log names the slots that got nothing. A context that fails at one of them is asked up to that key, with
the log of the slots before it and that failure as the outcome. Contexts that reply alike to the keys
are not told apart. -/
theorem expandWith_by_keys (sw : Switches) (t : Text) :
    ∃ ps, Cut sw t ps ∧ ∀ ask : Lookup,
      let rs := ask.replies (keys ps)
      let e := expandWith sw ask t
      ((∀ r ∈ rs, ∀ f, r ≠ .failure f) →
        e.asked = keys ps ∧ e.outcome = .ok (woven ps rs) ∧
          ∀ quiet, Notice.logged quiet e.notices =
            if quiet then [] else (missed (slots ps) rs).map Slot.entry) ∧
      (∀ i f, rs[i]? = some (.failure f) → (∀ r ∈ rs.take i, ∀ g, r ≠ .failure g) →
        e.asked = (keys ps).take (i+1) ∧ e.outcome = .error f ∧
          ∀ quiet, Notice.logged quiet e.notices =
            if quiet then [] else (missed (slots ps) (rs.take i)).map Slot.entry) ∧
      ∀ ask' : Lookup, ask'.replies (keys ps) = rs → expandWith sw ask' t = e := by
  refine ⟨pieces sw t,(cut_iff sw t _).2 rfl,?_⟩
  intro ask
  simp only [logged_notices,expandWith_eq_fill]
  refine ⟨?_,?_,?_⟩
  · intro h
    rw [fill_of_replies ask _ h]
    exact ⟨rfl,rfl,fun _ => rfl⟩
  · intro i f hi h
    rw [fill_of_failure ask _ i f hi h]
    exact ⟨rfl,rfl,fun _ => rfl⟩
  · intro ask' h
    exact fill_congr ask' ask _ h

/-- A context that gives nothing at first and then breaks off. -/
theorem asked_up_to_failure :
    let ask : Lookup := fun asked _ => if asked = [] then .absent else .failure (.aborted [])
    let e := expandWith {} ask ['%','a','%','$','{','b','}','$','{','c','}']
    ask.replies [(['a'] : Text),['b'],['c']] = [.absent,.failure (.aborted []),.failure (.aborted [])] ∧
    e.asked = [(['a'] : Text),['b']] ∧ e.outcome = .error (.aborted []) ∧
    Notice.logged false e.notices = ["Unresolved DOS-style expression: a".toText] := by
  intro ask e
  have hrs : ask.replies [(['a'] : Text),['b'],['c']] =
      [.absent,.failure (.aborted []),.failure (.aborted [])] := by decide
  obtain ⟨ps,hcut,h⟩ := expandWith_by_keys {} ['%','a','%','$','{','b','}','$','{','c','}']
  have hps : ps = [.slot ⟨.dos,['a'],none⟩,.slot ⟨.sh,['b'],none⟩,.slot ⟨.sh,['c'],none⟩] := by
    have ha : Text.isAlphanumeric 'a' := by decide
    have hb : Text.trim ['b'] = (['b'] : Text) := by decide
    have hc : Text.trim ['c'] = (['c'] : Text) := by decide
    rw [(cut_iff _ _ _).1 hcut]
    simp [pieces,tokens,readToken,readPercent,readDollar,readBody,Body.push,
      percent_not_alphanumeric,ha,hb,hc]
  subst hps
  obtain ⟨-,hfail,-⟩ := h ask
  obtain ⟨hasked,hout,hlog⟩ := hfail 1 (.aborted []) (congrArg (·[1]?) hrs) (by
    change ∀ r ∈ (ask.replies [(['a'] : Text),['b'],['c']]).take 1, _
    simp [hrs])
  exact ⟨hrs,hasked,hout,hlog false⟩

end Template

end ShellTemplate
