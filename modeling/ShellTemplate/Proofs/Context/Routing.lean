import Mathlib.Logic.ExistsUnique
import ShellTemplate.Proofs.Text.Lower
import ShellTemplate.Render

/-! Keys routed by their first letters. A mark is recognized in any case of its ASCII letters and in no
other spelling, and the rest of the key is looked up where the mark says, there and nowhere else. The
combined origin asks the environment for the whole key wherever that gives nothing, so that a variable
whose own name begins with a mark can answer for a marked key. -/
namespace ShellTemplate

/-- The key is a mark, in any case of its letters, with a rest behind it. -/
def Marked (mark key rest : Text) : Prop := ∃ m, key = m ++ rest ∧ m.map CodePoint.toLower = mark

/-- A key of the one kind is none of the other. -/
lemma Marked.not_both {key rest other : Text} (he : Marked environmentMark key rest) :
    ¬ Marked propertiesMark key other := by
  rintro ⟨n,hn,hp⟩
  obtain ⟨m,rfl,hm⟩ := he
  cases m with
  | nil => cases hm
  | cons c m =>
    cases n with
    | nil => cases hp
    | cons d n =>
      obtain ⟨rfl,-⟩ := List.cons.inj hn
      have h1 := (List.cons.inj hm).1
      have h2 := (List.cons.inj hp).1
      exact absurd (h1.symm.trans h2) (by decide)

lemma Marked.drop_eq {mark key rest : Text} (h : Marked mark key rest) :
    key.drop mark.length = rest := by
  obtain ⟨m,rfl,rfl⟩ := h
  simp

lemma marked_append (mark : Text) (h : mark.map CodePoint.toLower = mark) (rest : Text) :
    Marked mark (mark ++ rest) rest :=
  ⟨mark,rfl,h⟩

/-- The mark is what the key begins with, and the rest is what follows. -/
lemma marked_iff {mark key rest : Text} : Marked mark key rest ↔
    (key.take mark.length).map CodePoint.toLower = mark ∧ key.drop mark.length = rest := by
  constructor
  · rintro ⟨m,rfl,rfl⟩
    simp
  · rintro ⟨hm,rfl⟩
    exact ⟨_,(List.take_append_drop _ _).symm,hm⟩

lemma exists_marked {mark : Text} (hm : mark.all Text.isLowerOfAscii) (key : Text) :
    (Text.after? mark (Text.lower key)).isSome ↔ ∃ rest, Marked mark key rest := by
  rw [Text.after?_lower (List.all_eq_true.1 hm)]
  exact exists_comm

namespace Route

lemma ofKey_environment {key rest : Text} (h : Marked environmentMark key rest) :
    ofKey key = .environment rest := by
  rw [ofKey,if_pos ((exists_marked (by decide) key).2 ⟨rest,h⟩),h.drop_eq]

lemma ofKey_properties {key rest : Text} (h : Marked propertiesMark key rest) :
    ofKey key = .properties rest := by
  have hne : ¬ ∃ other, Marked environmentMark key other := fun ⟨_,he⟩ => he.not_both h
  rw [ofKey,if_neg (mt (exists_marked (by decide) key).1 hne),
    if_pos ((exists_marked (by decide) key).2 ⟨rest,h⟩),h.drop_eq]

lemma ofKey_unmarked {key : Text} (he : ∀ rest, ¬ Marked environmentMark key rest)
    (hp : ∀ rest, ¬ Marked propertiesMark key rest) : ofKey key = .properties key := by
  rw [ofKey,if_neg (mt (exists_marked (by decide) key).1 (not_exists.2 he)),
    if_neg (mt (exists_marked (by decide) key).1 (not_exists.2 hp))]

/-- The answer of the one context that a key is routed to. -/
def answer (st : Store) (p e : Context) : Route → Answer
  | .properties key => p.answer st key
  | .environment key => e.answer st key

/-- Whatever two contexts are routed to, a key asks the one of the route for what the route leaves of it,
once, and asks the other nothing. -/
def Taken (key : Text) (r : Route) : Prop :=
  ∀ st p e, (Context.routed p e).answer st key = r.answer st p e

lemma taken_ofKey (key : Text) : Taken key (ofKey key) := by
  intro st p e
  cases h : ofKey key <;> simp [Context.answer,answer,h]

/-- Two sources that differ show which route has been taken, and with what. -/
lemma Taken.eq {key : Text} {r r' : Route} (h : Taken key r) (h' : Taken key r') : r = r' := by
  have ha := (h { environment := .empty, shared := .empty } (.source .shared)
    (.source .environment)).symm.trans (h' _ _ _)
  have hc := congrArg Answer.consulted ha
  cases r <;> cases r' <;> simp [answer] at hc <;> rw [hc]

lemma taken_iff {key : Text} {r : Route} : Taken key r ↔ ofKey key = r :=
  ⟨(taken_ofKey key).eq,fun h => h ▸ taken_ofKey key⟩

lemma taken_environment_iff {key rest : Text} :
    Taken key (.environment rest) ↔ Marked environmentMark key rest := by
  rw [taken_iff]
  refine ⟨fun h => ?_,ofKey_environment⟩
  by_cases he : ∃ other, Marked environmentMark key other
  · obtain ⟨other,he⟩ := he
    cases (ofKey_environment he).symm.trans h
    exact he
  by_cases hp : ∃ other, Marked propertiesMark key other
  · obtain ⟨other,hp⟩ := hp
    cases (ofKey_properties hp).symm.trans h
  · cases (ofKey_unmarked (not_exists.1 he) (not_exists.1 hp)).symm.trans h

lemma taken_properties_iff {key rest : Text} : Taken key (.properties rest) ↔
    Marked propertiesMark key rest ∨ key = rest ∧
      ∀ other, ¬ Marked environmentMark key other ∧ ¬ Marked propertiesMark key other := by
  rw [taken_iff]
  constructor
  · intro h
    have he : ∀ other, ¬ Marked environmentMark key other := by
      intro other he
      cases (ofKey_environment he).symm.trans h
    by_cases hp : ∃ other, Marked propertiesMark key other
    · obtain ⟨other,hp⟩ := hp
      cases (ofKey_properties hp).symm.trans h
      exact .inl hp
    · have hn := not_exists.1 hp
      cases (ofKey_unmarked he hn).symm.trans h
      exact .inr ⟨rfl,fun other => ⟨he other,hn other⟩⟩
  · rintro (hp | ⟨rfl,hn⟩)
    · exact ofKey_properties hp
    · exact ofKey_unmarked (fun other => (hn other).1) fun other => (hn other).2

/-- Every key takes one route. It asks the environment for what follows its first four characters just if
these are the mark of the environment in any case of ASCII, the properties for what follows its first five
just if these are the mark of the properties, and else the properties for the key as it is; the answer, a
failure included, is that of the context asked, which is asked for nothing else. So a mark put before a key
reaches the entry of that key, whatever the key begins with. -/
theorem one_taken (key : Text) :
    let environment := (key.take 4).map CodePoint.toLower = environmentMark
    let properties := (key.take 5).map CodePoint.toLower = propertiesMark
    (∃! r, Taken key r) ∧
    (∀ rest, Taken key (.environment rest) ↔ environment ∧ key.drop 4 = rest) ∧
    (∀ rest, Taken key (.properties rest) ↔
      properties ∧ key.drop 5 = rest ∨ key = rest ∧ ¬ environment ∧ ¬ properties) ∧
    (∀ st a b, ∃ asked, ((Context.routed (.source a) (.source b)).answer st key).consulted = [asked]) ∧
    Taken (environmentMark ++ key) (.environment key) ∧
    Taken (propertiesMark ++ key) (.properties key) := by
  intro environment properties
  have he : ∀ rest, Marked environmentMark key rest ↔ environment ∧ key.drop 4 = rest :=
    fun _ => marked_iff
  have hp : ∀ rest, Marked propertiesMark key rest ↔ properties ∧ key.drop 5 = rest :=
    fun _ => marked_iff
  refine ⟨⟨ofKey key,taken_ofKey key,fun r h => (taken_iff.1 h).symm⟩,?_,?_,?_,?_,?_⟩
  · intro rest
    rw [taken_environment_iff,he]
  · intro rest
    rw [taken_properties_iff,hp]
    simp [he,hp,forall_and]
  · intro st a b
    rw [taken_ofKey key st]
    cases ofKey key <;> exact ⟨_,by rw [answer,Context.answer_source]⟩
  · exact taken_environment_iff.2 (marked_append _ (by decide) key)
  · exact taken_properties_iff.2 (.inl (marked_append _ (by decide) key))

/-- A mark behind a mark belongs to the key, and so does a character whose lower case is longer. -/
example : Route.ofKey "PROP.env.\u0130".toText = .properties "env.\u0130".toText ∧
    Route.ofKey "\u0130env.x".toText = .properties "\u0130env.x".toText := by
  decide

end Route

/-- A first reply if it is one, or else a second. -/
def Reply.or : Reply → Reply → Reply
  | .absent, r => r
  | r, _ => r

namespace Context

/-- The reply of a table of texts. -/
def textReply (v : Option Text) : Reply := .ofOption (v.map .text)

@[simp] lemma ask_ofTexts (st : Store) (properties : Bindings Text) (key : Text) :
    (ofTexts properties).ask st key = textReply (properties.get? key) := by
  simp [ask,ofTexts,Source.reply,textReply]

@[simp] lemma ask_systemEnvironment (st : Store) (key : Text) :
    systemEnvironment.ask st key = Source.environment.reply st key := by
  simp [ask,systemEnvironment]

lemma ask_routed (st : Store) (p e : Context) (key : Text) :
    (routed p e).ask st key = match Route.ofKey key with
      | .properties k => p.ask st k
      | .environment k => e.ask st k := by
  cases h : Route.ofKey key <;> simp [ask,answer,h]

/-- Two contexts one after the other. -/
lemma ask_chain_two (st : Store) (first second : Context) (key : Text) :
    (chain [first,second]).ask st key = (first.ask st key).or (second.ask st key) := by
  rw [ask_chain_cons,ask_chain_cons,ask_chain_nil]
  cases first.ask st key with
  | absent => cases second.ask st key <;> simp [Reply.or]
  | _ => simp [Reply.or]

end Context

/-- The reply of the environment: for a name that it cannot have there is none but a failure. -/
lemma Source.reply_environment (st : Store) (name : Text) :
    (st.names.fault? name = none →
      environment.reply st name = Context.textReply (st.environment.get? name)) ∧
    ∀ u, st.names.fault? name = some u → environment.reply st name = .failure (.unencodable u) := by
  rw [reply]
  cases st.names.fault? name with
  | none => exact ⟨fun _ => rfl,nofun⟩
  | some u => exact ⟨nofun,fun v h => by cases h; rfl⟩

namespace Origin

lemma ask_combined (st : Store) (properties : Bindings Text) (key : Text) :
    (combined.context properties).ask st key = (match Route.ofKey key with
      | .properties k => Context.textReply (properties.get? k)
      | .environment k => Source.environment.reply st k).or (Source.environment.reply st key) := by
  rw [context,Context.ask_chain_two,Context.ask_routed,Context.ask_systemEnvironment]
  cases Route.ofKey key <;> simp

/-- Where a first reply is wanted, a second one does no harm if the first is one or both are none. -/
lemma or_eq_left_iff {r s : Reply} : r.or s = r ↔ (r = .absent → s = .absent) := by
  cases r <;> simp [Reply.or]

open Context in
/-- A key with the mark of the environment is answered by the variable that its rest names, one with the
mark of the properties by the property, and any other key by the property or else by the variable of its
own name. But where a marked key finds nothing, the variable answers that has the whole key for a name,
mark included; in every other case the mark decides. A variable has the value that the environment has for
its name, and a name that no variable can have is a failure. -/
theorem combined_asked (st : Store) (properties : Bindings Text) (key : Text) :
    let asked := (combined.context properties).ask st key
    let variableOf := Source.environment.reply st
    let propertyOf := fun name => textReply (properties.get? name)
    (∀ rest, Marked environmentMark key rest →
      asked = (variableOf rest).or (variableOf key) ∧
      (asked = variableOf rest ↔ (variableOf rest = .absent → variableOf key = .absent))) ∧
    (∀ rest, Marked propertiesMark key rest →
      asked = (propertyOf rest).or (variableOf key) ∧
      (asked = propertyOf rest ↔ (properties.get? rest = none → variableOf key = .absent))) ∧
    ((∀ rest, ¬ Marked environmentMark key rest ∧ ¬ Marked propertiesMark key rest) →
      asked = (propertyOf key).or (variableOf key)) ∧
    (∀ name, st.names.fault? name = none → variableOf name = textReply (st.environment.get? name)) ∧
    ∀ name u, st.names.fault? name = some u → variableOf name = .failure (.unencodable u) := by
  intro asked variableOf propertyOf
  have hasked : asked = _ := ask_combined st properties key
  have habsent : ∀ v : Option Text, textReply v = .absent ↔ v = none := by
    rintro (_ | v) <;> simp [textReply,Reply.ofOption]
  refine ⟨?_,?_,?_,fun name => (Source.reply_environment st name).1,
    fun name => (Source.reply_environment st name).2⟩
  · intro rest hm
    rw [Route.ofKey_environment hm] at hasked
    exact ⟨hasked,by rw [hasked]; exact or_eq_left_iff⟩
  · intro rest hm
    rw [Route.ofKey_properties hm] at hasked
    refine ⟨hasked,?_⟩
    rw [hasked,← habsent]
    exact or_eq_left_iff
  · intro hn
    rwa [Route.ofKey_unmarked (fun rest => (hn rest).1) fun rest => (hn rest).2] at hasked

/-- A key in mixed case whose rest names nothing, and a key whose rest names something while the whole
key does, too. -/
theorem asked_with_overlap :
    let st : Store := { environment := .ofList [("eNv.x".toText,['1']),("prop.y".toText,['2'])],
                        shared := .empty }
    let properties : Bindings Text := .ofList [(['y'],['3'])]
    let asked := (combined.context properties).ask st
    Marked environmentMark "eNv.x".toText ['x'] ∧ asked "eNv.x".toText = .value (.text ['1']) ∧
    Marked propertiesMark "prop.y".toText ['y'] ∧ asked "prop.y".toText = .value (.text ['3']) ∧
    asked (['z',.ofNat 0xD800] : Text) = .failure (.unencodable ⟨"utf-8".toText,1,.ofNat 0xD800,[],
      "surrogates not allowed".toText⟩) := by
  intro st properties asked
  have he : Marked environmentMark "eNv.x".toText ['x'] := ⟨"eNv.".toText,rfl,rfl⟩
  have hp : Marked propertiesMark "prop.y".toText ['y'] := ⟨"prop.".toText,rfl,rfl⟩
  exact ⟨he,((combined_asked st properties _).1 _ he).1,hp,
    ((combined_asked st properties _).2.1 _ hp).1,rfl⟩

/-- A variable whose name begins with the mark answers for a key that names no variable. -/
theorem marked_name_answers :
    let environment : Bindings Text := .ofList [("env.x".toText,['1'])]
    Marked environmentMark "env.x".toText ['x'] ∧ environment.get? ['x'] = none ∧
    (combined.context .empty).ask { environment, shared := .empty } "env.x".toText =
      .value (.text ['1']) :=
  ⟨⟨"env.".toText,rfl,rfl⟩,rfl,rfl⟩

end Origin
end ShellTemplate
