import ShellTemplate.Proofs.Context.Routing
import ShellTemplate.Proofs.Template.Keys

/-! Failures captured in a report. Rendering a template comes to a report whatever the lookups do: to its
text if none of the lookups that it needs fails, and else to the first failure among them and nothing of
the text. The contexts of an origin fail on no key at all. -/
namespace ShellTemplate

/-- The lookups of some keys in turn break off with `f` behind the replies `rs`: there is no context to
look anything up in, or the next key is the first on which it fails. -/
inductive BreaksOff (lookup : Except Failure Lookup) (ks : List Text) : List Reply → Failure → Prop
  | noContext {f} : lookup = .error f → BreaksOff lookup ks [] f
  | asking {ask i f} : lookup = .ok ask → (ask.replies ks)[i]? = some (.failure f) →
      (∀ r ∈ (ask.replies ks).take i, ∀ g, r ≠ .failure g) →
      BreaksOff lookup ks ((ask.replies ks).take i) f

/-- There is a context, and it fails on none of the keys in turn. -/
def HoldsOut (lookup : Except Failure Lookup) (ks : List Text) : Prop :=
  ∃ ask, lookup = .ok ask ∧ ∀ r ∈ ask.replies ks, ∀ f, r ≠ .failure f

lemma holdsOut_or_breaksOff (lookup : Except Failure Lookup) (ks : List Text) :
    HoldsOut lookup ks ∨ ∃ rs f, BreaksOff lookup ks rs f := by
  cases lookup with
  | error f => exact .inr ⟨_,f,.noContext rfl⟩
  | ok ask =>
    obtain h | ⟨i,f,hi,h⟩ := exists_first_failure (ask.replies ks)
    · exact .inl ⟨ask,rfl,h⟩
    · exact .inr ⟨_,f,.asking rfl hi h⟩

namespace Template
variable {sw : Switches} {t : Text}

lemma renderWith_of_text {ask : Lookup} {text : Text}
    (h : (expandWith sw ask t).outcome = .ok text) :
    renderWith sw (.ok ask) t = ({ text },(expandWith sw ask t).notices) := by
  simp only [renderWith,h]

lemma renderWith_of_failure {ask : Lookup} {f : Failure}
    (h : (expandWith sw ask t).outcome = .error f) : renderWith sw (.ok ask) t =
      (.failed f,(expandWith sw ask t).notices ++ [.notExpanded f.message]) := by
  simp only [renderWith,h]

/-- The log of slots that have got neither a value nor a fallback, with what was noted behind them. -/
lemma logged_append (quiet : Bool) (ss : List Slot) (ns : List Notice) :
    Notice.logged quiet (ss.map .unresolved ++ ns) =
      if quiet then [] else ss.map Slot.entry ++ ns.map Notice.text := by
  cases quiet with
  | true => rfl
  | false =>
    have hss := logged_notices false ⟨[],ss,.ok []⟩
    rw [Notice.logged,if_neg Bool.false_ne_true,List.map_append]
    exact congrArg (· ++ ns.map Notice.text) hss

/-- A lookup that holds out gives the whole text. -/
lemma expandWith_of_holdsOut {ask : Lookup}
    (h : ∀ r ∈ ask.replies (keys (pieces sw t)), ∀ f, r ≠ .failure f) :
    expandWith sw ask t = ⟨keys (pieces sw t),
      missed (slots (pieces sw t)) (ask.replies (keys (pieces sw t))),
      .ok (woven (pieces sw t) (ask.replies (keys (pieces sw t))))⟩ := by
  rw [expandWith_eq_fill,fill_of_replies ask _ h]

/-- A lookup that breaks off gives its failure and leaves what was missed before it. -/
lemma expandWith_of_breaksOff {ask : Lookup} {rs : List Reply} {f : Failure}
    (h : BreaksOff (.ok ask) (keys (pieces sw t)) rs f) :
    expandWith sw ask t = ⟨(keys (pieces sw t)).take (rs.length+1),missed (slots (pieces sw t)) rs,
      .error f⟩ := by
  cases h with
  | noContext h => cases h
  | @asking _ i _ ha hi hfirst =>
    cases ha
    have hlength : ((ask.replies (keys (pieces sw t))).take i).length = i := by
      rw [List.length_take,min_eq_left (List.getElem?_eq_some_iff.1 hi).1.le]
    rw [expandWith_eq_fill,fill_of_failure ask _ i f hi hfirst,hlength]

lemma renderWith_of_breaksOff {lookup : Except Failure Lookup} {rs : List Reply} {f : Failure}
    (h : BreaksOff lookup (keys (pieces sw t)) rs f) : renderWith sw lookup t =
      (.failed f,(missed (slots (pieces sw t)) rs).map .unresolved ++ [.notExpanded f.message]) := by
  cases lookup with
  | error g =>
    cases h with
    | noContext h =>
      cases h
      have hmissed : missed (slots (pieces sw t)) [] = [] := by simp [missed]
      rw [hmissed]
      rfl
    | asking h => cases h
  | ok ask =>
    have he := expandWith_of_breaksOff h
    rw [renderWith_of_failure (by rw [he]),he]
    rfl

end Template

/-- The replies of a steady lookup are those to the keys one by one. -/
lemma Lookup.replies_steady (ask : Text → Reply) (ks : List Text) :
    (Lookup.steady ask).replies ks = ks.map ask := by
  induction ks with
  | nil => rfl
  | cons k ks ih => exact congrArg _ ih

lemma holdsOut_steady_iff {ask : Text → Reply} {ks : List Text} :
    HoldsOut (.ok (.steady ask)) ks ↔ ∀ k ∈ ks, ∀ f, ask k ≠ .failure f := by
  constructor
  · rintro ⟨_,⟨⟩,h⟩
    rw [Lookup.replies_steady] at h
    exact List.forall_mem_map.1 h
  · intro h
    refine ⟨_,rfl,?_⟩
    rw [Lookup.replies_steady]
    exact List.forall_mem_map.2 h

/-- A mark is ASCII in every case of its letters. -/
lemma Marked.fault?_eq_none {names : Text.Codec} {mark key rest : Text} (h : Marked mark key rest)
    (hmark : ∀ c ∈ mark, c.toNat < 0x80) (hrest : names.fault? rest = none) :
    names.fault? key = none := by
  obtain ⟨m,rfl,rfl⟩ := h
  rw [Text.Codec.fault?_eq_none_iff] at hrest ⊢
  refine List.forall_mem_append.2 ⟨fun c hc => ?_,hrest⟩
  have hlower := hmark _ (List.mem_map_of_mem hc)
  have hc : c.toNat < 0x80 := by
    by_contra hbeyond
    rw [Text.toLower_of_beyond (by omega)] at hlower
    exact hbeyond hlower
  rw [Text.Codec.takes,names.ascii c hc]
  rfl

namespace Origin

/-- Why the environment cannot be asked for a name, where an origin asks it for a key. The combined origin
asks it for what follows the mark of the environment, and for a key for which there is no property. -/
def fault? (st : Store) (properties : Bindings Text) : Origin → Text → Option Text.Unencodable
  | .env, key => st.names.fault? key
  | .vars, _ => none
  | .combined, key =>
    match Route.ofKey key with
    | .environment rest => st.names.fault? rest
    | .properties name =>
      if (properties.get? name).isSome then none else st.names.fault? key

lemma reply_environment_failure_iff {st : Store} {name : Text} {f : Failure} :
    Source.environment.reply st name = .failure f ↔
      ∃ u, st.names.fault? name = some u ∧ f = .unencodable u := by
  rw [Source.reply]
  cases st.names.fault? name with
  | none => cases st.environment.get? name <;> simp [Reply.ofOption]
  | some u => simp [eq_comm]

/-- The contexts of the origins fail only where the environment cannot be asked for a name. -/
lemma ask_failure_iff {st : Store} {properties : Bindings Text} {o : Origin} {key : Text} {f : Failure} :
    (o.context properties).ask st key = .failure f ↔
      ∃ u, o.fault? st properties key = some u ∧ f = .unencodable u := by
  cases o with
  | env => rw [context,Context.ask_systemEnvironment,reply_environment_failure_iff,fault?]
  | vars =>
    rw [context,Context.ask_ofTexts,fault?]
    cases properties.get? key <;> simp [Context.textReply,Reply.ofOption]
  | combined =>
    rw [ask_combined,fault?]
    cases hr : Route.ofKey key with
    | properties name =>
      cases hname : properties.get? name with
      | some v => simp [hname,Context.textReply,Reply.ofOption,Reply.or]
      | none =>
        simpa [hname,Context.textReply,Reply.ofOption,Reply.or] using reply_environment_failure_iff
    | environment rest =>
      have hmarked := Route.taken_environment_iff.1 (Route.taken_iff.2 hr)
      cases hrest : st.names.fault? rest with
      | some u => simp [hrest,(Source.reply_environment st rest).2 u hrest,Reply.or,eq_comm]
      | none =>
        have hkey := hmarked.fault?_eq_none (by decide) hrest
        simp only [hrest,(Source.reply_environment st rest).1 hrest,
          (Source.reply_environment st key).1 hkey]
        cases st.environment.get? rest <;> cases st.environment.get? key <;>
          simp [Context.textReply,Reply.ofOption,Reply.or]

end Origin

namespace Template

/-- The context of an origin holds out over keys that variables can have for names. -/
lemma holdsOut_origin_iff {st : Store} {properties : Bindings Text} {o : Origin} {ks : List Text} :
    HoldsOut (.ok (.steady ((o.context properties).ask st))) ks ↔
      ∀ k ∈ ks, o.fault? st properties k = none := by
  rw [holdsOut_steady_iff]
  refine forall₂_congr fun k _ => ?_
  rw [Option.eq_none_iff_forall_ne_some]
  exact ⟨fun h u hu => h _ (Origin.ask_failure_iff.2 ⟨u,hu,rfl⟩),fun h f hf =>
    (Origin.ask_failure_iff.1 hf).elim fun u hu => h u hu.1⟩

/-- A rendering succeeds just if no key is the first on which the context fails. -/
lemma renders_iff {sw : Switches} {lookup : Except Failure Lookup} {t : Text} :
    (∃ text, (renderWith sw lookup t).1 = { text }) ↔ HoldsOut lookup (keys (pieces sw t)) := by
  constructor
  · rintro ⟨text,htext⟩
    refine (holdsOut_or_breaksOff _ _).resolve_right ?_
    rintro ⟨rs,f,hbreaks⟩
    have hfailed := congrArg Prod.fst (renderWith_of_breaksOff hbreaks)
    cases htext.symm.trans hfailed
  · rintro ⟨_,rfl,h⟩
    exact ⟨_,congrArg Prod.fst (renderWith_of_text (by rw [expandWith_of_holdsOut h]))⟩

/-- Every template has keys of its own, and rendering it always comes to a report. It is a success just if
there is a context that fails on none of these keys in turn; then it holds no error and the text to which
the template expands. And it is none just if there is no context, for which nothing is asked, or if a key
is the first on which the context fails. Then that failure is the error, there is no text, and the log
names what had been left unresolved before, and last the failure. The contexts of the three origins fail on
no key but one for which the environment is asked and which no variable can have for a name. -/
theorem renderWith_captures (sw : Switches) (t : Text) : ∃ ps, Cut sw t ps ∧
    (∀ lookup : Except Failure Lookup,
      let report := (renderWith sw lookup t).1
      let logged := fun quiet => Notice.logged quiet (renderWith sw lookup t).2
      (report.success = true ↔ HoldsOut lookup (keys ps)) ∧
      (report.success = false ↔ ∃ rs f, BreaksOff lookup (keys ps) rs f) ∧
      (∀ ask, lookup = .ok ask → HoldsOut lookup (keys ps) →
        (expandWith sw ask t).outcome = .ok report.text ∧ report.error = none ∧
        (expandWith sw ask t).asked = keys ps ∧
        ∀ quiet, logged quiet = if quiet then [] else
          (missed (slots ps) (ask.replies (keys ps))).map Slot.entry) ∧
      (∀ rs f, BreaksOff lookup (keys ps) rs f →
        report = { text := [], error := some f.message, success := false } ∧
        (∀ ask, lookup = .ok ask → (expandWith sw ask t).asked = (keys ps).take (rs.length+1)) ∧
        ∀ quiet, logged quiet = if quiet then [] else
          (missed (slots ps) rs).map Slot.entry ++ ["Interpolation failed: ".toText ++ f.message])) ∧
    (∀ st s, BreaksOff ((Offer.other s).lookup st) (keys ps) [] (.notContext s)) ∧
    ∀ st properties (o : Origin),
      (∀ k f, (o.context properties).ask st k = .failure f ↔
        ∃ u, o.fault? st properties k = some u ∧ f = .unencodable u) ∧
      ((∃ text, (render sw st (.context (o.context properties)) t).1 = { text }) ↔
        ∀ k ∈ keys ps, o.fault? st properties k = none) := by
  refine ⟨pieces sw t,(cut_iff sw t _).2 rfl,fun lookup => ?_,fun st s => .noContext rfl,?_⟩
  · intro report logged
    have hholds : ∀ ask, lookup = .ok ask → HoldsOut lookup (keys (pieces sw t)) →
        renderWith sw lookup t = ({ text := woven (pieces sw t) (ask.replies (keys (pieces sw t))) },
          (missed (slots (pieces sw t)) (ask.replies (keys (pieces sw t)))).map .unresolved) := by
      rintro ask rfl ⟨_,⟨⟩,h⟩
      have he := expandWith_of_holdsOut h
      rw [renderWith_of_text (by rw [he]),he]
      rfl
    have hsuccess : HoldsOut lookup (keys (pieces sw t)) → report.success = true := by
      intro h
      obtain ⟨ask,hask,-⟩ := id h
      simp only [report,hholds ask hask h]
    have hfails : ∀ rs f, BreaksOff lookup (keys (pieces sw t)) rs f → report.success = false := by
      intro rs f h
      simp only [report,renderWith_of_breaksOff h,Report.failed]
    have hcases := holdsOut_or_breaksOff lookup (keys (pieces sw t))
    refine ⟨⟨fun h => ?_,hsuccess⟩,⟨fun h => ?_,fun ⟨rs,f,h⟩ => hfails rs f h⟩,?_,?_⟩
    · refine hcases.resolve_right ?_
      rintro ⟨rs,f,hbreaks⟩
      exact absurd (h.symm.trans (hfails rs f hbreaks)) (by decide)
    · refine hcases.resolve_left fun hholds => ?_
      exact absurd (h.symm.trans (hsuccess hholds)) (by decide)
    · intro ask hask h
      have hrendered := hholds ask hask h
      obtain ⟨_,hask',hno⟩ := h
      obtain rfl : _ = ask := Except.ok.inj (hask'.symm.trans hask)
      have hreport : report = { text := _ } := congrArg Prod.fst hrendered
      rw [hreport,expandWith_of_holdsOut hno]
      refine ⟨rfl,rfl,rfl,fun quiet => ?_⟩
      simpa [logged,hrendered] using logged_append quiet _ []
    · intro rs f h
      simp only [report,logged,renderWith_of_breaksOff h]
      refine ⟨rfl,?_,fun quiet => logged_append quiet _ _⟩
      rintro ask rfl
      rw [expandWith_of_breaksOff h]
  · intro st properties o
    exact ⟨fun k f => Origin.ask_failure_iff,renders_iff.trans holdsOut_origin_iff⟩

/-- A key that no variable can have for a name is a failure of the environment, so that rendering over an
origin does not always succeed. -/
theorem unencodable_key_fails :
    let st : Store := { environment := .empty, shared := .empty }
    let t : Text := ['$','{',.ofNat 0xD800,'}']
    let message := "'utf-8' codec can't encode character '\\ud800' in position 0: ".toText ++
      "surrogates not allowed".toText
    (render {} st (.context (Origin.env.context .empty)) t).1 =
      { text := [], error := some message, success := false } ∧
    ¬ ∀ st properties (o : Origin) t, ∃ text,
      (render {} st (.context (o.context properties)) t).1 = { text } := by
  intro st t message
  have hfailed : (render {} st (.context (Origin.env.context .empty)) t).1 =
      { text := [], error := some message, success := false } := by decide
  refine ⟨hfailed,fun hall => ?_⟩
  obtain ⟨text,htext⟩ := hall st .empty .env t
  cases htext.symm.trans hfailed

/-- A routed property inside a chain that breaks off behind a slot without a value; and a lookup that has a
value for every key. -/
theorem captured_in_chain :
    let st : Store := { environment := .empty, shared := .empty }
    let properties : Context := .source (.function fun k =>
      if k = (['b'] : Text) then .failure (.aborted ['x']) else .absent)
    let offer : Offer := .context (.chain [.routed properties .systemEnvironment])
    let valued : Except Failure Lookup := .ok (.steady fun _ => .value (.text ['1']))
    let ks : List Text := [['a'],['p','r','o','p','.','b'],['c']]
    let t : Text := ['%','a','%','$','{','p','r','o','p','.','b','}','$','{','c','}']
    BreaksOff (offer.lookup st) ks [.absent] (.aborted ['x']) ∧
    (render {} st offer t).1 = { text := [], error := some ['x'], success := false } ∧
    Notice.logged false (render {} st offer t).2 =
      ["Unresolved DOS-style expression: a".toText,"Interpolation failed: x".toText] ∧
    HoldsOut valued ks ∧ (renderWith {} valued t).1.error = none ∧
    Notice.logged false (renderWith {} valued t).2 = [] := by
  intro st properties offer valued ks t
  have hreplies : (Lookup.steady
        ((Context.chain [.routed properties .systemEnvironment]).ask st)).replies ks =
      [.absent,.failure (.aborted ['x']),.absent] := by rfl
  have hbreaks : BreaksOff (offer.lookup st) ks [.absent] (.aborted ['x']) :=
    .asking (i := 1) rfl (congrArg (·[1]?) hreplies) (by
      rw [hreplies]
      simp)
  have hholds : HoldsOut valued ks := ⟨_,rfl,by simp [ks,Lookup.replies,Lookup.steady]⟩
  obtain ⟨ps,hcut,hcaptures,-⟩ := renderWith_captures {} t
  have hps : ps = [.slot ⟨.dos,['a'],none⟩,.slot ⟨.sh,['p','r','o','p','.','b'],none⟩,
      .slot ⟨.sh,['c'],none⟩] := by
    have ha : Text.isAlphanumeric 'a' := by decide
    have hb : Text.trim ['p','r','o','p','.','b'] = (['p','r','o','p','.','b'] : Text) := by decide
    have hc : Text.trim ['c'] = (['c'] : Text) := by decide
    rw [(cut_iff _ _ _).1 hcut]
    simp [t,pieces,tokens,readToken,readPercent,readDollar,readBody,Body.push,
      percent_not_alphanumeric,ha,hb,hc]
  subst hps
  obtain ⟨-,-,-,hfailed⟩ := hcaptures (offer.lookup st)
  obtain ⟨hreport,-,hlogged⟩ := hfailed _ _ hbreaks
  obtain ⟨-,-,hdone,-⟩ := hcaptures valued
  obtain ⟨-,herror,-,hsilent⟩ := hdone _ rfl hholds
  exact ⟨hbreaks,hreport,hlogged false,hholds,herror,hsilent false⟩

end Template
end ShellTemplate
