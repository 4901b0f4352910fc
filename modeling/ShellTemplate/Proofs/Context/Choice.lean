import Mathlib.Algebra.BigOperators.Group.List.Basic
import ShellTemplate.Context.Plan
import ShellTemplate.Proofs.Context.Routing

/-! Ordered choice. Answers form a monoid: of two the first counts that is not absent, and what was
consulted for it is kept in order. A chain of contexts gives the product of the answers of its members, so
that a chain of chains is one chain, and a chain of none or of one changes nothing. -/
namespace ShellTemplate

namespace Answer

/-- The first answer, or if it is absent the second, for which more had to be consulted. -/
instance : Mul Answer where
  mul a b :=
    match a.reply with
    | .absent => ⟨b.reply,a.consulted ++ b.consulted⟩
    | _ => a

instance : One Answer := ⟨⟨.absent,[]⟩⟩

@[simp] lemma one_reply : (1 : Answer).reply = .absent := rfl

@[simp] lemma one_consulted : (1 : Answer).consulted = [] := rfl

/-- Nothing is consulted behind a value or a failure. -/
lemma mul_of_reply {a : Answer} (h : a.reply ≠ .absent) (b : Answer) : a * b = a := by
  obtain ⟨reply,consulted⟩ := a
  cases reply with
  | absent => exact absurd rfl h
  | value | failure => rfl

lemma mul_of_absent {a : Answer} (h : a.reply = .absent) (b : Answer) :
    a * b = ⟨b.reply,a.consulted ++ b.consulted⟩ := by
  obtain ⟨reply,consulted⟩ := a
  cases h
  rfl

lemma mul_assoc (a b c : Answer) : a * b * c = a * (b * c) := by
  obtain ⟨ra,ka⟩ := a
  obtain ⟨rb,kb⟩ := b
  cases ra with
  | value | failure => rfl
  | absent =>
    cases rb with
    | value | failure => rfl
    | absent => exact congrArg (Answer.mk c.reply) (List.append_assoc ka kb c.consulted)

instance : Monoid Answer where
  mul_assoc := mul_assoc
  one_mul a := mul_of_absent one_reply a
  mul_one a := by
    by_cases ha : a.reply = .absent
    · rw [mul_of_absent ha,one_consulted,List.append_nil,one_reply,← ha]
    · exact mul_of_reply ha 1

/-- Where every answer is absent, everything has been consulted for nothing. -/
lemma prod_of_absent {as : List Answer} (h : ∀ a ∈ as, a.reply = .absent) :
    as.prod = ⟨.absent,as.flatMap consulted⟩ := by
  induction as with
  | nil => rfl
  | cons a as ih =>
    obtain ⟨ha,has⟩ := List.forall_mem_cons.1 h
    rw [List.prod_cons,mul_of_absent ha,ih has,List.flatMap_cons]

/-- The first answer that is not absent is the last for which anything is consulted. -/
lemma prod_of_first {as : List Answer} {a : Answer} (h : ∀ b ∈ as, b.reply = .absent)
    (ha : a.reply ≠ .absent) (bs : List Answer) :
    (as ++ a :: bs).prod = ⟨a.reply,as.flatMap consulted ++ a.consulted⟩ := by
  rw [List.prod_append,prod_of_absent h,List.prod_cons,mul_of_reply ha,mul_of_absent rfl]

end Answer

namespace Context

/-- The members of a chain answer one after the other. -/
lemma answer_chain_eq_prod (st : Store) (cs : List Context) (key : Text) :
    (chain cs).answer st key = (cs.map fun c => c.answer st key).prod := by
  induction cs with
  | nil => rw [answer_chain,firstAnswer_nil]; rfl
  | cons c cs ih =>
    rw [answer_chain] at ih
    rw [answer_chain,firstAnswer,List.map_cons,List.prod_cons,ih]
    split
    · rename_i h
      rw [Answer.mul_of_absent h]
    · rename_i h
      rw [Answer.mul_of_reply h]

/-- A chain of chains is the chain of all their members. -/
lemma answer_chain_flatten (st : Store) (css : List (List Context)) (key : Text) :
    (chain (css.map chain)).answer st key = (chain css.flatten).answer st key := by
  rw [answer_chain_eq_prod,answer_chain_eq_prod,List.map_flatten,List.prod_flatten,List.map_map,
    List.map_map]
  congr 2
  funext cs
  exact answer_chain_eq_prod st cs key

lemma answer_chain_append (st : Store) (xs ys : List Context) (key : Text) :
    (chain (xs ++ ys)).answer st key = (chain [chain xs,chain ys]).answer st key := by
  have h := answer_chain_flatten st [xs,ys] key
  rw [List.flatten_cons,List.flatten_singleton] at h
  exact h.symm

end Context

namespace Plan

/-- What the context of a plan answers, if the plan describes one. -/
def answers (p : Plan) : Except Failure (Store → Text → Answer) :=
  p.context.map fun c st key => c.answer st key

/-- A chain of what is already there is a context just if all of it can be used as contexts. -/
lemma build_offers (os : List Offer) :
    (chain (os.map offer)).build = (os.mapM Offer.adapt).map fun cs => .context (.chain cs) := by
  have h : buildAll (os.map offer) = .ok os := by
    induction os with
    | nil => rw [List.map_nil,buildAll]
    | cons o os ih => rw [List.map_cons,buildAll,build,ih]; rfl
  rw [build,h]
  rfl

lemma answers_offers (os : List Offer) : (chain (os.map offer)).answers =
    (os.mapM Offer.adapt).map fun cs st key => (Context.chain cs).answer st key := by
  rw [answers,context,build_offers]
  cases os.mapM Offer.adapt <;> rfl

/-- It makes no difference whether what is offered is put into one chain or into two that are chained,
even where some of it is no context. -/
lemma answers_append (xs ys : List Offer) : (chain ((xs ++ ys).map offer)).answers =
    (chain [chain (xs.map offer),chain (ys.map offer)]).answers := by
  rw [answers_offers,answers,context,build,buildAll,buildAll,buildAll,build_offers,build_offers,
    List.mapM_append]
  cases hx : xs.mapM Offer.adapt with
  | error f => rfl
  | ok as =>
    cases hy : ys.mapM Offer.adapt with
    | error f => rfl
    | ok bs =>
      refine congrArg Except.ok ?_
      funext st key
      exact Context.answer_chain_append st as bs key

end Plan

namespace Context

/-- Chaining is ordered choice. One chain of some contexts and of others answers as the chain of their two
chains does, from the same sources in the same order; a chain of none changes nothing on either side, and
a chain of one is that one. The first member with a value, an empty one included, or with a failure gives
the answer, and no later one is consulted. A context put in front changes a reply only if it has a value
there or fails. And what cannot be used as a context is refused alike in one chain and in two. -/
theorem chain_ordered_choice (st : Store) (key : Text) :
    let answer := fun cs => (chain cs).answer st key
    let consulted := fun cs : List Context => cs.flatMap fun c => (c.answer st key).consulted
    (∀ xs ys, answer (xs ++ ys) = answer [chain xs,chain ys]) ∧
    (∀ c : Context, answer [chain [],c] = c.answer st key ∧ answer [c,chain []] = c.answer st key ∧
      answer [c] = c.answer st key) ∧
    (∀ xs c ys, (∀ x ∈ xs, x.ask st key = .absent) → c.ask st key ≠ .absent →
      answer (xs ++ c :: ys) = ⟨c.ask st key,consulted (xs ++ [c])⟩) ∧
    (∀ xs, (∀ x ∈ xs, x.ask st key = .absent) → answer xs = ⟨.absent,consulted xs⟩) ∧
    (∀ c cs, (answer (c :: cs)).reply ≠ (answer cs).reply →
      (∃ v, c.ask st key = .value v) ∨ ∃ f, c.ask st key = .failure f) ∧
    ∀ xs ys : List Offer, (Plan.chain ((xs ++ ys).map .offer)).answers =
      (Plan.chain [.chain (xs.map .offer),.chain (ys.map .offer)]).answers := by
  intro answer consulted
  have hprod : ∀ cs, answer cs = (cs.map fun c => c.answer st key).prod :=
    fun cs => answer_chain_eq_prod st cs key
  have hone : (chain []).answer st key = 1 := hprod []
  refine ⟨fun xs ys => answer_chain_append st xs ys key,fun c => ⟨?_,?_,?_⟩,?_,?_,?_,
    Plan.answers_append⟩
  · rw [hprod,List.map_cons,hone,List.prod_cons,one_mul]
    exact List.prod_singleton
  · rw [hprod,List.map_cons,List.map_singleton,hone,List.prod_cons,List.prod_singleton,mul_one]
  · rw [hprod]
    exact List.prod_singleton
  · intro xs c ys hxs hc
    rw [hprod,List.map_append,List.map_cons,Answer.prod_of_first (List.forall_mem_map.2 hxs) hc]
    simp [consulted,List.flatMap_map,ask]
  · intro xs hxs
    rw [hprod,Answer.prod_of_absent (List.forall_mem_map.2 hxs),List.flatMap_map]
  · intro c cs hne
    cases hc : c.ask st key with
    | value v => exact .inl ⟨v,rfl⟩
    | failure f => exact .inr ⟨f,rfl⟩
    | absent =>
      refine absurd ?_ hne
      rw [hprod,hprod,List.map_cons,List.prod_cons,Answer.mul_of_absent hc]

/-- Behind a table without the key an empty value answers, and what would fail is not consulted. -/
theorem empty_value_chosen :
    let st : Store := { environment := .empty, shared := .empty }
    let absent : Context := .source (.fixed .empty)
    let blank : Context := .source (.function fun _ => .value (.text []))
    let failing : Context := .source (.function fun k => .failure (.missingKey k))
    (∀ x ∈ [absent], x.ask st ['k'] = .absent) ∧ blank.ask st ['k'] ≠ .absent ∧
    (chain [absent,blank,failing]).answer st ['k'] = ⟨.value (.text []),
      [(.fixed .empty,['k']),(.function fun _ => .value (.text []),['k'])]⟩ := by
  intro st absent blank failing
  have habsent : ∀ x ∈ [absent], x.ask st ['k'] = .absent := by
    intro x hx
    obtain rfl := List.mem_singleton.1 hx
    simp [absent,ask,Source.reply,Reply.ofOption]
  have hblank : blank.ask st ['k'] = .value (.text []) := by simp [blank,ask,Source.reply]
  have hne : blank.ask st ['k'] ≠ .absent := by simp [hblank]
  obtain ⟨-,-,hfirst,-⟩ := chain_ordered_choice st ['k']
  refine ⟨habsent,hne,(hfirst [absent] blank [failing] habsent hne).trans ?_⟩
  simp [hblank,absent,blank]

end Context
end ShellTemplate
