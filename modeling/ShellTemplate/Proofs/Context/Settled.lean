import ShellTemplate.Proofs.Context.Routing

/-! What a context gives where nothing changes under it any more. A context refers to the environment and
to the shared table wherever it names them, however deep, and a reply takes from them what stands there
when the key is asked for. -/
namespace ShellTemplate

/-- Two stores in which the same names can be and every name has the same value. The order of the names may
differ. -/
structure Store.Same (a b : Store) : Prop where
  environment (name : Text) : a.environment.get? name = b.environment.get? name
  shared (key : Text) : a.shared.get? key = b.shared.get? key
  names : a.names = b.names

lemma Store.Same.refl (st : Store) : st.Same st := ⟨fun _ => rfl,fun _ => rfl,rfl⟩

/-- The source with the present contents in the place of a reference to them. -/
def Source.settled (now : Store) : Source → Source
  | .environment => .function (reply now .environment)
  | .shared => .fixed now.shared
  | .fixed table => .fixed table
  | .function lookup => .function lookup

lemma Source.reply_settled {now st : Store} (h : now.Same st) (other : Store) (s : Source) (key : Text) :
    (s.settled now).reply other key = s.reply st key := by
  cases s with
  | environment => simp [settled,reply,h.environment key,h.names]
  | shared => simp [settled,reply,h.shared key]
  | fixed | function => rfl

namespace Context

mutual

/-- The context with the present contents in the place of every reference to them. -/
def settled (now : Store) : Context → Context
  | .source s => .source (s.settled now)
  | .routed p e => .routed (p.settled now) (e.settled now)
  | .chain members => .chain (settledAll now members)

def settledAll (now : Store) : List Context → List Context
  | [] => []
  | c :: cs => c.settled now :: settledAll now cs

end

mutual

/-- However a context is nested, it replies as the settled one does, which takes nothing from the store
that it is used in. -/
theorem ask_settled {now st : Store} (h : now.Same st) (other : Store) :
    ∀ c key, (settled now c).ask other key = c.ask st key
  | .source s, key => by
    rw [settled,ask,ask,answer_source,answer_source]
    exact s.reply_settled h other key
  | .routed p e, key => by
    rw [settled,ask_routed,ask_routed]
    split
    · exact ask_settled h other p _
    · exact ask_settled h other e _
  | .chain members, key => by
    rw [settled]
    exact ask_settledAll h other members key

theorem ask_settledAll {now st : Store} (h : now.Same st) (other : Store) :
    ∀ cs key, (chain (settledAll now cs)).ask other key = (chain cs).ask st key
  | [], _ => by rw [settledAll,ask_chain_nil,ask_chain_nil]
  | c :: cs, key => by
    rw [settledAll,ask_chain_cons,ask_chain_cons,ask_settled h other c,ask_settledAll h other cs]

end

/-- A reply depends on the values that names have, and on nothing else of the store. -/
lemma ask_same {st st' : Store} (h : st.Same st') (c : Context) : c.ask st = c.ask st' := by
  funext key
  exact (ask_settled (.refl st) st c key).symm.trans (ask_settled h st c key)

end Context
end ShellTemplate
