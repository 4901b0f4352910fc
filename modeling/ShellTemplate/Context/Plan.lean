import ShellTemplate.Context.Basic

/-! Plans of contexts. A plan is carried out from the inside out: the parts first, and then the whole,
which takes its parts from left to right and refuses one that cannot be looked up in. -/
namespace ShellTemplate

/-- What may be given where a context is expected. -/
inductive Offer
  | context (c : Context)
  | other (s : Shape)

def Offer.adapt : Offer → Except Failure Context
  | .context c => .ok c
  | .other s => .error (.notContext s)

inductive Plan
  | offer (o : Offer)
  | routed (properties : Plan) (environment : Option Plan)
  | chain (members : List Plan)

namespace Plan

mutual

/-- Without a plan for it, the environment of a routed context is that of the process. -/
def build : Plan → Except Failure Offer
  | .offer o => .ok o
  | .routed p none => do
    let p ← build p
    return .context (.routed (← p.adapt) .systemEnvironment)
  | .routed p (some e) => do
    let p ← build p
    let e ← build e
    return .context (.routed (← p.adapt) (← e.adapt))
  | .chain members => do
    let members ← buildAll members
    return .context (.chain (← members.mapM Offer.adapt))

def buildAll : List Plan → Except Failure (List Offer)
  | [] => .ok []
  | p :: ps => do
    let o ← build p
    return o :: (← buildAll ps)

end

/-- The context that the plan describes. -/
def context (p : Plan) : Except Failure Context := p.build >>= Offer.adapt

end Plan

end ShellTemplate
