import ShellTemplate.Bindings
import ShellTemplate.Context.Reply
import ShellTemplate.Text.Lowercase

/-! Contexts: where the values of a template come from. A context is a source, a pair of contexts with
keys routed to them by their first letters, or a chain of contexts in which the first value wins. An
answer tells which sources were consulted, in order, beside the reply itself. -/
namespace ShellTemplate

/-- What changes under a context that is already in use: the process environment and a shared table. The
names in the environment are those that the system has an encoding for. -/
structure Store where
  environment : Bindings Text
  shared : Bindings Value
  names : Text.Codec := .utf8Names

inductive Source
  | fixed (table : Bindings Value)
  | environment
  | shared
  | function (lookup : Text → Reply)

def Source.reply (st : Store) : Source → Text → Reply
  | .fixed table, key => .ofOption (table.get? key)
  | .environment, key =>
    match st.names.fault? key with
    | some u => .failure (.unencodable u)
    | none => .ofOption ((st.environment.get? key).map .text)
  | .shared, key => .ofOption (st.shared.get? key)
  | .function lookup, key => lookup key

inductive Context
  | source (s : Source)
  | routed (properties environment : Context)
  | chain (members : List Context)

/-- A reply, and the sources asked for it with the keys that they were asked for. -/
structure Answer where
  reply : Reply
  consulted : List (Source × Text)

/-- Which of two contexts a key goes to, and what is left of the key. -/
inductive Route
  | properties (key : Text)
  | environment (key : Text)
  deriving Repr, DecidableEq

def environmentMark : Text := "env.".toText

def propertiesMark : Text := "prop.".toText

/-- A key whose lower case begins with `env.` or `prop.` is routed there without those characters, and
any other key is a property as it stands. -/
def Route.ofKey (key : Text) : Route :=
  if (Text.after? environmentMark (Text.lower key)).isSome then
    .environment (key.drop environmentMark.length)
  else if (Text.after? propertiesMark (Text.lower key)).isSome then
    .properties (key.drop propertiesMark.length)
  else .properties key

namespace Context

mutual

def answer (st : Store) : Context → Text → Answer
  | .source s, key => ⟨s.reply st key, [(s, key)]⟩
  | .routed p e, key =>
    match Route.ofKey key with
    | .properties k => p.answer st k
    | .environment k => e.answer st k
  | .chain members, key => firstAnswer st members key

/-- The answer of the first member that has a value or fails; later members are not consulted. -/
def firstAnswer (st : Store) : List Context → Text → Answer
  | [], _ => ⟨.absent, []⟩
  | c :: cs, key =>
    let a := c.answer st key
    match a.reply with
    | .absent =>
      let b := firstAnswer st cs key
      ⟨b.reply, a.consulted ++ b.consulted⟩
    | _ => a

end

def ask (st : Store) (c : Context) (key : Text) : Reply := (c.answer st key).reply

@[simp] theorem answer_source (st : Store) (s : Source) (key : Text) :
    (source s).answer st key = ⟨s.reply st key, [(s, key)]⟩ := by simp [answer]

@[simp] theorem answer_chain (st : Store) (cs : List Context) (key : Text) :
    (chain cs).answer st key = firstAnswer st cs key := by simp [answer]

@[simp] theorem firstAnswer_nil (st : Store) (key : Text) :
    firstAnswer st [] key = ⟨.absent, []⟩ := by simp [firstAnswer]

@[simp] theorem ask_chain_nil (st : Store) (key : Text) : (chain []).ask st key = .absent := by
  simp [ask]

/-- In a chain the later members are asked for what the first has not. -/
theorem ask_chain_cons (st : Store) (c : Context) (cs : List Context) (key : Text) :
    (chain (c :: cs)).ask st key =
      if c.ask st key = .absent then (chain cs).ask st key else c.ask st key := by
  simp only [ask, answer_chain, firstAnswer]
  split
  · rename_i h
    rw [if_pos h]
  · rename_i h
    rw [if_neg h]

/-- The context over a map of texts. -/
def ofTexts (properties : Bindings Text) : Context := .source (.fixed (properties.mapValues .text))

def systemEnvironment : Context := .source .environment

end Context

end ShellTemplate
