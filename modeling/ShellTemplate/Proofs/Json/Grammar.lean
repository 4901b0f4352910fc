import ShellTemplate.Json.Reader
import ShellTemplate.Proofs.Json.Lexing

/-! The grammar of JSON: which texts are which values. A text nests only so deeply, and an integer has only
so many digits; beyond that there is no value to it. -/
namespace ShellTemplate.Json

/-- The value that a symbol is by itself. -/
inductive Denotes : Symbol → Json → Prop
  | null : Denotes .null .null
  | bool (b) : Denotes (.bool b) (.bool b)
  | int {negative ds} (h : ds.length ≤ Text.maxDigits) :
      Denotes (.int negative ds) (.int (intOfDigits negative ds))
  | float (literal) : Denotes (.float literal) (.float literal)
  | text (t) : Denotes (.text t) (.text t)

/-- What a piece of a text may be: a value, a value with space around it, the items of an array or the
members of an object. -/
inductive Phrase
  | value (v : Json)
  | spaced (v : Json)
  | items (vs : List Json)
  | members (ms : List (Text × Json))

/-- A name, with the space around it. -/
def SpelledName (k t : Text) : Prop :=
  ∃ a u b, t = a ++ ('"' :: (u ++ ('"' :: b : Text)) : Text) ∧ Space a ∧ Space b ∧ SpelledText k u

/-- `Spelled n p t`: the text `t` is the phrase `p`, in which no more than `n` arrays and objects stand
within one another. -/
inductive Spelled : Nat → Phrase → Text → Prop
  | scalar {n s v t} (hs : s.Spelled t) (hv : Denotes s v) : Spelled n (.value v) t
  | emptyArray {n a} (ha : Space a) : Spelled (n + 1) (.value (.array [])) ('[' :: (a ++ ([']'] : Text)))
  | array {n vs t} (h : Spelled n (.items vs) t) :
      Spelled (n + 1) (.value (.array vs)) ('[' :: (t ++ ([']'] : Text)))
  | emptyObject {n a} (ha : Space a) : Spelled (n + 1) (.value (.object [])) ('{' :: (a ++ (['}'] : Text)))
  | object {n ms t} (h : Spelled n (.members ms) t) :
      Spelled (n + 1) (.value (.object ms)) ('{' :: (t ++ (['}'] : Text)))
  | spaced {n v a t b} (ha : Space a) (hb : Space b) (h : Spelled n (.value v) t) :
      Spelled n (.spaced v) (a ++ (t ++ b))
  | lastItem {n v t} (hv : Spelled n (.spaced v) t) : Spelled n (.items [v]) t
  | item {n v vs t u} (hv : Spelled n (.spaced v) t) (h : Spelled n (.items vs) u) :
      Spelled n (.items (v :: vs)) (t ++ (',' :: u : Text))
  | lastMember {n k v q t} (hk : SpelledName k q) (hv : Spelled n (.spaced v) t) :
      Spelled n (.members [(k,v)]) (q ++ (':' :: t : Text))
  | member {n k v ms q t u} (hk : SpelledName k q) (hv : Spelled n (.spaced v) t)
      (h : Spelled n (.members ms) u) :
      Spelled n (.members ((k,v) :: ms)) (q ++ (':' :: (t ++ (',' :: u : Text)) : Text))

end ShellTemplate.Json
