import Mathlib.Data.Fintype.Card
import Mathlib.Data.List.Lex
import Mathlib.Tactic.Lemma
import ShellTemplate.Serial.Basic

/-! Objects that hold one another, and walks from object to object. What is written of a value is the tree of
all walks from it, as far as they enter no container twice. -/
namespace ShellTemplate

/-- What can be the key of a dictionary or the element of a set. -/
inductive Key
  | null
  | bool (b : Bool)
  | int (i : Int)
  | float (literal : Text)
  | text (t : Text)
  | bytes (bs : List UInt8)
  | complex (re im : Json.Dyadic)
  | tuple (items : List Key)

/-- A value where there are `n` containers, of which it may be one. -/
inductive Object (n : Nat)
  | null
  | bool (b : Bool)
  | int (i : Int)
  | float (literal : Text)
  | text (t : Text)
  | bytes (bs : List UInt8)
  | complex (re im : Json.Dyadic)
  | set (items : List Key)
  | held (place : Fin n)

inductive Container (n : Nat)
  | list (items : List (Object n))
  | tuple (items : List (Object n))
  | dict (members : List (Key × Object n))

def Container.isTuple {n : Nat} : Container n → Bool
  | .tuple _ => true
  | _ => false

/-- What a container is made of. -/
inductive Part (n : Nat)
  | key (k : Key)
  | value (v : Object n)

/-- The parts of a container in order; the key of a member is before its value. -/
def Container.parts {n : Nat} : Container n → List (Part n)
  | .list items => items.map .value
  | .tuple items => items.map .value
  | .dict members => members.flatMap fun m => [.key m.1,.value m.2]

/-- Containers by their places, the later ones made later. Lists and dictionaries can hold anything, and
themselves, but a tuple holds what was there before it. -/
structure Objects where
  size : Nat
  contents : Fin size → Container size
  older : ∀ c d, (contents c).isTuple → .value (.held d) ∈ (contents c).parts → d < c

mutual

def Key.datum : Key → Datum
  | .null => .null
  | .bool b => .bool b
  | .int i => .int i
  | .float literal => .float literal
  | .text t => .text t
  | .bytes bs => .bytes bs
  | .complex re im => .complex re im
  | .tuple items => .tuple (Key.data items)

def Key.data : List Key → List Datum
  | [] => []
  | k :: ks => k.datum :: Key.data ks

end

/-- The container as data, if each of its values is. -/
def Container.datum {n : Nat} (f : Object n → Datum) : Container n → Datum
  | .list items => .list (items.map f)
  | .tuple items => .tuple (items.map f)
  | .dict members => .dict (members.map fun m => (m.1.datum,f m.2))

/-- What is wrong with a part whose values are these data. -/
def Part.offence? {n : Nat} (f : Object n → Datum) : Part n → Option Offence
  | .key k => Datum.keyOffence? k.datum
  | .value v => (f v).offence?

namespace Objects
variable (o : Objects)

/-- How many containers are not open. -/
def closed (opened : List (Fin o.size)) : Nat := (Finset.univ.filter (· ∉ opened)).card

variable {o}

lemma closed_cons_lt {opened : List (Fin o.size)} {c : Fin o.size} (h : c ∉ opened) :
    o.closed (c :: opened) < o.closed opened := by
  refine Finset.card_lt_card ⟨fun d hd => ?_,fun hall => ?_⟩
  · simp only [Finset.mem_filter,Finset.mem_univ,true_and,List.mem_cons,not_or] at hd ⊢
    exact hd.2
  · have hc := hall (Finset.mem_filter.2 ⟨Finset.mem_univ c,h⟩)
    simp at hc

variable (o)

/-- The data that a value is, within the containers that are open, the innermost of them first. -/
def datum (opened : List (Fin o.size)) : Object o.size → Datum
  | .null => .null
  | .bool b => .bool b
  | .int i => .int i
  | .float literal => .float literal
  | .text t => .text t
  | .bytes bs => .bytes bs
  | .complex re im => .complex re im
  | .set items => .set (Key.data items)
  | .held c =>
    if _h : c ∈ opened then .enclosing (opened.idxOf c)
    else (o.contents c).datum fun v => datum (c :: opened) v
termination_by o.closed opened
decreasing_by exact closed_cons_lt _h

/-- What is found wrong with a part. -/
def found (opened : List (Fin o.size)) : Part o.size → Option Offence := Part.offence? (o.datum opened)

end Objects

section
variable {n : Nat} (f : Object n → Datum)

lemma itemsOffence?_map (vs : List (Object n)) :
    Datum.itemsOffence? (vs.map f) = (vs.map Part.value).findSome? (Part.offence? f) := by
  induction vs with
  | nil => rfl
  | cons v vs ih =>
    rw [List.map_cons,Datum.itemsOffence?,ih,List.map_cons,List.findSome?_cons,Part.offence?]
    cases (f v).offence? <;> rfl

lemma membersOffence?_map (ms : List (Key × Object n)) :
    Datum.membersOffence? (ms.map fun m => (m.1.datum,f m.2)) =
      (ms.flatMap fun m => [.key m.1,.value m.2]).findSome? (Part.offence? f) := by
  induction ms with
  | nil => rfl
  | cons m ms ih =>
    rw [List.map_cons,Datum.membersOffence?,ih,List.flatMap_cons,List.findSome?_append]
    simp only [List.findSome?_cons,List.findSome?_nil,Part.offence?]
    cases Datum.keyOffence? m.1.datum <;> cases (f m.2).offence? <;> rfl

/-- The offence in a container is the first in its parts. -/
lemma offence?_container (x : Container n) : (x.datum f).offence? = x.parts.findSome? (Part.offence? f) := by
  cases x with
  | list items => rw [Container.datum,Datum.offence?,itemsOffence?_map,Container.parts]
  | tuple items => rw [Container.datum,Datum.offence?,itemsOffence?_map,Container.parts]
  | dict members => rw [Container.datum,Datum.offence?,membersOffence?_map,Container.parts]

end

namespace Objects
variable {o : Objects} {opened : List (Fin o.size)} {c : Fin o.size}

/-- A container that is open already is an offence itself. -/
lemma found_open (h : c ∈ opened) : o.found opened (.value (.held c)) = some .circular := by
  rw [found,Part.offence?,datum,dif_pos h,Datum.offence?]

/-- Any other is as good as its parts, for which it is open. -/
lemma found_held (h : c ∉ opened) :
    o.found opened (.value (.held c)) = (o.contents c).parts.findSome? (o.found (c :: opened)) := by
  rw [found,Part.offence?,datum,dif_neg h,offence?_container]
  rfl

end Objects
end ShellTemplate
