import ShellTemplate.Serial.Basic

/-! Keys of dictionaries and elements of sets. What can change cannot be one; numbers of different kinds
are the same key if they are equal. -/
namespace ShellTemplate.Datum

/-- What a dictionary or a set refuses. -/
inductive Mutable
  | list | dict | set
  deriving Repr, DecidableEq

def Mutable.message (m : Mutable) : Text :=
  "unhashable type: ".toText ++ Text.quoted (match m with
    | .list => "list".toText
    | .dict => "dict".toText
    | .set => "set".toText)

mutual

/-- The first thing in a key that can change. -/
def mutable? : Datum → Option Mutable
  | .list _ => some .list
  | .dict _ => some .dict
  | .set _ => some .set
  | .tuple items => anyMutable? items
  | _ => none

def anyMutable? : List Datum → Option Mutable
  | [] => none
  | d :: ds => (mutable? d).or (anyMutable? ds)

end

/-- What makes two keys one. A number is its value, whatever its kind. -/
inductive Identity
  | null
  | finite (re im : Json.Dyadic)
  | infinite (negative : Bool)
  | text (t : Text)
  | bytes (bs : List UInt8)
  | tuple (items : List (Option Identity))

mutual

def Identity.same : Identity → Identity → Bool
  | .null, .null => true
  | .finite a b, .finite c d => a == c && b == d
  | .infinite a, .infinite b => a == b
  | .text a, .text b => a == b
  | .bytes a, .bytes b => a == b
  | .tuple a, .tuple b => Identity.sameAll a b
  | _, _ => false

def Identity.sameAll : List (Option Identity) → List (Option Identity) → Bool
  | [], [] => true
  | some a :: as, some b :: bs => Identity.same a b && Identity.sameAll as bs
  | _, _ => false

end

def zero : Json.Dyadic := ⟨0, 0⟩

/-- Whether the literal is below zero. -/
def isNegative (literal : Text) : Bool := literal.head? == some ('-' : CodePoint)

mutual

/-- The identity of a key. What equals nothing, not even itself, has none. -/
def identity? : Datum → Option Identity
  | .null => some .null
  | .bool b => some (.finite (.ofInt (if b then 1 else 0)) zero)
  | .int i => some (.finite (.ofInt i) zero)
  | .float literal =>
    match Json.nearest? literal with
    | some d => some (.finite d zero)
    | none => if literal = "NaN".toText then none else some (.infinite (isNegative literal))
  | .complex re im => some (.finite re.reduce im.reduce)
  | .text t => some (.text t)
  | .bytes bs => some (.bytes bs)
  | .tuple items => some (.tuple (identities items))
  | _ => none

def identities : List Datum → List (Option Identity)
  | [] => []
  | d :: ds => identity? d :: identities ds

end

def sameKey (a b : Datum) : Bool :=
  match identity? a, identity? b with
  | some a, some b => Identity.same a b
  | _, _ => false

/-- A key that is there keeps its place and its form and takes the later value. -/
def putMember (k v : Datum) : List (Datum × Datum) → List (Datum × Datum)
  | [] => [(k, v)]
  | m :: ms => if sameKey m.1 k then (m.1, v) :: ms else m :: putMember k v ms

/-- A dictionary of these members, the later ones overriding. -/
def ofMembers (members : List (Datum × Datum)) : Except Mutable Datum :=
  match members.findSome? fun m => mutable? m.1 with
  | some m => .error m
  | none => .ok (.dict (members.foldl (fun ms m => putMember m.1 m.2 ms) []))

/-- A set of these elements. -/
def ofElements (items : List Datum) : Except Mutable Datum :=
  match anyMutable? items with
  | some m => .error m
  | none => .ok (.set items)

end ShellTemplate.Datum
