import ShellTemplate.Json.Real
import ShellTemplate.Log.Notice

/-! Nested data of which some can be written as JSON. Lists, tuples and dictionaries may hold themselves:
`enclosing n` stands for the container `n` levels further out than the innermost one. -/
namespace ShellTemplate

inductive Datum
  | null
  | bool (b : Bool)
  | int (i : Int)
  | float (literal : Text)
  | text (t : Text)
  | bytes (bs : List UInt8)
  | complex (re im : Json.Dyadic)
  | set (items : List Datum)
  | list (items : List Datum)
  | tuple (items : List Datum)
  | dict (members : List (Datum × Datum))
  | enclosing (level : Nat)

/-- What has no form in JSON. -/
inductive Foreign
  | bytes | complex | set | tuple
  deriving Repr, DecidableEq

def Foreign.word : Foreign → Text
  | .bytes => "bytes".toText
  | .complex => "complex".toText
  | .set => "set".toText
  | .tuple => "tuple".toText

/-- Why data cannot be written. -/
inductive Offence
  | value (f : Foreign)
  | key (f : Foreign)
  | circular
  deriving Repr, DecidableEq

def Offence.message : Offence → Text
  | .value f => "Object of type ".toText ++ f.word ++ " is not JSON serializable".toText
  | .key f => "keys must be str, int, float, bool or None, not ".toText ++ f.word
  | .circular => "Circular reference detected".toText

namespace Datum

/-- What is wrong with a key. -/
def keyOffence? : Datum → Option Offence
  | .bytes _ => some (.key .bytes)
  | .complex _ _ => some (.key .complex)
  | .tuple _ => some (.key .tuple)
  | _ => none

mutual

/-- The first offence, depth first; a key is judged before its value. -/
def offence? : Datum → Option Offence
  | .bytes _ => some (.value .bytes)
  | .complex _ _ => some (.value .complex)
  | .set _ => some (.value .set)
  | .enclosing _ => some .circular
  | .list items => itemsOffence? items
  | .tuple items => itemsOffence? items
  | .dict members => membersOffence? members
  | _ => none

def itemsOffence? : List Datum → Option Offence
  | [] => none
  | d :: ds => (offence? d).or (itemsOffence? ds)

def membersOffence? : List (Datum × Datum) → Option Offence
  | [] => none
  | (k, v) :: ms => (keyOffence? k).or ((offence? v).or (membersOffence? ms))

end

/-- Whether the data can be written as JSON, with a notice of the first offence if not. -/
def isSerializable (d : Datum) : Bool × List Notice :=
  match d.offence? with
  | none => (true, [])
  | some o => (false, [.notSerializable o.message])

end Datum

end ShellTemplate
