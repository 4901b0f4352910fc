import ShellTemplate.Json.Lexeme

/-! The 64-bit number that a literal with a fraction or an exponent stands for, and whether it is
whole. -/
namespace ShellTemplate.Json

/-- A decimal literal in parts: its sign, its digits without the point, and the power of ten. -/
structure Decimal where
  negative : Bool
  digits : Nat
  scale : Int
  deriving Repr, DecidableEq

def natOfDecimals (ds : Text) : Nat := ds.foldl (fun n d => n * 10 + (d.toNat - 48)) 0

/-- The parts of a literal; none for the words that are not finite. -/
def Decimal.ofLiteral? (t : Text) : Option Decimal :=
  let negative := t.head? == some ('-' : CodePoint)
  let t := if negative then t.drop 1 else t
  let whole := t.takeWhile isDecimal
  if whole.isEmpty then none
  else
    let rest := t.drop whole.length
    let part := (fraction rest).drop 1
    let power := (exponent (rest.drop (fraction rest).length)).drop 1
    let down := power.head? == some ('-' : CodePoint)
    let size := natOfDecimals (power.filter isDecimal)
    some ⟨negative, natOfDecimals (whole ++ part), (if down then -(size : Int) else size) - part.length⟩

/-- A number `mantissa * 2 ^ power`. -/
structure Dyadic where
  mantissa : Int
  power : Int
  deriving Repr, DecidableEq

/-- Halves an even mantissa as long as that goes; `bound` is at least the number of its digits. -/
def Dyadic.halve : Nat → Dyadic → Dyadic
  | 0, d => d
  | bound + 1, d =>
    if d.mantissa % 2 = 0 then halve bound ⟨d.mantissa / 2, d.power + 1⟩ else d

/-- The one form of a number in which the mantissa is odd, or zero with power zero. -/
def Dyadic.reduce (d : Dyadic) : Dyadic :=
  if d.mantissa = 0 then ⟨0, 0⟩ else d.halve (d.mantissa.natAbs.log2 + 1)

def Dyadic.ofInt (i : Int) : Dyadic := reduce ⟨i, 0⟩

/-- The size of the least negative number in 64 bits. -/
def wordLimit : Nat := 0x8000000000000000

/-- The whole number that it equals, if it is whole and its size is below the limit. -/
def Dyadic.whole? (d : Dyadic) : Option Int :=
  let d := d.reduce
  if d.power < 0 ∨ 63 < d.power then none
  else
    let n := d.mantissa * Nat.pow 2 d.power.toNat
    if n.natAbs < wordLimit then some n else none

/-- The nearest 64-bit number of a decimal; none if it is beyond the greatest. -/
def Decimal.nearest? (d : Decimal) : Option Dyadic :=
  let size := (Nat.toDigits 10 d.digits).length + d.scale
  if d.digits = 0 ∨ size < -400 then some ⟨0, 0⟩
  else if size > 400 then none
  else
    let bits := (Float.ofScientific d.digits (d.scale < 0) d.scale.natAbs).toBits
    let high := ((bits >>> 52) &&& 0x7FF).toNat
    let low := (bits &&& 0xFFFFFFFFFFFFF).toNat
    if high = 0x7FF then none
    else
      let mantissa := if high = 0 then low else low + 0x10000000000000
      let power : Int := (if high = 0 then 1 else high : Nat) - 1075
      some (Dyadic.reduce ⟨if d.negative then -(mantissa : Int) else mantissa, power⟩)

/-- The nearest 64-bit number of a literal. -/
def nearest? (literal : Text) : Option Dyadic :=
  (Decimal.ofLiteral? literal).bind Decimal.nearest?

/-- The whole number that a literal equals, if it is whole and fits. -/
def whole? (literal : Text) : Option Int := (nearest? literal).bind Dyadic.whole?

end ShellTemplate.Json
