/-!
Binary fractions written with a fixed number of decimal places. The exact value is rounded to the
nearest writing, a half to the even one, and the sign is kept even where nothing else is left.
-/

namespace FilterList.Decimal

/-- The quotient to the nearest whole number, a half to the even one. -/
def divToEven (num den : Nat) : Nat :=
  let quotient := num / den
  let rest := 2 * (num % den)
  if rest > den || rest == den && quotient % 2 == 1 then quotient + 1 else quotient

/-- A finite binary fraction: `mantissa * 2 ^ (exponent - bias)`. -/
structure Binary where
  negative : Bool
  mantissa : Nat
  exponent : Nat
  deriving Repr, DecidableEq

namespace Binary

def bias : Nat := 1074

/-- The fraction that the bits of a double stand for, if it is finite. -/
def ofBits? (bits : UInt64) : Option Binary :=
  let n := bits.toNat
  let negative := n >>> 63 == 1
  let field := (n >>> 52) % (1 <<< 11)
  let fraction := n % (1 <<< 52)
  if field == 2047 then none
  else if field == 0 then some ⟨negative, fraction, 0⟩
  else some ⟨negative, fraction + (1 <<< 52), field - 1⟩

/-- How often `1 / 10 ^ places` goes into the magnitude, rounded. -/
def scaled (value : Binary) (places : Nat) : Nat :=
  divToEven ((value.mantissa <<< value.exponent) * Nat.pow 10 places) (1 <<< bias)

end Binary

/-- `n / 10 ^ places` with all its places, of which there is at least one. -/
def placed (n places : Nat) : String :=
  let fraction := toString (n % Nat.pow 10 places)
  toString (n / Nat.pow 10 places) ++ "." ++ "".pushn '0' (places - fraction.length) ++ fraction

def ofFloat (places : Nat) (value : Float) : String :=
  match Binary.ofBits? value.toBits with
  | some binary =>
    (if binary.negative then "-" else "") ++ placed (binary.scaled places) places
  | none => if value.isNaN then "NaN" else if value < 0 then "-inf" else "inf"

end FilterList.Decimal
