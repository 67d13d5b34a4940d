/-!
The shortest decimal that stands for a binary floating-point number.

A double is `m · 2^q` for natural `m`, and every real number closer to it than to its
neighbours is read as that double. Among the decimals in that interval the shortest one
is written, and of several shortest ones the one nearest to the double. The search goes
through the digit counts: for each count the two decimals next to the double are the only
candidates.

* `Double.ofBits` takes a double apart;
* `Double.shortest` finds the digits and the exponent;
* `Double.text` writes them, positionally for moderate exponents and with an exponent
  otherwise.
-/

namespace BriskModules.Decimal

/-- A finite double of magnitude `significand · 2^exponent`. -/
structure Double where
  /-- Whether the sign bit is set. -/
  negative : Bool
  significand : Nat
  exponent : Int
  /-- Whether the neighbour below is at half the distance of the neighbour above. -/
  narrowBelow : Bool
deriving DecidableEq, Repr

/-- The decimal number `digits · 10^exponent`. -/
structure Numeral where
  digits : Nat
  exponent : Int
deriving DecidableEq, Repr

/-- The power of two with an exponent, and one if that is negative. -/
def twoTo (exponent : Int) : Nat := Nat.pow 2 exponent.toNat

/-- The power of ten with an exponent, and one if that is negative. -/
def tenTo (exponent : Int) : Nat := Nat.pow 10 exponent.toNat

/-- The value of the sign bit of a double within its word. -/
def signUnit : Nat := 0x8000000000000000

/-- The value of the lowest exponent bit of a double within its word, which is also that of
the leading bit that significands do not store. -/
def leadingUnit : Nat := 0x10000000000000

namespace Double

/-- A finite double taken apart, and none for an infinity or a NaN. -/
def ofBits (bits : UInt64) : Option Double :=
  let word : Nat := bits.toNat
  let negative := decide (word / signUnit = 1)
  let field : Nat := word / leadingUnit % 2048
  let fraction : Nat := word % leadingUnit
  if field = 2047 then none
  else if field = 0 then some ⟨negative, fraction, -1074, false⟩
  else some ⟨negative, leadingUnit + fraction, (field : Int) - 1075, fraction = 0 && field ≠ 1⟩

/-- Compares `a · 2^p` with `b · 10^e`. -/
def compareScaled (a : Nat) (p : Int) (b : Nat) (e : Int) : Ordering :=
  compare (a * twoTo p * tenTo (-e)) (b * tenTo e * twoTo (-p))

/-- The largest `e` with `10^e` not above the number `m · 2^q`, for positive `m`. -/
def magnitude (m : Nat) (q : Int) : Int :=
  let above := m * twoTo q
  let below := twoTo (-q)
  if below ≤ above then ((Nat.toDigits 10 (above / below)).length : Int) - 1
  else
    let ratio := (below + above - 1) / above
    let zeros := (Nat.toDigits 10 (ratio - 1)).length
    Int.neg zeros

/-- Whether a decimal is read as the double `d`: it lies between the midpoints to the
neighbours, and on a midpoint only if the significand is even. -/
def readsBack (d : Double) (digits : Nat) (e : Int) : Bool :=
  let low := if d.narrowBelow then 4 * d.significand - 1 else 4 * d.significand - 2
  let high := 4 * d.significand + 2
  let p := d.exponent - 2
  let even := d.significand % 2 = 0
  (match compareScaled low p digits e with
    | .lt => true
    | .eq => even
    | .gt => false) &&
  (match compareScaled high p digits e with
    | .gt => true
    | .eq => even
    | .lt => false)

/-- The decimal with exponent `e` that is read back as `d` and is nearest to it, if
there is one; of two equally near ones the even one. -/
def onGrid (d : Double) (e : Int) : Option Numeral :=
  let above := d.significand * twoTo d.exponent * tenTo (-e)
  let below := twoTo (-d.exponent) * tenTo e
  let down := above / below
  let up := down + 1
  let preferDown :=
    match compare (2 * (above % below)) below with
    | .lt => true
    | .eq => down % 2 = 0
    | .gt => false
  match d.readsBack down e && down ≠ 0, d.readsBack up e with
  | true, true => some ⟨if preferDown then down else up, e⟩
  | true, false => some ⟨down, e⟩
  | false, true => some ⟨up, e⟩
  | false, false => none

/-- The first hit when one digit more is allowed each time. -/
def search (d : Double) (top : Int) : Nat → Nat → Option Numeral
  | _, 0 => none
  | count, more + 1 =>
    match d.onGrid (top + 1 - count) with
    | some decimal => some decimal
    | none => search d top (count + 1) more

/-- The shortest decimal that is read back as the double, which needs seventeen digits
at most. -/
def shortest (d : Double) : Numeral :=
  if d.significand = 0 then ⟨0, 0⟩
  else (d.search (magnitude d.significand d.exponent) 1 17).getD ⟨d.significand, 0⟩

end Double

/-- How digits are set out as text. -/
structure Notation where
  /-- The least power of ten of the leading digit that is still written positionally. -/
  least : Int
  /-- The greatest one. -/
  greatest : Int
deriving DecidableEq, Repr

/-- Numbers are written positionally from `0.00001` to below `10^16`, with a digit on
both sides of the point, and with a signed exponent outside. -/
def usual : Notation := ⟨-5, 15⟩

/-- The digits of a decimal without zeros at their end, and the exponent that goes with
them. -/
def stripZeros : Nat → Numeral → Numeral
  | 0, d => d
  | fuel + 1, d =>
    if d.digits ≠ 0 ∧ d.digits % 10 = 0 then stripZeros fuel ⟨d.digits / 10, d.exponent + 1⟩
    else d

/-- A decimal as text. -/
def Notation.write (style : Notation) (d : Numeral) : List Char :=
  let d := stripZeros 20 d
  let digits := Nat.toDigits 10 d.digits
  let leading : Int := d.exponent + digits.length - 1
  if style.least ≤ leading ∧ leading ≤ style.greatest then
    if 0 ≤ d.exponent then
      digits ++ List.replicate d.exponent.toNat '0' ++ ['.', '0']
    else if 0 ≤ leading then
      let whole := (leading + 1).toNat
      digits.take whole ++ ['.'] ++ digits.drop whole
    else
      ['0', '.'] ++ List.replicate (-leading - 1).toNat '0' ++ digits
  else
    let fraction := digits.drop 1
    digits.take 1 ++ (if fraction.isEmpty then [] else '.' :: fraction) ++ ['e'] ++
      [if leading < 0 then '-' else '+'] ++ Nat.toDigits 10 leading.natAbs

/-- The text of a double given by its bits, and none for an infinity or a NaN. -/
def textOfBits? (bits : UInt64) : Option String :=
  (Double.ofBits bits).map fun d =>
    let digits := usual.write d.shortest
    String.ofList (if d.negative then '-' :: digits else digits)

end BriskModules.Decimal
