import ObjectAccess.Text.Decimal

/-!
# Doubles in text

A double is written with the fewest digits that read back as the same double, and of
those with the nearest ones, where a tie goes to the even digit.  The digits are found
in exact arithmetic: the reals that round to a double `m · 2^q` form an interval around
it, and on each decimal grid only the two neighbours of the double can lie in it.  Grids
are tried from the coarsest to the finest, so the first hit has the fewest digits.

Numbers with a decimal exponent from -5 to 15 are written positionally, with `.0`
when they are whole; all others with an exponent that always has a sign.
-/

namespace ObjectAccess.Decimal

set_option autoImplicit false

/-- A positive double as a whole number of quarters of `2^scale`, with the interval of the
reals that round to it. -/
structure Rounding where
  value : Nat
  low : Nat
  high : Nat
  /-- Whether the ends of the interval round to the double as well. -/
  closed : Bool
  scale : Int

/-- The rounding interval of a finite double, from its bits without the sign. -/
def Rounding.ofBits (bits : Nat) : Rounding :=
  let exponent : Nat := bits / 0x10000000000000
  let fraction := bits % 0x10000000000000
  let mantissa := if exponent = 0 then fraction else 0x10000000000000 + fraction
  let scale : Int := (max exponent 1 : Nat) - 1075
  let below := if fraction = 0 ∧ 1 < exponent then 1 else 2
  ⟨4 * mantissa, 4 * mantissa - below, 4 * mantissa + 2, mantissa % 2 = 0, scale - 2⟩

/-- The factors that compare `n · 2^scale` with `k · 10^grid` as whole numbers: `n * fst` with
`k * snd`. -/
def gridFactors (scale grid : Int) : Nat × Nat :=
  (Nat.pow 2 scale.toNat * Nat.pow 10 (-grid).toNat,
    Nat.pow 2 (-scale).toNat * Nat.pow 10 grid.toNat)

/-- The neighbour on the grid of `10^grid` that lies in the interval, the nearer one if both
do, and the even one if both are as near. -/
def Rounding.onGrid? (r : Rounding) (grid : Int) : Option Nat :=
  let (left, right) := gridFactors r.scale grid
  let inside (k : Nat) : Bool :=
    if r.closed then r.low * left ≤ k * right && k * right ≤ r.high * left
    else r.low * left < k * right && k * right < r.high * left
  let floor := r.value * left / right
  let distance := r.value * left - floor * right
  match inside floor, inside (floor + 1) with
  | true, true =>
    some (if 2 * distance < right ∨ (2 * distance = right ∧ floor % 2 = 0) then floor
      else floor + 1)
  | true, false => some floor
  | false, true => some (floor + 1)
  | false, false => none

/-- The first hit on the grids below `10^(grid + 1)`, with its grid. -/
def Rounding.search (r : Rounding) : Nat → Int → Nat × Int
  | 0, grid => (0, grid)
  | count + 1, grid =>
    match r.onGrid? grid with
    | some k => (k, grid)
    | none => r.search count (grid - 1)

/-- The fewest digits of a positive double, as a number and a power of ten. -/
def shortest (bits : Nat) : Nat × Int := (Rounding.ofBits bits).search 640 309

/-- The text of `digits · 10^power`. -/
def layout (digits : List Char) (power : Int) : List Char :=
  let exponent : Int := digits.length - 1 + power
  if -5 ≤ exponent ∧ exponent ≤ 15 then
    if 0 ≤ power then digits ++ List.replicate power.toNat '0' ++ ['.', '0']
    else if 0 ≤ exponent then
      digits.take (exponent.toNat + 1) ++ '.' :: digits.drop (exponent.toNat + 1)
    else '0' :: '.' :: (List.replicate (-exponent - 1).toNat '0' ++ digits)
  else
    let head := match digits with
      | first :: rest => if rest.isEmpty then [first] else first :: '.' :: rest
      | [] => []
    head ++ 'e' :: (if exponent < 0 then '-' else '+') :: Decimal.digits exponent.natAbs

/-- The text of a finite double. -/
def ofDouble (x : Float) : List Char :=
  let bits := x.toBits.toNat
  let magnitude := bits % 0x8000000000000000
  let sign := if bits = magnitude then [] else ['-']
  if magnitude = 0 then sign ++ ['0', '.', '0']
  else
    let (k, power) := shortest magnitude
    sign ++ layout (digits k) power

end ObjectAccess.Decimal
