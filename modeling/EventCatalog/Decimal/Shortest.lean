/-
# EventCatalog.Decimal.Shortest — the fewest digits that read back

A number of double precision is written with the fewest decimal digits that still read
back as the same number, and of the candidates with that many digits with the nearest
one.  Everything is exact arithmetic on natural numbers: a positive double is
`m · 2 ^ q`, and the reals that round to it form an interval whose ends belong to it
exactly when `m` is even.

`Span` is that interval over one denominator.  A decimal grid that has a point in the
interval has one next to the number itself, so `Span.shortest` looks at two points of
the grids with one digit, two digits and so on; seventeen always suffice.
-/
import EventCatalog.Text.Integer

set_option autoImplicit false

namespace EventCatalog.Decimal

/-- The number `digits · 10 ^ exponent`. -/
structure Scaled where
  /-- The digits as one whole number. -/
  digits : Nat
  /-- The power of ten they are scaled by. -/
  exponent : Int
  deriving DecidableEq, Repr

/-- The reals that round to a positive double, as multiples of one fraction. -/
structure Span where
  /-- The lower end. -/
  low : Nat
  /-- The double itself. -/
  value : Nat
  /-- The upper end. -/
  high : Nat
  /-- What `low`, `value` and `high` are divided by. -/
  denominator : Nat
  /-- Whether the ends belong to the interval. -/
  closed : Bool

/-- The interval of the double with a mantissa and a power of two.  Below a power of two
the next double is only half as far away, the least normal one apart. -/
def Span.ofBinary (mantissa : Nat) (exponent : Int) : Span :=
  let below := if mantissa = Nat.pow 2 52 ∧ -1074 < exponent then 1 else 2
  let scale := Nat.pow 2 (exponent - 2).toNat
  { low := (4 * mantissa - below) * scale
    value := 4 * mantissa * scale
    high := (4 * mantissa + 2) * scale
    denominator := Nat.pow 2 (2 - exponent).toNat
    closed := mantissa % 2 = 0 }

/-- The power of ten of the first digit: the greatest `k` with `10 ^ k ≤ value`. -/
def Span.leadingExponent (span : Span) : Int :=
  let k : Int := (Text.digits span.value).length - (Text.digits span.denominator).length
  if span.denominator * Nat.pow 10 k.toNat ≤ span.value * Nat.pow 10 (-k).toNat then k else k - 1

/-- Whether `point · 10 ^ exponent` rounds to the double. -/
def Span.holds (span : Span) (point : Nat) (exponent : Int) : Bool :=
  let place := point * span.denominator * Nat.pow 10 exponent.toNat
  let unit := Nat.pow 10 (-exponent).toNat
  if span.closed then span.low * unit ≤ place && place ≤ span.high * unit
  else span.low * unit < place && place < span.high * unit

/-- The nearer to the double of the two grid points around it, of those that read back.
At an exact tie the even one is taken. -/
def Span.onGrid (span : Span) (exponent : Int) : Option Nat :=
  let above := span.value * Nat.pow 10 (-exponent).toNat
  let step := span.denominator * Nat.pow 10 exponent.toNat
  let floor := above / step
  match span.holds floor exponent, span.holds (floor + 1) exponent with
  | false, false => none
  | true, false => some floor
  | false, true => some (floor + 1)
  | true, true =>
    let rest := 2 * (above % step)
    if rest < step ∨ (rest = step ∧ floor % 2 = 0) then some floor else some (floor + 1)

/-- The number without zeros at the end of its digits; `fuel` bounds how many go. -/
def Scaled.strip : Nat → Scaled → Scaled
  | 0, n => n
  | fuel + 1, n =>
    if n.digits ≠ 0 ∧ n.digits % 10 = 0 then
      Scaled.strip fuel ⟨n.digits / 10, n.exponent + 1⟩
    else n

/-- The first grid, from `count` digits on, that has a point in the interval. -/
def Span.search (span : Span) (leading : Int) : (fuel count : Nat) → Scaled
  | 0, _ => ⟨span.value / span.denominator, 0⟩
  | fuel + 1, count =>
    let exponent := leading + 1 - count
    match span.onGrid exponent with
    | some point => Scaled.strip 18 ⟨point, exponent⟩
    | none => span.search leading fuel (count + 1)

/-- The decimal with the fewest digits that rounds to the double. -/
def Span.shortest (span : Span) : Scaled :=
  span.search span.leadingExponent 18 1

/-- Which numbers are written without an exponent: those whose first digit has a power of
ten from `leastPlain` to `greatestPlain`. -/
structure Layout where
  /-- The least power of ten written in full. -/
  leastPlain : Int
  /-- The greatest power of ten written in full. -/
  greatestPlain : Int

/-- Digits with a point after the first `places`, and a zero where a side is empty. -/
def pointed (places : Nat) (digits : List Char) : List Char :=
  let whole := digits.take places ++ List.replicate (places - digits.length) '0'
  let fraction := digits.drop places
  whole ++ '.' :: (if fraction = [] then ['0'] else fraction)

/-- The text of a positive decimal. -/
def Layout.write (layout : Layout) (n : Scaled) : List Char :=
  let digits := Text.digits n.digits
  let leading : Int := n.exponent + digits.length - 1
  if layout.leastPlain ≤ leading ∧ leading ≤ layout.greatestPlain then
    if 0 ≤ leading then pointed (leading.toNat + 1) digits
    else '0' :: '.' :: List.replicate ((-leading).toNat - 1) '0' ++ digits
  else
    let mantissa := match digits with
      | [] => []
      | [d] => [d]
      | d :: rest => d :: '.' :: rest
    let sign := if leading < 0 then '-' else '+'
    mantissa ++ 'e' :: sign :: Text.digits leading.natAbs

/-- The text of a finite double; `none` for a NaN or an infinity. -/
def Layout.writeFloat? (layout : Layout) (x : Float) : Option (List Char) :=
  let bits := x.toBits.toNat
  let fraction : Nat := bits % Nat.pow 2 52
  let exponent : Nat := bits / Nat.pow 2 52 % Nat.pow 2 11
  let sign := if bits / Nat.pow 2 63 = 1 then ['-'] else []
  if exponent = 2047 then none
  else if exponent = 0 ∧ fraction = 0 then some (sign ++ ['0', '.', '0'])
  else
    let span :=
      if exponent = 0 then Span.ofBinary fraction (-1074)
      else Span.ofBinary (Nat.pow 2 52 + fraction) ((exponent : Int) - 1075)
    some (sign ++ layout.write span.shortest)

end EventCatalog.Decimal
