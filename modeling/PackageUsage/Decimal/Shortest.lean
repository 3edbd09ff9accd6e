/-!
# The shortest decimal of a binary number

A positive binary number `m · 2 ^ q` stands for an interval of reals: those that round to it among
the numbers of its format. The decimal chosen here has the fewest digits of all decimals in that
interval and, among those with that many digits, is nearest to the number. All arithmetic is exact.
-/

namespace PackageUsage.Decimal

/-- The number `digits · 10 ^ exponent`. -/
structure Scientific where
  digits : Nat
  exponent : Int
deriving DecidableEq, Repr, Inhabited

/-- The interval of a binary number in quarters of its last place: `lo`, the number itself and `hi`
as fractions over one denominator, and whether the two ends belong to it. -/
structure Interval where
  lo : Nat
  value : Nat
  hi : Nat
  den : Nat
  closed : Bool
deriving Repr, Inhabited

/-- The interval of `m · 2 ^ q`; `atPower` says that the place below is half as wide. -/
def Interval.ofBinary (m : Nat) (q : Int) (atPower : Bool) : Interval :=
  let lo := if atPower then 4 * m - 1 else 4 * m - 2
  let scale := Nat.pow 2 (q - 2).toNat
  let den := Nat.pow 2 (2 - q).toNat
  ⟨lo * scale, 4 * m * scale, (4 * m + 2) * scale, den, m % 2 == 0⟩

/-- Whether the decimal `d · 10 ^ e` lies in the interval. -/
def Interval.contains (i : Interval) (d : Nat) (e : Int) : Bool :=
  let left := d * Nat.pow 10 e.toNat * i.den
  let scale := Nat.pow 10 (-e).toNat
  if i.closed then i.lo * scale ≤ left && left ≤ i.hi * scale
  else i.lo * scale < left && left < i.hi * scale

/-- The largest `e` with `10 ^ e` at most the value, searched downwards from a bound. -/
def Interval.magnitude (i : Interval) : Nat → Int → Int
  | 0, e => e
  | steps + 1, e =>
    if Nat.pow 10 e.toNat * i.den ≤ i.value * Nat.pow 10 (-e).toNat then e
    else i.magnitude steps (e - 1)

/-- The decimal of at most `count` digits nearest to the value, when one lies in the interval; of
two that are equally near, the even one. -/
def Interval.withDigits? (i : Interval) (top : Int) (count : Nat) : Option Scientific :=
  let e := top - Int.ofNat count + 1
  let num := i.value * Nat.pow 10 (-e).toNat
  let den := i.den * Nat.pow 10 e.toNat
  let below := num / den
  let above := below + 1
  let twice := 2 * (num % den)
  let nearer := if twice < den || (twice = den && below % 2 = 0) then below else above
  let further := if nearer = below then above else below
  if i.contains nearer e then some ⟨nearer, e⟩
  else if i.contains further e then some ⟨further, e⟩
  else none

/-- The shortest decimal of the interval. Where one digit is rounded up to a power of ten, that
power is the next one with the digit one. -/
def Interval.shortest (i : Interval) : Scientific :=
  let top := i.magnitude 700 320
  let found := ((List.range 17).findSome? fun k => i.withDigits? top (k + 1)).getD ⟨0, 0⟩
  if found.digits = 10 then ⟨1, found.exponent + 1⟩ else found

/-- The shortest decimal of a positive finite double. -/
def shortestOfFloat (x : Float) : Scientific :=
  let bits := x.toBits.toNat
  let fraction := bits % Nat.pow 2 52
  let biased := bits / Nat.pow 2 52 % Nat.pow 2 11
  if biased = 0 then
    if fraction = 0 then ⟨0, 0⟩
    else (Interval.ofBinary fraction (-1074) false).shortest
  else
    (Interval.ofBinary (Nat.pow 2 52 + fraction) (Int.ofNat biased - 1075)
      (fraction == 0 && biased > 1)).shortest

/-- The positional spelling of a decimal, with a point and at least one digit on each side. -/
def Scientific.positional (s : Scientific) : String :=
  let ds := toString s.digits
  if s.exponent ≥ 0 then ds ++ String.ofList (List.replicate s.exponent.toNat '0') ++ ".0"
  else
    let places := (-s.exponent).toNat
    let padded := (List.replicate (places + 1 - ds.length) '0') ++ ds.toList
    let whole := padded.take (padded.length - places)
    let fraction := padded.drop (padded.length - places)
    let trimmed := (fraction.reverse.dropWhile (· == '0')).reverse
    String.ofList whole ++ "." ++ (if trimmed.isEmpty then "0" else String.ofList trimmed)

/-- The spelling of a decimal: positional from `10 ^ -5` up to sixteen digits before the point, else
with one digit before the point and an exponent. -/
def Scientific.brief (s : Scientific) : String :=
  let ds := toString s.digits
  let places := Int.ofNat ds.length + s.exponent
  if -5 < places && places ≤ 16 then s.positional
  else
    let fraction := if ds.length = 1 then "" else "." ++ String.ofList (ds.toList.drop 1)
    String.ofList (ds.toList.take 1) ++ fraction ++ "e" ++ toString (places - 1)

/-- The shortest decimal of the double nearest to `mantissa · 10 ^ exponent`. -/
def nearestDouble (mantissa : Nat) (exponent : Int) : Scientific :=
  shortestOfFloat (Float.ofScientific mantissa (exponent < 0) exponent.natAbs)

/-- The positional spelling of the double nearest to `±mantissa · 10 ^ exponent`. -/
def spellDouble (negative : Bool) (mantissa : Nat) (exponent : Int) : String :=
  (if negative then "-" else "") ++ (nearestDouble mantissa exponent).positional

/-- The brief spelling of the double nearest to `±mantissa · 10 ^ exponent`. -/
def spellDoubleBriefly (negative : Bool) (mantissa : Nat) (exponent : Int) : String :=
  (if negative then "-" else "") ++ (nearestDouble mantissa exponent).brief

end PackageUsage.Decimal
