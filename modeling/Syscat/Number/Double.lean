/-
Module: Syscat.Number.Double
Purpose: Binary floating-point numbers of 64 bits: rounding of an exact ratio to the nearest, reading of
  decimal notation, and the shortest decimal notation that reads back.
Main exports: Double, Double.ofRatio, Double.ofDecimal, Double.read?, Double.text
-/
import Syscat.Text.Blank
import Syscat.Text.Digit

namespace Syscat

/-- A floating-point number. A finite one is `mantissa * 2 ^ exponent` with its sign kept apart, so that
zero has two signs. Rounding gives mantissas below `2 ^ 53` and exponents from -1074 to 971, and uses a
mantissa below `2 ^ 52` only with the least exponent. -/
inductive Double where
  | finite (negative : Bool) (mantissa : Nat) (exponent : Int)
  | infinite (negative : Bool)
  | nan
deriving DecidableEq, Repr, Inhabited

/-- An exact non-negative ratio; the denominator is meant to be positive. -/
structure Ratio where
  num : Nat
  den : Nat
deriving DecidableEq, Repr, Inhabited

namespace Ratio

/-- The ratio times a power of a base. -/
def scale (r : Ratio) (base : Nat) (exponent : Int) : Ratio :=
  match exponent with
  | .ofNat k => ⟨r.num * Nat.pow base k, r.den⟩
  | .negSucc k => ⟨r.num, r.den * Nat.pow base (k + 1)⟩

/-- The order of ratios, by cross-multiplication. -/
def lt (a b : Ratio) : Bool :=
  a.num * b.den < b.num * a.den

/-- The nearest whole number, a half going to the even neighbour. -/
def round (r : Ratio) : Nat :=
  let q := r.num / r.den
  let twice := 2 * (r.num % r.den)
  if twice < r.den then q
  else if r.den < twice then q + 1
  else q + q % 2

end Ratio

namespace Double

/-- Zero. -/
def zero (negative : Bool) : Double :=
  .finite negative 0 (-1074)

/-- The exponent with which the mantissa of a positive ratio gets 53 bits, but at least -1074. -/
def mantissaExponent (r : Ratio) : Int :=
  let bits : Int := (r.num.log2 : Int) - (r.den.log2 : Int)
  let exponent := if r.lt (Ratio.scale ⟨1, 1⟩ 2 bits) then bits - 53 else bits - 52
  max exponent (-1074)

/-- The floating-point number nearest to a ratio, a half going to the even mantissa. -/
def ofRatio (negative : Bool) (r : Ratio) : Double :=
  if r.num == 0 then zero negative
  else
    let exponent := mantissaExponent r
    let mantissa := (r.scale 2 (-exponent)).round
    let (mantissa, exponent) :=
      if mantissa == Nat.pow 2 53 then (Nat.pow 2 52, exponent + 1) else (mantissa, exponent)
    if exponent > 971 then .infinite negative else .finite negative mantissa exponent

/-- The floating-point number nearest to `digits * 10 ^ exponent`. Magnitudes far outside the range are
settled by their number of digits alone. -/
def ofDecimal (negative : Bool) (digits : Nat) (exponent : Int) : Double :=
  if digits == 0 then zero negative
  else
    let size : Int := exponent + (toString digits).length
    if size > 400 then .infinite negative
    else if size < -400 then zero negative
    else ofRatio negative (Ratio.scale ⟨digits, 1⟩ 10 exponent)

/-- The floating-point number nearest to an integer. -/
def ofInt (n : Int) : Double :=
  ofRatio (n < 0) ⟨n.natAbs, 1⟩

/-- The same number with the other sign. -/
def negate : Double → Double
  | finite negative m e => .finite (!negative) m e
  | infinite negative => .infinite (!negative)
  | nan => .nan

/-- A number that is zero, of either sign. -/
def isZero : Double → Bool
  | finite _ m _ => m == 0
  | _ => false

/-- The magnitude of a finite number. -/
def magnitude (mantissa : Nat) (exponent : Int) : Ratio :=
  Ratio.scale ⟨mantissa, 1⟩ 2 exponent

/-- The sum, rounded. A sum of opposite finite numbers is the positive zero. -/
def add : Double → Double → Double
  | nan, _ => .nan
  | _, nan => .nan
  | infinite a, infinite b => if a == b then .infinite a else .nan
  | infinite a, finite _ _ _ => .infinite a
  | finite _ _ _, infinite b => .infinite b
  | finite s m e, finite t n f =>
      let a := magnitude m e
      let b := magnitude n f
      let den := a.den * b.den
      let x := a.num * b.den
      let y := b.num * a.den
      if s == t then ofRatio s ⟨x + y, den⟩
      else if y < x then ofRatio s ⟨x - y, den⟩
      else if x < y then ofRatio t ⟨y - x, den⟩
      else zero false

/-- The product, rounded. -/
def mul : Double → Double → Double
  | nan, _ => .nan
  | _, nan => .nan
  | infinite a, infinite b => .infinite (a != b)
  | infinite a, finite b n _ => if n == 0 then .nan else .infinite (a != b)
  | finite a m _, infinite b => if m == 0 then .nan else .infinite (a != b)
  | finite s m e, finite t n f =>
      let a := magnitude m e
      let b := magnitude n f
      ofRatio (s != t) ⟨a.num * b.num, a.den * b.den⟩

/-! ### Reading -/

/-- Remove single underscores between digits; an underscore elsewhere is refused. `prior` says that the
character before is a digit. -/
def withoutUnderscores? (prior : Bool) : List Char → Option (List Char)
  | [] => some []
  | '_' :: c :: rest =>
      if prior && isDigit c then (withoutUnderscores? true rest).map (c :: ·) else none
  | '_' :: [] => none
  | c :: rest => (withoutUnderscores? (isDigit c) rest).map (c :: ·)

/-- The digits at the front with the rest behind them. -/
def leadingDigits (s : List Char) : List Nat × List Char :=
  ((s.takeWhile isDigit).filterMap digitValue?, s.dropWhile isDigit)

/-- The number with the given decimal digits. -/
def digitsNumber (digits : List Nat) : Nat :=
  digits.foldl (fun n d => n * 10 + d) 0

/-- Read the exponent that ends a decimal notation: nothing, or a mark, an optional sign and digits. -/
def readExponent? : List Char → Option Int
  | [] => some 0
  | mark :: rest =>
      if mark == 'e' || mark == 'E' then
        let (negative, body) :=
          match rest with
          | '-' :: body => (true, body)
          | '+' :: body => (false, body)
          | body => (false, body)
        match leadingDigits body with
        | ([], _) => none
        | (digits, []) =>
            let n : Int := digitsNumber digits
            some (if negative then -n else n)
        | (_, _ :: _) => none
      else none

/-- Read an unsigned decimal notation: digits with at most one point among or beside them, and an
optional exponent. -/
def readUnsigned? (negative : Bool) (s : List Char) : Option Double :=
  let (whole, rest) := leadingDigits s
  let (fraction, rest) :=
    match rest with
    | '.' :: rest => leadingDigits rest
    | rest => ([], rest)
  if whole.isEmpty && fraction.isEmpty then none
  else do
    let exponent ← readExponent? rest
    return ofDecimal negative (digitsNumber (whole ++ fraction)) (exponent - fraction.length)

/-- Read a number that may also be spelled `inf`, `infinity` or `nan` in any case. -/
def readMagnitude? (negative : Bool) (s : List Char) : Option Double :=
  let word := String.ofList (s.map Char.toLower)
  if word == "inf" || word == "infinity" then some (.infinite negative)
  else if word == "nan" then some .nan
  else readUnsigned? negative s

/-- Read a signed decimal notation with blanks around it and single underscores between digits. -/
def read? (s : List Char) : Option Double := do
  let s ← withoutUnderscores? false (strip s)
  match s with
  | '-' :: s => readMagnitude? true s
  | '+' :: s => readMagnitude? false s
  | s => readMagnitude? false s

/-! ### Writing -/

/-- The exponent `k` of a positive ratio with `10 ^ k ≤ r < 10 ^ (k + 1)`. -/
def decimalExponent (r : Ratio) : Int :=
  let estimate : Int := Int.fdiv (((r.num.log2 : Int) - (r.den.log2 : Int)) * 30103) 100000
  let reaches (k : Int) : Bool := !(r.lt (Ratio.scale ⟨1, 1⟩ 10 k))
  if reaches (estimate + 1) then estimate + 1
  else if reaches estimate then estimate
  else if reaches (estimate - 1) then estimate - 1
  else estimate - 2

/-- The distance of two numbers, each `num / den` of a ratio over the same denominator. -/
def distance (a b : Nat) : Nat :=
  (a - b) + (b - a)

/-- The decimal of `places` digits that is nearest to the positive number `m * 2 ^ e` among those that
read back as it, if one does. `k` is the exponent of the number's first digit. -/
def decimalOf? (m : Nat) (e k : Int) (places : Nat) : Option (Nat × Int) :=
  let step : Int := k - (places : Int) + 1
  let r := Ratio.scale (magnitude m e) 10 (-step)
  let low := r.num / r.den
  let candidates := [low, low + 1].filter
    (fun d => ofDecimal false d step == .finite false m e)
  match candidates with
  | [] => none
  | [d] => some (d, step)
  | _ =>
      let below := distance r.num (low * r.den)
      let above := distance ((low + 1) * r.den) r.num
      if below < above ∨ (below = above ∧ low % 2 = 0) then some (low, step) else some (low + 1, step)

/-- The shortest decimal that reads back as the positive number `m * 2 ^ e`: its digits as a number and
the exponent of the last one. Seventeen digits always suffice. -/
def shortest (m : Nat) (e : Int) : Nat × Int :=
  let k := decimalExponent (magnitude m e)
  ((List.range 17).findSome? (fun i => decimalOf? m e k (i + 1))).getD (m, e)

/-- Drop the zeros that end a decimal. -/
def dropZeros : Nat → Nat × Int → Nat × Int
  | 0, d => d
  | fuel + 1, (n, e) => if n % 10 = 0 ∧ n ≠ 0 then dropZeros fuel (n / 10, e + 1) else (n, e)

/-- How a decimal is laid out: positionally while its first digit stands between the fourth place behind
the point and the sixteenth before it, and with an exponent of at least two digits otherwise. -/
def layout (digits : List Char) (point : Int) : List Char :=
  let count : Int := digits.length
  if -4 < point ∧ point ≤ 16 then
    if point ≤ 0 then '0' :: '.' :: (List.replicate point.natAbs '0' ++ digits)
    else if count ≤ point then digits ++ List.replicate (point - count).toNat '0' ++ ['.', '0']
    else digits.take point.toNat ++ '.' :: digits.drop point.toNat
  else
    let exponent := point - 1
    let size := (toString exponent.natAbs).toList
    let body :=
      match digits with
      | [] => []
      | [d] => [d]
      | d :: rest => d :: '.' :: rest
    body ++ 'e' :: (if exponent < 0 then '-' else '+') :: (List.replicate (2 - size.length) '0' ++ size)

/-- The shortest notation that reads back. -/
def text : Double → String
  | nan => "nan"
  | infinite negative => if negative then "-inf" else "inf"
  | finite negative m e =>
      let body :=
        if m == 0 then ['0', '.', '0']
        else
          let (digits, step) := dropZeros 17 (shortest m e)
          let written := (toString digits).toList
          layout written (step + written.length)
      String.ofList (if negative then '-' :: body else body)

end Double

end Syscat
