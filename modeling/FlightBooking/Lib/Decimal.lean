import Mathlib.Algebra.Ring.Nat
import Mathlib.Data.Int.Init
import Mathlib.Data.Nat.Log

/-!
# Decimal — Python's `decimal` module under its default context

Twenty-eight significant digits, `ROUND_HALF_EVEN`, with `InvalidOperation`,
`DivisionByZero` and `Overflow` trapped. A number keeps its exponent: `1.50` and
`1.5` are different values that compare equal, and printing tells them apart.
Results below `10^-999999`, which the module rounds to fewer digits without
trapping, have 28 here too; NaN payloads are not kept.
-/

namespace Py

/-- A decimal: `(-1)^sign · coeff · 10^exp`, an infinity, or a NaN. -/
inductive Decimal where
  | finite (sign : Bool) (coeff : Nat) (exp : Int)
  | infinity (sign : Bool)
  | nan (signaling : Bool)
deriving DecidableEq, Repr

namespace Decimal

/-- The trapped conditions. -/
inductive Signal where
  | invalidOperation
  | divisionByZero
  | overflow
deriving DecidableEq, Repr

/-- `getcontext().prec`. -/
def prec : Nat := 28

/-- `getcontext().Emax`. -/
def emax : Int := 999999

/-- `len(str(n))`. -/
def numDigits (n : Nat) : Nat := Nat.log 10 n + 1

/-- `n / 10^k` rounded to an integer, ties to even. -/
def roundHalfEven (n k : Nat) : Nat :=
  let q := n / 10 ^ k
  let r := n % 10 ^ k
  if 10 ^ k < 2 * r ∨ (2 * r = 10 ^ k ∧ q % 2 = 1) then q + 1 else q

/-- Round an exact result to the precision. A carry out of the top digit
(`99…9` to `100…0`) drops the extra zero. -/
def fix (sign : Bool) (coeff : Nat) (exp : Int) : Decimal :=
  if numDigits coeff ≤ prec then .finite sign coeff exp
  else
    let k := numDigits coeff - prec
    let c := roundHalfEven coeff k
    if numDigits c ≤ prec then .finite sign c (exp + k)
    else .finite sign (c / 10) (exp + k + 1)

/-- Round an exact result; `Overflow` if its first digit is too far left. -/
def finish (sign : Bool) (coeff : Nat) (exp : Int) : Except Signal Decimal :=
  match fix sign coeff exp with
  | .finite s c e =>
      if c ≠ 0 ∧ emax < e + numDigits c - 1 then .error .overflow else .ok (.finite s c e)
  | d => .ok d

/-- `Decimal(n)` of an integer: exact, whatever its length. -/
def ofInt (n : Int) : Decimal := .finite (decide (n < 0)) n.natAbs 0

/-- `Decimal(10) ** n`. -/
def tenPow (n : Int) : Decimal :=
  if 0 ≤ n then .finite false (10 ^ n.toNat) 0 else .finite false 1 n

/-- The integer `±coeff · 10^(exp - e)`, for `e ≤ exp`. -/
def scaled (sign : Bool) (coeff : Nat) (exp e : Int) : Int :=
  (if sign then -1 else 1) * ((coeff * 10 ^ (exp - e).toNat : Nat) : Int)

/-! ## Arithmetic -/

/-- Exact sum at the smaller exponent, then rounded. An exact zero is negative
only if both operands are negative zeros. -/
def addFinite (s : Bool) (c : Nat) (e : Int) (s' : Bool) (c' : Nat) (e' : Int) :
    Except Signal Decimal :=
  let m := min e e'
  let n := scaled s c e m + scaled s' c' e' m
  let sign := if n = 0 then s && s' && decide (c = 0) else decide (n < 0)
  finish sign n.natAbs m

/-- `a + b`. -/
def add : Decimal → Decimal → Except Signal Decimal
  | .finite s c e, .finite s' c' e' => addFinite s c e s' c' e'
  | .nan true, _ | _, .nan true => .error .invalidOperation
  | .nan false, _ | _, .nan false => .ok (.nan false)
  | .infinity s, .infinity s' =>
      if s = s' then .ok (.infinity s) else .error .invalidOperation
  | .infinity s, .finite .. | .finite .., .infinity s => .ok (.infinity s)

/-- `a * b`. -/
def mul : Decimal → Decimal → Except Signal Decimal
  | .finite s c e, .finite s' c' e' => finish (xor s s') (c * c') (e + e')
  | .nan true, _ | _, .nan true => .error .invalidOperation
  | .nan false, _ | _, .nan false => .ok (.nan false)
  | .infinity s, .infinity s' => .ok (.infinity (xor s s'))
  | .infinity s, .finite s' c _ | .finite s' c _, .infinity s =>
      if c = 0 then .error .invalidOperation else .ok (.infinity (xor s s'))

/-- Drop trailing zeros while the exponent is below `ideal`. -/
def stripTo (ideal : Int) : Nat → Nat → Int → Nat × Int
  | 0, c, e => (c, e)
  | fuel + 1, c, e =>
      if e < ideal ∧ c % 10 = 0 then stripTo ideal fuel (c / 10) (e + 1) else (c, e)

/-- Quotient of finite numbers with a nonzero divisor. One digit more than the
precision is computed; an inexact quotient ending in 0 or 5 is bumped so that
the final rounding cannot mistake it for exact, an exact one is brought back
towards the exponent `e - e'`. -/
def divFinite (s : Bool) (c : Nat) (e : Int) (s' : Bool) (c' : Nat) (e' : Int) :
    Except Signal Decimal :=
  let sign := xor s s'
  if c = 0 then finish sign 0 (e - e')
  else
    let shift : Int := (numDigits c' : Int) - numDigits c + prec + 1
    let exp := e - e' - shift
    let num := if 0 ≤ shift then c * 10 ^ shift.toNat else c
    let den := if 0 ≤ shift then c' else c' * 10 ^ (-shift).toNat
    let q := num / den
    if num % den ≠ 0 then finish sign (if q % 5 = 0 then q + 1 else q) exp
    else
      let (q', exp') := stripTo (e - e') (numDigits q) q exp
      finish sign q' exp'

/-- `a / b`. -/
def div : Decimal → Decimal → Except Signal Decimal
  | .finite s c e, .finite s' c' e' =>
      if c' = 0 then .error (if c = 0 then .invalidOperation else .divisionByZero)
      else divFinite s c e s' c' e'
  | .nan true, _ | _, .nan true => .error .invalidOperation
  | .nan false, _ | _, .nan false => .ok (.nan false)
  | .infinity _, .infinity _ => .error .invalidOperation
  | .infinity s, .finite s' _ _ => .ok (.infinity (xor s s'))
  | .finite s _ _, .infinity s' => .ok (.finite (xor s s') 0 (-1000026))

/-- `a < b`; ordering a NaN is invalid. -/
def lt : Decimal → Decimal → Except Signal Bool
  | .finite s c e, .finite s' c' e' =>
      .ok (decide (scaled s c e (min e e') < scaled s' c' e' (min e e')))
  | .nan _, _ | _, .nan _ => .error .invalidOperation
  | .infinity s, .infinity s' => .ok (s && !s')
  | .infinity s, .finite .. => .ok s
  | .finite .., .infinity s => .ok !s

/-! ## Rounding and printing -/

/-- `d.normalize()`: rounded, without trailing zeros; a zero gets exponent 0. -/
def normalize : Decimal → Except Signal Decimal
  | .finite s c e =>
      match finish s c e with
      | .ok (.finite s 0 _) => .ok (.finite s 0 0)
      | .ok (.finite s c e) =>
          let (c', e') := stripTo (e + numDigits c) (numDigits c) c e
          .ok (.finite s c' e')
      | result => result
  | .infinity s => .ok (.infinity s)
  | .nan true => .error .invalidOperation
  | .nan false => .ok (.nan false)

/-- `±c · 10^e` at exponent `e'`, half-even. -/
def rescale (c : Nat) (e e' : Int) : Nat :=
  if e' ≤ e then c * 10 ^ (e - e').toNat else roundHalfEven c (e' - e).toNat

/-- `d.quantize(q, rounding=ROUND_HALF_EVEN)`: invalid when the result needs
more digits than the precision. -/
def quantize : Decimal → Decimal → Except Signal Decimal
  | .finite s c e, .finite _ _ e' =>
      if c = 0 then .ok (.finite s 0 e')
      else if (prec : Int) < numDigits c + e - e' then .error .invalidOperation
      else if prec < numDigits (rescale c e e') then .error .invalidOperation
      else .ok (.finite s (rescale c e e') e')
  | .nan true, _ | _, .nan true => .error .invalidOperation
  | .nan false, _ | _, .nan false => .ok (.nan false)
  | .infinity s, .infinity _ => .ok (.infinity s)
  | .infinity _, .finite .. | .finite .., .infinity _ => .error .invalidOperation

/-- The exponent of `d.as_tuple()`, when it is an integer. -/
def exponent? : Decimal → Option Int
  | .finite _ _ e => some e
  | _ => none

/-- The digits around the point, and the power of ten after `E` if there is one. -/
def strFinite (c : Nat) (e : Int) : String :=
  let digits := Nat.toDigits 10 c
  let left : Int := e + digits.length
  let dot : Int := if e ≤ 0 ∧ -6 < left then left else 1
  let mantissa :=
    if dot ≤ 0 then ['0', '.'] ++ List.replicate (-dot).toNat '0' ++ digits
    else if (digits.length : Int) ≤ dot then
      digits ++ List.replicate (dot - digits.length).toNat '0'
    else digits.take dot.toNat ++ ['.'] ++ digits.drop dot.toNat
  let suffix :=
    if left = dot then ""
    else "E" ++ (if left - dot < 0 then "-" else "+") ++ toString (left - dot).natAbs
  String.ofList mantissa ++ suffix

/-- `str(d)`. -/
def str : Decimal → String
  | .finite s c e => (if s then "-" else "") ++ strFinite c e
  | .infinity s => (if s then "-" else "") ++ "Infinity"
  | .nan signaling => if signaling then "sNaN" else "NaN"

example : str (.finite false 29900 (-2)) = "299.00" := by decide
example : str (.finite true 5 1) = "-5E+1" := by decide
example : mul (.finite false 900 999997) (.finite false 200 (-2)) = .error .overflow := by decide
example : div (ofInt 1) (ofInt 3) =
    .ok (.finite false 3333333333333333333333333333 (-28)) := by decide

end Decimal

end Py
