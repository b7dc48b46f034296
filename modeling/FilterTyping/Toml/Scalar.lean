/-!
# TOML scalars

Values written without quotes: booleans, numbers, dates and times.
-/

namespace FilterTyping.Toml

/-- A scalar value. Numbers, dates and times are kept as they are written. -/
inductive Scalar where
  | boolean (b : Bool)
  | integer (chars : List Char)
  | float (chars : List Char)
  | moment (chars : List Char)
  deriving DecidableEq, Repr

namespace Scalar

/-! ## Numbers -/

def isDigits (isDigit : Char → Bool) : List Char → Bool
  | [] => false
  | [c] => isDigit c
  | c :: '_' :: cs => isDigit c && isDigits isDigit cs
  | c :: cs => isDigit c && isDigits isDigit cs

def isDecimal (cs : List Char) : Bool :=
  isDigits Char.isDigit cs && (cs.length == 1 || cs.head? != some '0')

def dropSign : List Char → List Char
  | '+' :: cs => cs
  | '-' :: cs => cs
  | cs => cs

def isHexDigit (c : Char) : Bool :=
  c.isDigit || ('a' ≤ c && c ≤ 'f') || ('A' ≤ c && c ≤ 'F')

def isInteger : List Char → Bool
  | '0' :: 'x' :: cs => isDigits isHexDigit cs
  | '0' :: 'o' :: cs => isDigits (fun c => '0' ≤ c && c ≤ '7') cs
  | '0' :: 'b' :: cs => isDigits (fun c => c == '0' || c == '1') cs
  | cs => isDecimal (dropSign cs)

/-- The part before the first character with `p`, and the part after it if there is one. -/
def cut (p : Char → Bool) (cs : List Char) : List Char × Option (List Char) :=
  match cs.dropWhile (!p ·) with
  | [] => (cs, none)
  | _ :: rest => (cs.takeWhile (!p ·), some rest)

def isFloat (cs : List Char) : Bool :=
  let unsigned := dropSign cs
  if unsigned == ['i', 'n', 'f'] || unsigned == ['n', 'a', 'n'] then true
  else
    let (mantissa, exponent) := cut (fun c => c == 'e' || c == 'E') unsigned
    let (whole, fraction) := cut (· == '.') mantissa
    isDecimal whole
      && fraction.all (isDigits Char.isDigit)
      && exponent.all (fun e => isDigits Char.isDigit (dropSign e))
      && (fraction.isSome || exponent.isSome)

/-! ## Dates and times -/

def isPair (first last : Nat) (a b : Char) : Bool :=
  a.isDigit && b.isDigit
    && (let n := 10 * (a.toNat - '0'.toNat) + (b.toNat - '0'.toNat); first ≤ n && n ≤ last)

def isDate : List Char → Bool
  | [a, b, c, d, '-', m, n, '-', x, y] =>
    [a, b, c, d].all Char.isDigit && isPair 1 12 m n && isPair 1 31 x y
  | _ => false

def isOffset : List Char → Bool
  | [] => true
  | ['Z'] => true
  | ['z'] => true
  | ['+', a, b, ':', c, d] => isPair 0 23 a b && isPair 0 59 c d
  | ['-', a, b, ':', c, d] => isPair 0 23 a b && isPair 0 59 c d
  | _ => false

def isSeconds (tail : List Char → Bool) : List Char → Bool
  | ':' :: a :: b :: '.' :: cs =>
    isPair 0 60 a b && (cs.takeWhile Char.isDigit).length != 0 && tail (cs.dropWhile Char.isDigit)
  | ':' :: a :: b :: cs => isPair 0 60 a b && tail cs
  | cs => tail cs

def isTime (tail : List Char → Bool) : List Char → Bool
  | a :: b :: ':' :: c :: d :: cs => isPair 0 23 a b && isPair 0 59 c d && isSeconds tail cs
  | _ => false

def isMoment (cs : List Char) : Bool :=
  isDate cs || isTime List.isEmpty cs
    || (isDate (cs.take 10)
      && match cs.drop 10 with
        | c :: rest => (c == 'T' || c == 't' || c == ' ') && isTime isOffset rest
        | [] => false)

/-! ## Reading -/

def ofWord? (cs : List Char) : Option Scalar :=
  if cs == ['t', 'r', 'u', 'e'] then some (boolean true)
  else if cs == ['f', 'a', 'l', 's', 'e'] then some (boolean false)
  else if isInteger cs then some (integer cs)
  else if isFloat cs then some (float cs)
  else if isMoment cs then some (moment cs)
  else none

end Scalar

end FilterTyping.Toml
