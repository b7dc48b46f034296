import FilterTyping.Token.Basic

/-!
# Bound values

The values that a host binds to parameters, their equality, and the tokens that they are inferred to
have. A floating-point number is its 64 bits, so that two NaNs stay apart.
-/

namespace FilterTyping

/-! ## Binary64 numbers -/

structure Binary64 where
  bits : UInt64
  deriving DecidableEq, Repr

namespace Binary64

-- The bits without the sign.
def magnitude (x : Binary64) : UInt64 :=
  x.bits &&& 0x7FFFFFFFFFFFFFFF

def isNaN (x : Binary64) : Bool :=
  0x7FF0000000000000 < x.magnitude

def isZero (x : Binary64) : Bool :=
  x.magnitude == 0

/-- IEEE equality: a NaN equals nothing, and the two zeros are equal. -/
def eqv (x y : Binary64) : Bool :=
  !x.isNaN && !y.isNaN && (x.bits == y.bits || x.isZero && y.isZero)

end Binary64

/-! ## Values -/

structure Date where
  year : Int
  month : Nat
  day : Nat
  deriving DecidableEq, Repr

/-- The nanoseconds of a leap second go on past the first billion. -/
structure Instant where
  seconds : Int
  nanoseconds : Fin 2000000000 := 0
  deriving DecidableEq, Repr

inductive Value where
  | null
  | bool (b : Bool)
  | int (n : Int)
  | float (x : Binary64)
  | text (s : String)
  | date (d : Date)
  | instant (time : Instant)
  | list (items : List Value)
  -- A case of the enumeration at `path`, with the value that stands for it in the database.
  | enumCase (path : String) (backing : Value)
  | object (className : String)
  deriving Repr

namespace Value

mutual

def eqv : Value → Value → Bool
  | null, null => true
  | bool a, bool b => a == b
  | int a, int b => a == b
  | float a, float b => a.eqv b
  | text a, text b => a == b
  | date a, date b => a == b
  | instant a, instant b => a == b
  | list as, list bs => eqvAll as bs
  | enumCase p a, enumCase q b => p == q && eqv a b
  | object a, object b => a == b
  | _, _ => false

def eqvAll : List Value → List Value → Bool
  | [], [] => true
  | a :: as, b :: bs => eqv a b && eqvAll as bs
  | _, _ => false

end

/-! ## Inferred tokens -/

def isIntegral : Value → Bool
  | int _ => true
  | enumCase _ (int _) => true
  | _ => false

/-- The token of a value that nothing else is known about. The first item decides for a list. -/
def inferred : Value → TypeToken
  | int _ => .binding .integer
  | bool _ => .column .boolean
  | instant _ => .column .dateTimeImmutable
  | date _ => .column .dateImmutable
  | enumCase _ backing => inferred backing
  | list (first :: _) =>
    if first.isIntegral then .binding .integerArray else .binding .stringArray
  | list [] => .binding .stringArray
  | null | float _ | text _ | object _ => .binding .string

end Value

end FilterTyping
