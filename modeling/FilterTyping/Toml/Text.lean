/-!
# Texts of TOML strings

The text of a string, from the characters between its quotes.
-/

namespace FilterTyping.Toml

/-! ## Code points -/

def hexValue? (c : Char) : Option Nat :=
  if c.isDigit then some (c.toNat - '0'.toNat)
  else if 'a' ≤ c ∧ c ≤ 'f' then some (c.toNat - 'a'.toNat + 10)
  else if 'A' ≤ c ∧ c ≤ 'F' then some (c.toNat - 'A'.toNat + 10)
  else none

def hexChar? (digits : List Char) : Option Char := do
  let code ← digits.foldlM (fun n c => (hexValue? c).map (16 * n + ·)) 0
  if code.isValidChar then some (Char.ofNat code) else none

/-! ## Escapes -/

/-- A part of a basic string. A joint is a backslash that joins its line to the next one. -/
inductive Piece where
  | written (c : Char)
  | escaped (c : Char)
  | joint
  deriving DecidableEq, Repr

def simpleEscape? : Char → Option Char
  | 'b' => some '\x08'
  | 't' => some '\t'
  | 'n' => some '\n'
  | 'f' => some '\x0c'
  | 'r' => some '\r'
  | 'e' => some '\x1b'
  | '"' => some '"'
  | '\\' => some '\\'
  | _ => none

def isGapChar (c : Char) : Bool :=
  c == ' ' || c == '\t' || c == '\r' || c == '\n'

def pieces? : List Char → Option (List Piece)
  | [] => some []
  | '\\' :: 'x' :: a :: b :: cs => do
    return .escaped (← hexChar? [a, b]) :: (← pieces? cs)
  | '\\' :: 'u' :: a :: b :: c :: d :: cs => do
    return .escaped (← hexChar? [a, b, c, d]) :: (← pieces? cs)
  | '\\' :: 'U' :: a :: b :: c :: d :: e :: f :: g :: h :: cs => do
    return .escaped (← hexChar? [a, b, c, d, e, f, g, h]) :: (← pieces? cs)
  | '\\' :: c :: cs =>
    if isGapChar c then (fun ps => .joint :: .written c :: ps) <$> pieces? cs
    else do
      let plain ← simpleEscape? c
      return .escaped plain :: (← pieces? cs)
  | '\\' :: [] => none
  | c :: cs => (.written c :: ·) <$> pieces? cs

/-! ## Joined lines -/

inductive Gap where
  | none
  | beforeLineEnd
  | afterLineEnd
  deriving DecidableEq, Repr

/-- Drops each joint with the blanks up to the next text. There must be a line end among them. -/
def joinLines (gap : Gap) : List Piece → Option (List Char)
  | [] => if gap = .beforeLineEnd then none else some []
  | .joint :: ps => if gap = .beforeLineEnd then none else joinLines .beforeLineEnd ps
  | .escaped c :: ps =>
    if gap = .beforeLineEnd then none else (c :: ·) <$> joinLines .none ps
  | .written c :: ps =>
    if gap = .none then (c :: ·) <$> joinLines .none ps
    else if c = '\n' then joinLines .afterLineEnd ps
    else if isGapChar c then joinLines gap ps
    else if gap = .beforeLineEnd then none
    else (c :: ·) <$> joinLines .none ps

/-! ## Texts -/

def basicText? (raw : List Char) : Option String := do
  let text ← joinLines .none (← pieces? raw)
  return String.ofList text

def dropFirstLineEnd : List Char → List Char
  | '\n' :: cs => cs
  | '\r' :: '\n' :: cs => cs
  | cs => cs

def basicBlock? (raw : List Char) : Option String :=
  basicText? (dropFirstLineEnd raw)

def literalBlock (raw : List Char) : String :=
  String.ofList (dropFirstLineEnd raw)

end FilterTyping.Toml
