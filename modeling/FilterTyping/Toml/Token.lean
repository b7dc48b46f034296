import FilterTyping.Toml.Scalar
import FilterTyping.Toml.Text

/-!
# TOML tokens

The characters of a document, grouped into tokens. Comments are checked and dropped.
-/

namespace FilterTyping.Toml

/-! ## Tokens -/

inductive Bracket where
  | square
  | curly
  deriving DecidableEq, Repr

inductive Token where
  | blank
  | lineEnd
  | equals
  | comma
  | opening (bracket : Bracket)
  | closing (bracket : Bracket)
  | text (content : String) (multiLine : Bool)
  | word (chars : List Char)
  deriving DecidableEq, Repr

def Token.ofChar? : Char → Option Token
  | ' ' | '\t' => some .blank
  | '\n' => some .lineEnd
  | '=' => some .equals
  | ',' => some .comma
  | '[' => some (.opening .square)
  | ']' => some (.closing .square)
  | '{' => some (.opening .curly)
  | '}' => some (.closing .curly)
  | _ => none

/-! ## Characters -/

def isTextChar (c : Char) : Bool :=
  c == '\t' || (0x20 ≤ c.toNat && c.toNat != 0x7F)

/-- A date is followed by a time on the same line, after one space. -/
def joinsTime (word rest : List Char) : Bool :=
  Scalar.isDate word && rest.head?.any Char.isDigit

/-! ## Scanning -/

def flush (word : List Char) : List Token :=
  if word.isEmpty then [] else [.word word.reverse]

mutual

/-- Scans a document. `word` holds the characters of the word being read, last one first. -/
def scan (word : List Char) : List Char → Option (List Token)
  | [] => some (flush word)
  | '#' :: cs => (flush word ++ ·) <$> scanComment cs
  | '\r' :: '\n' :: cs => (flush word ++ .lineEnd :: ·) <$> scan [] cs
  | '\r' :: _ => none
  | '"' :: '"' :: '"' :: cs => (flush word ++ ·) <$> scanBasicBlock [] cs
  | '"' :: cs => (flush word ++ ·) <$> scanBasic [] cs
  | '\'' :: '\'' :: '\'' :: cs => (flush word ++ ·) <$> scanLiteralBlock [] cs
  | '\'' :: cs => (flush word ++ ·) <$> scanLiteral [] cs
  | c :: cs =>
    if c = ' ' ∧ joinsTime word.reverse cs then scan (c :: word) cs
    else
      match Token.ofChar? c with
      | some token => (flush word ++ token :: ·) <$> scan [] cs
      | none => scan (c :: word) cs
termination_by structural x => x

def scanComment : List Char → Option (List Token)
  | [] => some []
  | '\n' :: cs => (.lineEnd :: ·) <$> scan [] cs
  | '\r' :: '\n' :: cs => (.lineEnd :: ·) <$> scan [] cs
  | c :: cs => if isTextChar c then scanComment cs else none
termination_by structural x => x

def scanBasic (raw : List Char) : List Char → Option (List Token)
  | [] => none
  | '"' :: cs => do
    let content ← basicText? raw.reverse
    return .text content false :: (← scan [] cs)
  | '\\' :: c :: cs => if isTextChar c then scanBasic (c :: '\\' :: raw) cs else none
  | c :: cs => if isTextChar c then scanBasic (c :: raw) cs else none
termination_by structural x => x

/-- A string in three double quotes. Up to two more may stand before the closing ones. -/
def scanBasicBlock (raw : List Char) : List Char → Option (List Token)
  | [] => none
  | '"' :: '"' :: '"' :: '"' :: '"' :: cs => do
    let content ← basicBlock? ('"' :: '"' :: raw).reverse
    return .text content true :: (← scan [] cs)
  | '"' :: '"' :: '"' :: '"' :: cs => do
    let content ← basicBlock? ('"' :: raw).reverse
    return .text content true :: (← scan [] cs)
  | '"' :: '"' :: '"' :: cs => do
    let content ← basicBlock? raw.reverse
    return .text content true :: (← scan [] cs)
  | '\r' :: '\n' :: cs => scanBasicBlock ('\n' :: '\r' :: raw) cs
  | '\\' :: '\r' :: '\n' :: cs => scanBasicBlock ('\n' :: '\r' :: '\\' :: raw) cs
  | '\\' :: c :: cs =>
    if isTextChar c || c == '\n' then scanBasicBlock (c :: '\\' :: raw) cs else none
  | c :: cs => if isTextChar c || c == '\n' then scanBasicBlock (c :: raw) cs else none
termination_by structural x => x

def scanLiteral (raw : List Char) : List Char → Option (List Token)
  | [] => none
  | '\'' :: cs => (.text (String.ofList raw.reverse) false :: ·) <$> scan [] cs
  | c :: cs => if isTextChar c then scanLiteral (c :: raw) cs else none
termination_by structural x => x

def scanLiteralBlock (raw : List Char) : List Char → Option (List Token)
  | [] => none
  | '\'' :: '\'' :: '\'' :: '\'' :: '\'' :: cs =>
    (.text (literalBlock ('\'' :: '\'' :: raw).reverse) true :: ·) <$> scan [] cs
  | '\'' :: '\'' :: '\'' :: '\'' :: cs =>
    (.text (literalBlock ('\'' :: raw).reverse) true :: ·) <$> scan [] cs
  | '\'' :: '\'' :: '\'' :: cs => (.text (literalBlock raw.reverse) true :: ·) <$> scan [] cs
  | '\r' :: '\n' :: cs => scanLiteralBlock ('\n' :: '\r' :: raw) cs
  | c :: cs => if isTextChar c || c == '\n' then scanLiteralBlock (c :: raw) cs else none
termination_by structural x => x

end

def tokens (document : String) : Option (List Token) :=
  match document.toList with
  | '\uFEFF' :: cs => scan [] cs
  | cs => scan [] cs

end FilterTyping.Toml
