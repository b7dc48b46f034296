import FilterTyping.Toml.Tree

/-!
# TOML keys

A key is a list of names with dots between them. A word may hold several names and dots at once.
-/

namespace FilterTyping.Toml

abbrev Key := List String

inductive KeyPart where
  | dot
  | name (name : String)
  deriving DecidableEq, Repr

namespace KeyPart

def isNameChar (c : Char) : Bool :=
  c.isAlphanum || c == '_' || c == '-'

/-- The parts of a word. `name` holds the characters of the name being read, last one first. -/
def ofWord? (name : List Char) : List Char → Option (List KeyPart)
  | [] => some (finish name)
  | '.' :: cs => (finish name ++ dot :: ·) <$> ofWord? [] cs
  | c :: cs => if isNameChar c then ofWord? (c :: name) cs else none
where
  finish (name : List Char) : List KeyPart :=
    if name.isEmpty then [] else [.name (String.ofList name.reverse)]

def ofTree? : Tree → Option (List KeyPart)
  | .token .blank => some []
  | .token (.text content false) => some [name content]
  | .token (.word chars) => ofWord? [] chars
  | _ => none

end KeyPart

namespace Key

def ofParts? : List KeyPart → Option Key
  | [.name name] => some [name]
  | .name name :: .dot :: parts => (name :: ·) <$> ofParts? parts
  | _ => none

def ofTrees? (ts : List Tree) : Option Key := do
  let parts ← ts.mapM KeyPart.ofTree?
  ofParts? parts.flatten

end Key

end FilterTyping.Toml
