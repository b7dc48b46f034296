import FilterTyping.Toml.Token

/-!
# TOML tokens in brackets

Tokens with their brackets matched, so that arrays, inline tables and headers are subtrees.
-/

namespace FilterTyping.Toml

inductive Tree where
  | token (token : Token)
  | group (bracket : Bracket) (inner : List Tree)
  deriving Repr

namespace Tree

/-- `level` is the group being read, last tree first. `outer` holds the groups around it. -/
def groups (outer : List (Bracket × List Tree)) (level : List Tree) :
    List Token → Option (List Tree)
  | [] => if outer.isEmpty then some level.reverse else none
  | .opening bracket :: ts => groups ((bracket, level) :: outer) [] ts
  | .closing bracket :: ts =>
    match outer with
    | (opened, before) :: outer =>
      if opened = bracket then groups outer (group bracket level.reverse :: before) ts else none
    | [] => none
  | t :: ts => groups outer (token t :: level) ts

def ofTokens? (ts : List Token) : Option (List Tree) :=
  groups [] [] ts

def isBlank : Tree → Bool
  | token .blank => true
  | _ => false

def isComma : Tree → Bool
  | token .comma => true
  | _ => false

/-- The trees of each line. Line ends in brackets do not count. -/
def lines : List Tree → List (List Tree)
  | [] => [[]]
  | token .lineEnd :: ts => [] :: lines ts
  | t :: ts =>
    match lines ts with
    | line :: rest => (t :: line) :: rest
    | [] => [[t]]

end Tree

end FilterTyping.Toml
