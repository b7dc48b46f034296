import FilterTyping.Toml.Table

/-!
# TOML documents

A document is read line by line: a line holds a header, an entry, or nothing.
-/

namespace FilterTyping.Toml

/-! ## Values -/

inductive EntryState where
  | start
  | key (parts : List KeyPart)
  | equals (key : Key)
  | value (key : Key)
  | done
  deriving DecidableEq, Repr

mutual

def Tree.value? : Tree → Option Value
  | .token (.text content _) => some (.text content)
  | .token (.word chars) => (Scalar.ofWord? chars).map .scalar
  | .token _ => none
  | .group .square inner => (Tree.items? false inner).map .array
  | .group .curly inner => do
    let entries ← Tree.entries? .start inner
    return .table (← Table.ofEntries? entries)

def Tree.items? (afterItem : Bool) : List Tree → Option (List Value)
  | [] => some []
  | .token .blank :: ts => Tree.items? afterItem ts
  | .token .lineEnd :: ts => Tree.items? afterItem ts
  | .token .comma :: ts => if afterItem then Tree.items? false ts else none
  | t :: ts =>
    if afterItem then none
    else do
      let item ← Tree.value? t
      return item :: (← Tree.items? true ts)

/-- The entries of an inline table. Line ends may stand anywhere but inside a key. -/
def Tree.entries? (state : EntryState) : List Tree → Option (List (Key × Value))
  | [] => if state = .start ∨ state = .done then some [] else none
  | .token .blank :: ts => Tree.entries? state ts
  | .token .lineEnd :: ts =>
    match state with
    | .key parts => do
      let key ← Key.ofParts? parts
      Tree.entries? (.equals key) ts
    | _ => Tree.entries? state ts
  | .token .comma :: ts => if state = .done then Tree.entries? .start ts else none
  | .token .equals :: ts =>
    match state with
    | .key parts => do
      let key ← Key.ofParts? parts
      Tree.entries? (.value key) ts
    | .equals key => Tree.entries? (.value key) ts
    | _ => none
  | t :: ts =>
    match state with
    | .start => do
      let parts ← KeyPart.ofTree? t
      Tree.entries? (.key parts) ts
    | .key parts => do
      let more ← KeyPart.ofTree? t
      Tree.entries? (.key (parts ++ more)) ts
    | .value key => do
      let value ← Tree.value? t
      return (key, value) :: (← Tree.entries? .done ts)
    | .equals _ | .done => none

end

/-! ## Lines -/

inductive Line where
  | empty
  | entry (key : Key) (value : Value)
  | header (key : Key)
  | nextHeader (key : Key)

def Line.ofTrees? (line : List Tree) : Option Line :=
  match line.dropWhile Tree.isBlank with
  | [] => some .empty
  | .group .square inner :: rest =>
    if rest.all Tree.isBlank then
      match inner with
      | [.group .square inner] => (Key.ofTrees? inner).map .nextHeader
      | _ => (Key.ofTrees? inner).map .header
    else none
  | trees =>
    if trees.any Tree.isComma then none
    else
      match Tree.entries? .start trees with
      | some [(key, value)] => some (.entry key value)
      | _ => none

/-! ## Documents -/

/-- The tables so far, and the header that entries are read under. -/
structure Reading where
  nodes : Nodes := []
  header : Key := []

def Reading.step? (r : Reading) : Line → Option Reading
  | .empty => some r
  | .entry key value => do
    return { r with nodes := ← Nodes.addUnder? value r.header key r.nodes }
  | .header key => do
    return ⟨← Nodes.open? key r.nodes, key⟩
  | .nextHeader key => do
    return ⟨← Nodes.openNext? key r.nodes, key⟩

def parse? (document : String) : Option Table := do
  let trees ← Tree.ofTokens? (← tokens document)
  let lines ← (Tree.lines trees).mapM Line.ofTrees?
  let reading ← lines.foldlM Reading.step? {}
  return Nodes.finish reading.nodes

end FilterTyping.Toml
