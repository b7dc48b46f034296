import FilterTyping.Toml.Key

/-!
# TOML values and tables

Tables as a document builds them up. How a table came about decides what may still be added to it:
a table with a header of its own takes no second one, and a dotted key adds only to tables that have
no header.
-/

namespace FilterTyping.Toml

inductive Value where
  | text (content : String)
  | scalar (scalar : Scalar)
  | array (items : List Value)
  | table (entries : List (String × Value))
  deriving Repr

/-- A finished table, its keys in the order of their first appearance. -/
abbrev Table := List (String × Value)

/-! ## Tables under construction -/

inductive TableOrigin where
  | implied
  | headed
  | dotted
  deriving DecidableEq, Repr

inductive Node where
  | value (value : Value)
  | table (origin : TableOrigin) (entries : List (String × Node))
  | tables (earlier : List (List (String × Node))) (last : List (String × Node))

abbrev Nodes := List (String × Node)

namespace Nodes

def put (key : String) (node : Node) : Nodes → Nodes
  | [] => [(key, node)]
  | (k, n) :: ns => if k = key then (key, node) :: ns else (k, n) :: put key node ns

def add? (value : Value) : Key → Nodes → Option Nodes
  | [], _ => none
  | [k], ns =>
    match ns.lookup k with
    | none => some (put k (.value value) ns)
    | some _ => none
  | k :: ks, ns =>
    match ns.lookup k with
    | none => do
      let inner ← add? value ks []
      return put k (.table .dotted inner) ns
    | some (.table .headed _) => none
    | some (.table origin inner) => do
      let inner ← add? value ks inner
      return put k (.table origin inner) ns
    | some _ => none

/-- Follows a header, in the last of the tables that share it, and does `final` at its last name. -/
def descend? (final : String → Nodes → Option Nodes) : Key → Nodes → Option Nodes
  | [], _ => none
  | [k], ns => final k ns
  | k :: ks, ns =>
    match ns.lookup k with
    | none => do
      let inner ← descend? final ks []
      return put k (.table .implied inner) ns
    | some (.table origin inner) => do
      let inner ← descend? final ks inner
      return put k (.table origin inner) ns
    | some (.tables earlier last) => do
      let last ← descend? final ks last
      return put k (.tables earlier last) ns
    | some (.value _) => none

def open? : Key → Nodes → Option Nodes :=
  descend? fun k ns =>
    match ns.lookup k with
    | none => some (put k (.table .headed []) ns)
    | some (.table .implied inner) => some (put k (.table .headed inner) ns)
    | some _ => none

def openNext? : Key → Nodes → Option Nodes :=
  descend? fun k ns =>
    match ns.lookup k with
    | none => some (put k (.tables [] []) ns)
    | some (.tables earlier last) => some (put k (.tables (earlier ++ [last]) []) ns)
    | some _ => none

def addUnder? (value : Value) (header key : Key) (ns : Nodes) : Option Nodes :=
  match header with
  | [] => add? value key ns
  | header =>
    ns |> descend? (fun k ns => do
      match ← ns.lookup k with
      | .table origin inner => return put k (.table origin (← add? value key inner)) ns
      | .tables earlier last => return put k (.tables earlier (← add? value key last)) ns
      | .value _ => none) header

end Nodes

/-! ## Finished tables -/

mutual

def Node.finish : Node → Value
  | .value value => value
  | .table _ entries => .table (Nodes.finish entries)
  | .tables earlier last => .array (Nodes.finishAll earlier ++ [.table (Nodes.finish last)])

def Nodes.finish : List (String × Node) → Table
  | [] => []
  | (k, n) :: ns => (k, n.finish) :: Nodes.finish ns

def Nodes.finishAll : List (List (String × Node)) → List Value
  | [] => []
  | t :: ts => .table (Nodes.finish t) :: Nodes.finishAll ts

end

def Table.ofEntries? (entries : List (Key × Value)) : Option Table := do
  let nodes ← entries.foldlM (fun ns (key, value) => Nodes.add? value key ns) []
  return Nodes.finish nodes

end FilterTyping.Toml
