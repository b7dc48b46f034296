import FilterTyping.Delivery.Policy
import FilterTyping.Toml.Document

/-!
# Settings

How a host configures what becomes of mismatches, in a TOML document with the keys `mode` and
`log_target`.
-/

namespace FilterTyping

def version : String := "0.3.0"

/-! ## Blank texts -/

namespace Text

/-- The ranges of White_Space, both ends included, in ascending order. -/
def blankRanges : List (Nat × Nat) :=
  [(0x09, 0x0D), (0x20, 0x20), (0x85, 0x85), (0xA0, 0xA0), (0x1680, 0x1680), (0x2000, 0x200A),
    (0x2028, 0x2029), (0x202F, 0x202F), (0x205F, 0x205F), (0x3000, 0x3000)]

def isBlank (c : Char) : Bool :=
  blankRanges.any fun (first, last) => first ≤ c.toNat && c.toNat ≤ last

def allBlank (s : String) : Bool :=
  s.toList.all isBlank

end Text

/-! ## Modes -/

inductive DeliveryMode where
  | fatal
  | log
  | registered
  deriving DecidableEq, Repr

namespace DeliveryMode

def all : List DeliveryMode := [fatal, log, registered]

def name : DeliveryMode → String
  | fatal => "fatal"
  | log => "log"
  | registered => "registered"

def ofName? (name : String) : Option DeliveryMode :=
  all.find? (·.name == name)

/-- A mode is written as its name, or as a table with the name as its one key and nothing in it. -/
def ofToml? : Toml.Value → Option DeliveryMode
  | .text name => ofName? name
  | .table [(name, .table [])] => ofName? name
  | .table [(name, .array [])] => ofName? name
  | _ => none

end DeliveryMode

/-! ## Settings -/

structure Settings where
  mode : DeliveryMode := .registered
  logTarget : String := defaultLogTarget
  deriving DecidableEq, Repr

inductive SettingsError where
  | malformed
  | emptyLogTarget
  deriving DecidableEq, Repr

def SettingsError.message? : SettingsError → Option String
  | malformed => none
  | emptyLogTarget => some "log_target must not be empty"

namespace Settings

def keys : List String := ["mode", "log_target"]

def read? (t : Toml.Table) : Option Settings := do
  guard (t.all fun (key, _) => keys.contains key)
  let mode ← match t.lookup "mode" with
    | some value => DeliveryMode.ofToml? value
    | none => some .registered
  let logTarget ← match t.lookup "log_target" with
    | some (.text target) => some target
    | some _ => none
    | none => some defaultLogTarget
  return { mode, logTarget }

/-- A log target must hold more than blanks. That is looked at once all else is right. -/
def ofTable (t : Toml.Table) : Except SettingsError Settings :=
  match read? t with
  | none => .error .malformed
  | some s => if Text.allBlank s.logTarget then .error .emptyLogTarget else .ok s

def ofDocument (read : String → Option Toml.Table) (document : String) :
    Except SettingsError Settings :=
  match read document with
  | none => .error .malformed
  | some t => ofTable t

def parse : String → Except SettingsError Settings :=
  ofDocument Toml.parse?

def policy (s : Settings) : Policy :=
  match s.mode with
  | .fatal => .abort
  | .log => .forward (.log s.logTarget)
  | .registered => .registered

end Settings

end FilterTyping
