import FilterTyping.Check.Walk
import FilterTyping.Delivery.Registration

/-!
# The journal

Everything that a host can see of a check, in the order in which it happens.
-/

namespace FilterTyping

/-! ## Log entries -/

inductive LogLevel where
  | error
  | debug
  deriving DecidableEq, Repr

def LogLevel.label : LogLevel → String
  | error => "ERROR"
  | debug => "DEBUG"

structure LogEntry where
  level : LogLevel
  target : String
  message : String
  deriving DecidableEq, Repr

def Skip.logTarget : String := "querycheck_core::walker"

def Skip.logEntry (s : Skip) : LogEntry :=
  ⟨.debug, logTarget,
    "skipping parameter \"" ++ s.parameter ++ "\" compared with " ++ s.field
      ++ ": type unresolved"⟩

/-! ## Notices -/

structure Notice where
  message : String
  mismatch : Mismatch
  deriving DecidableEq, Repr

def Mismatch.notice (m : Mismatch) : Notice :=
  ⟨m.message, m⟩

def defaultLogTarget : String := "querycheck"

def Notice.logEntry (target : String) (n : Notice) : LogEntry :=
  ⟨.error, target,
    n.message ++ " [parameter=" ++ n.mismatch.parameter ++ ", field=" ++ n.mismatch.field ++ "]"⟩

/-! ## Events -/

inductive Event where
  | skipped (skip : Skip)
  | logged (entry : LogEntry)
  | delivered (sink : Sink) (notice : Notice)
  | visited (name : String)
  deriving DecidableEq, Repr

abbrev Journal := List Event

namespace Journal

/-- The log, in which skips appear as entries too. -/
def log (j : Journal) : List LogEntry :=
  j.filterMap fun
    | .skipped skip => some skip.logEntry
    | .logged entry => some entry
    | _ => none

@[simp]
theorem log_append (j k : Journal) : log (j ++ k) = log j ++ log k :=
  List.filterMap_append

def notices (j : Journal) (sink : Sink) : List Notice :=
  j.filterMap fun
    | .delivered s notice => if s = sink then some notice else none
    | _ => none

@[simp]
theorem notices_append (j k : Journal) (sink : Sink) :
    notices (j ++ k) sink = notices j sink ++ notices k sink :=
  List.filterMap_append

def deliveries (j : Journal) : List (Sink × Notice) :=
  j.filterMap fun
    | .delivered sink notice => some (sink, notice)
    | _ => none

@[simp]
theorem deliveries_append (j k : Journal) : deliveries (j ++ k) = deliveries j ++ deliveries k :=
  List.filterMap_append

def visits (j : Journal) : List String :=
  j.filterMap fun
    | .visited name => some name
    | _ => none

end Journal

end FilterTyping
