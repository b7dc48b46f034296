import FilterTyping.Entity.Basic
import FilterTyping.Mismatch
import FilterTyping.Query.Statement

/-!
# Failures

Why a check ends early: a mismatch that is not let pass, or a defect that keeps a comparison from
being judged at all.
-/

namespace FilterTyping

/-! ## Defects -/

namespace Defect

inductive Kind where
  | notFound
  | unsupported
  | invariantViolation
  deriving DecidableEq, Repr

inductive Origin where
  | resolver
  | schema
  deriving DecidableEq, Repr

def Kind.label : Kind → String
  | notFound => "not_found"
  | unsupported => "unsupported"
  | invariantViolation => "invariant_violation"

def Origin.label : Origin → String
  | resolver => "resolver"
  | schema => "schema"

end Defect

inductive Defect where
  | schema (fault : Fault)
  | noField (path : FieldPath)
  | collection (path : FieldPath)
  /-- A defect that a visitor of the host reports. -/
  | host (kind : Defect.Kind) (origin : Defect.Origin) (text : String)
  deriving DecidableEq, Repr

def Fault.kind : Fault → Defect.Kind
  | compositeIdentifier _ | missingIdentifier _ | duplicateEntity _ | duplicateField _ _ =>
    .unsupported
  | unknownAlias _ | unknownEntity _ | unknownField _ _ | unknownAssociation _ _ => .notFound

namespace Defect

def kind : Defect → Kind
  | schema fault => fault.kind
  | noField _ | collection _ => .invariantViolation
  | host kind _ _ => kind

def origin : Defect → Origin
  | schema _ => .schema
  | noField _ | collection _ => .resolver
  | host _ origin _ => origin

def message : Defect → String
  | schema fault => fault.message
  | noField path => s!"path expression '{path.render}' names no field"
  | collection path => s!"unsupported path expression type for '{path.render}'"
  | host _ _ text => text

def isInvariantViolation (d : Defect) : Bool :=
  d.kind == .invariantViolation

end Defect

/-! ## Failures -/

inductive Failure where
  | mismatch (mismatch : Mismatch)
  | defect (defect : Defect)
  deriving DecidableEq, Repr

namespace Failure

def message : Failure → String
  | mismatch m => m.message
  | defect d => d.message

def mismatch? : Failure → Option Mismatch
  | mismatch m => some m
  | defect _ => none

def isMismatch (f : Failure) : Bool :=
  f.mismatch?.isSome

end Failure

end FilterTyping
