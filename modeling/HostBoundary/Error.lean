import HostBoundary.Reference
import HostBoundary.Text.Hex.Basic
import HostBoundary.ValueType

/-!
# Errors

The reasons for which a value does not cross the boundary, their messages and their diagnostic
forms, and the readers of type codes that report an unknown byte by the error that names it.
-/

namespace HostBoundary

/-- Why a value does not cross the boundary. -/
inductive BoundaryError where
  /-- A byte names no value type. -/
  | unknownValueType (code : UInt8)
  /-- A byte names no reference type. -/
  | unknownRefType (code : UInt8)
  /-- A byte names no mutability. -/
  | unknownMutability (code : UInt8)
  /-- A reference has been released, or its handle is not registered. -/
  | releasedReference (handle : Handle)
  /-- The number of cells is not the number of types declared for them. -/
  | arityMismatch (expected found : Nat)
  deriving DecidableEq

namespace BoundaryError

/-- A byte in messages: `0x` and two digits. -/
def codeText (code : UInt8) : String :=
  "0x" ++ Hex.text 2 code.toNat

/-- The message of an error. -/
def message : BoundaryError → String
  | .unknownValueType code => "unknown value type code: " ++ codeText code
  | .unknownRefType code => "unknown reference type code: " ++ codeText code
  | .unknownMutability code => "unknown mutability code: " ++ codeText code
  | .releasedReference handle => "external reference " ++ handle.text ++ " is released"
  | .arityMismatch expected found =>
      "arity mismatch: expected " ++ toString expected ++ " values, found " ++ toString found

/-- The label of the kind of an error. -/
def label : BoundaryError → String
  | .unknownValueType _ => "UnknownValType"
  | .unknownRefType _ => "UnknownRefType"
  | .unknownMutability _ => "UnknownMutability"
  | .releasedReference _ => "ReleasedReference"
  | .arityMismatch _ _ => "ArityMismatch"

/-- The diagnostic form of an error: its label and what it carries. -/
def diagnostic (e : BoundaryError) : String :=
  match e with
  | .unknownValueType code | .unknownRefType code | .unknownMutability code =>
      e.label ++ "(" ++ toString code.toNat ++ ")"
  | .releasedReference handle => e.label ++ "(" ++ handle.diagnostic ++ ")"
  | .arityMismatch expected found =>
      e.label ++ " \x7b expected: " ++ toString expected ++ ", found: " ++ toString found ++ " \x7d"

end BoundaryError

universe u v

/-- Two results are equal when both succeed or both fail and they carry the same. -/
instance decidableEqResult {ε : Type u} {β : Type v} [DecidableEq ε] [DecidableEq β] :
    DecidableEq (Except ε β)
  | .ok a, .ok b => decidable_of_iff (a = b) (by simp)
  | .error a, .error b => decidable_of_iff (a = b) (by simp)
  | .ok _, .error _ => isFalse nofun
  | .error _, .ok _ => isFalse nofun

/-- The value type that a byte names, or the error that names the byte. -/
def ValueType.ofCode (code : UInt8) : Except BoundaryError ValueType :=
  match ValueType.ofCode? code with
  | some t => .ok t
  | none => .error (.unknownValueType code)

/-- The reference type that a byte names, or the error that names the byte. -/
def RefType.ofCode (code : UInt8) : Except BoundaryError RefType :=
  match RefType.ofCode? code with
  | some t => .ok t
  | none => .error (.unknownRefType code)

/-- The mutability that a byte names, or the error that names the byte. -/
def Mutability.ofCode (code : UInt8) : Except BoundaryError Mutability :=
  match Mutability.ofCode? code with
  | some m => .ok m
  | none => .error (.unknownMutability code)

end HostBoundary
