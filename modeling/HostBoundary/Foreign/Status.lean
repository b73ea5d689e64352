import HostBoundary.Error

/-!
# Statuses

What a foreign caller is told of a call: that it succeeded, or which kind of error it met. A status
says less than an error, since it does not carry the byte, handle or counts.
-/

namespace HostBoundary

universe u

/-- The status of a foreign call. -/
inductive Status where
  | ok
  | unknownValueType
  | unknownRefType
  | unknownMutability
  | releasedReference
  | arityMismatch
  | nullPointer
  deriving DecidableEq

namespace Status

/-- The number that stands for a status. -/
def code : Status → Nat
  | .ok => 0
  | .unknownValueType => 1
  | .unknownRefType => 2
  | .unknownMutability => 3
  | .releasedReference => 4
  | .arityMismatch => 5
  | .nullPointer => 6

/-- The status that a number stands for. -/
def ofCode? (code : Nat) : Option Status :=
  match code with
  | 0 => some .ok
  | 1 => some .unknownValueType
  | 2 => some .unknownRefType
  | 3 => some .unknownMutability
  | 4 => some .releasedReference
  | 5 => some .arityMismatch
  | 6 => some .nullPointer
  | _ => none

/-- The description of a status. -/
def text : Status → String
  | .ok => "ok"
  | .unknownValueType => "unknown value type"
  | .unknownRefType => "unknown reference type"
  | .unknownMutability => "unknown mutability"
  | .releasedReference => "external reference is released"
  | .arityMismatch => "arity mismatch"
  | .nullPointer => "null pointer"

/-- The label of a status in diagnostic text. -/
def label : Status → String
  | .ok => "Ok"
  | .unknownValueType => "UnknownValType"
  | .unknownRefType => "UnknownRefType"
  | .unknownMutability => "UnknownMutability"
  | .releasedReference => "ReleasedReference"
  | .arityMismatch => "ArityMismatch"
  | .nullPointer => "NullPointer"

/-- The status of an error is its kind. -/
def ofError : BoundaryError → Status
  | .unknownValueType _ => .unknownValueType
  | .unknownRefType _ => .unknownRefType
  | .unknownMutability _ => .unknownMutability
  | .releasedReference _ => .releasedReference
  | .arityMismatch _ _ => .arityMismatch

/-- The status of a result: success, or the kind of its error. -/
def ofResult {β : Type u} : Except BoundaryError β → Status
  | .ok _ => .ok
  | .error e => ofError e

/-- A number stands for a status exactly when it is that status's code. -/
theorem ofCode?_eq_some_iff {n : Nat} {s : Status} : ofCode? n = some s ↔ n = s.code := by
  constructor
  · intro h
    unfold ofCode? at h
    split at h <;> cases h <;> rfl
  · rintro rfl
    cases s <;> rfl

end Status

end HostBoundary
