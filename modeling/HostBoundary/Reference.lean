/-!
# Handles and references

A `Handle` is the number by which the engine knows a host object; zero is the null handle and names
no object. A `FuncRef` is an index into the engine's functions. An `ExternRef` carries a handle
together with what its holder was last told of it: live or released.
-/

namespace HostBoundary

/-- The number by which the engine knows a host object. -/
@[ext]
structure Handle where
  number : UInt64
  deriving DecidableEq

namespace Handle

/-- The null handle, which names no object. -/
def null : Handle := ⟨0⟩

instance : Inhabited Handle := ⟨null⟩

/-- Whether a handle is the null handle. -/
def isNull (h : Handle) : Bool :=
  h.number == 0

/-- The written form of a handle: a number sign and the number. -/
def text (h : Handle) : String :=
  "#" ++ toString h.number.toNat

/-- The diagnostic form of a handle. -/
def diagnostic (h : Handle) : String :=
  "Handle(" ++ toString h.number.toNat ++ ")"

/-- Handles in increasing order of their numbers. -/
def sort (hs : List Handle) : List Handle :=
  hs.mergeSort fun a b => decide (a.number ≤ b.number)

/-- How many different handles a list holds. -/
def distinctCount (hs : List Handle) : Nat :=
  hs.eraseDups.length

/-- Handles with one number are one handle. -/
theorem toNat_inj {a b : Handle} : a.number.toNat = b.number.toNat ↔ a = b := by
  constructor
  · intro h
    exact Handle.ext (UInt64.toNat_inj.1 h)
  · intro h
    rw [h]

end Handle

/-- A reference to a function of the engine, by its index. -/
@[ext]
structure FuncRef where
  index : UInt32
  deriving DecidableEq

/-- The diagnostic form of a function reference. -/
def FuncRef.diagnostic (r : FuncRef) : String :=
  "FuncRef \x7b index: " ++ toString r.index.toNat ++ " \x7d"

/-- A reference to a host object. `live` is a reference whose object was registered when the
reference was made; `released` is one that has been given up and may not cross the boundary. -/
inductive ExternRef where
  | live (handle : Handle)
  | released (handle : Handle)
  deriving DecidableEq

namespace ExternRef

/-- The null reference: the null handle, released. -/
def null : ExternRef := .released .null

/-- The handle of a reference, in either state. -/
def handle : ExternRef → Handle
  | .live h => h
  | .released h => h

/-- Whether a reference is live. -/
def isLive : ExternRef → Bool
  | .live _ => true
  | .released _ => false

/-- The released reference with the same handle. -/
def toReleased (r : ExternRef) : ExternRef :=
  .released r.handle

/-- The diagnostic form of a reference. -/
def diagnostic : ExternRef → String
  | .live h => "Live(" ++ h.diagnostic ++ ")"
  | .released h => "Released(" ++ h.diagnostic ++ ")"

/-- Releasing keeps the handle. -/
@[simp]
theorem handle_toReleased (r : ExternRef) : r.toReleased.handle = r.handle := by
  cases r <;> rfl

/-- A released reference is not live. -/
@[simp]
theorem isLive_toReleased (r : ExternRef) : r.toReleased.isLive = false := rfl

end ExternRef

end HostBoundary
