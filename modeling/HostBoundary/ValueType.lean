/-!
# Types of values

The seven types of values that cross the boundary, the two of them that are references, and the two
mutabilities of a global, each with the byte that names it in the engine's binary format and with
its name in text. `ofCode?_eq_some_iff` says for each of the three that a byte is read exactly as
the one type whose code it is.
-/

namespace HostBoundary

/-- The type of a value that crosses the boundary. -/
inductive ValueType where
  | i32
  | i64
  | f32
  | f64
  | v128
  | funcref
  | externref
  deriving DecidableEq

/-- The type of a reference. -/
inductive RefType where
  | funcref
  | externref
  deriving DecidableEq

/-- Whether a global may be written after it is made. -/
inductive Mutability where
  | const
  | var
  deriving DecidableEq

namespace ValueType

/-- The byte that names a type in the binary format. -/
def code : ValueType → UInt8
  | .i32 => 0x7F
  | .i64 => 0x7E
  | .f32 => 0x7D
  | .f64 => 0x7C
  | .v128 => 0x7B
  | .funcref => 0x70
  | .externref => 0x6F

/-- The type that a byte names, if it names one. -/
def ofCode? (code : UInt8) : Option ValueType :=
  match code with
  | 0x7F => some .i32
  | 0x7E => some .i64
  | 0x7D => some .f32
  | 0x7C => some .f64
  | 0x7B => some .v128
  | 0x70 => some .funcref
  | 0x6F => some .externref
  | _ => none

/-- The name of a type in text. -/
def name : ValueType → String
  | .i32 => "i32"
  | .i64 => "i64"
  | .f32 => "f32"
  | .f64 => "f64"
  | .v128 => "v128"
  | .funcref => "funcref"
  | .externref => "externref"

/-- The label of a type in diagnostic text. -/
def label : ValueType → String
  | .i32 => "I32"
  | .i64 => "I64"
  | .f32 => "F32"
  | .f64 => "F64"
  | .v128 => "V128"
  | .funcref => "FuncRef"
  | .externref => "ExternRef"

/-- Whether a type is a scalar number; a vector is not. -/
def isNumeric : ValueType → Bool
  | .i32 | .i64 | .f32 | .f64 => true
  | .v128 | .funcref | .externref => false

/-- The reference type that a value type is, if it is one. -/
def toRefType? : ValueType → Option RefType
  | .funcref => some .funcref
  | .externref => some .externref
  | .i32 | .i64 | .f32 | .f64 | .v128 => none

/-- Whether a type is a reference type. -/
def isReference (t : ValueType) : Bool :=
  t.toRefType?.isSome

/-- The number of bytes of a cell that a value of the type occupies. -/
def laneWidth : ValueType → Nat
  | .i32 | .f32 | .funcref => 4
  | .i64 | .f64 | .externref => 8
  | .v128 => 16

/-- Every lane fits into a cell. -/
theorem laneWidth_le (t : ValueType) : t.laneWidth ≤ 16 := by
  cases t <;> decide

/-- A byte names a type exactly when it is that type's code. -/
theorem ofCode?_eq_some_iff {c : UInt8} {t : ValueType} : ofCode? c = some t ↔ c = t.code := by
  constructor
  · intro h
    unfold ofCode? at h
    split at h <;> cases h <;> rfl
  · rintro rfl
    cases t <;> rfl

/-- Types with one code are one type. -/
theorem code_inj {s t : ValueType} : s.code = t.code ↔ s = t := by
  refine ⟨fun h => ?_, congrArg code⟩
  have hs : ofCode? s.code = some s := ofCode?_eq_some_iff.2 rfl
  rw [ofCode?_eq_some_iff.2 h] at hs
  exact (Option.some.inj hs).symm

end ValueType

namespace RefType

/-- A reference type as a value type. -/
def toValueType : RefType → ValueType
  | .funcref => .funcref
  | .externref => .externref

/-- The byte that names a reference type is that of the value type it is. -/
def code (t : RefType) : UInt8 :=
  t.toValueType.code

/-- The reference type that a byte names, if it names one. -/
def ofCode? (code : UInt8) : Option RefType :=
  (ValueType.ofCode? code).bind ValueType.toRefType?

/-- The name of a reference type in text. -/
def name (t : RefType) : String :=
  t.toValueType.name

/-- The label of a reference type in diagnostic text. -/
def label (t : RefType) : String :=
  t.toValueType.label

/-- A value type is a reference type exactly when it is that reference type's value type. -/
theorem toRefType?_eq_some_iff {v : ValueType} {t : RefType} :
    v.toRefType? = some t ↔ v = t.toValueType := by
  cases v <;> cases t <;> simp [ValueType.toRefType?, toValueType]

/-- A byte names a reference type exactly when it is that type's code. -/
theorem ofCode?_eq_some_iff {c : UInt8} {t : RefType} : ofCode? c = some t ↔ c = t.code := by
  simp only [ofCode?, Option.bind_eq_some_iff, ValueType.ofCode?_eq_some_iff,
    toRefType?_eq_some_iff, code]
  constructor
  · rintro ⟨_, rfl, rfl⟩
    rfl
  · rintro rfl
    exact ⟨_, rfl, rfl⟩

end RefType

namespace Mutability

/-- The byte that names a mutability in the binary format. -/
def code : Mutability → UInt8
  | .const => 0
  | .var => 1

/-- The mutability that a byte names, if it names one. -/
def ofCode? (code : UInt8) : Option Mutability :=
  match code with
  | 0 => some .const
  | 1 => some .var
  | _ => none

/-- The name of a mutability in text. -/
def name : Mutability → String
  | .const => "const"
  | .var => "var"

/-- The label of a mutability in diagnostic text. -/
def label : Mutability → String
  | .const => "Const"
  | .var => "Var"

/-- A byte names a mutability exactly when it is that mutability's code. -/
theorem ofCode?_eq_some_iff {c : UInt8} {m : Mutability} : ofCode? c = some m ↔ c = m.code := by
  constructor
  · intro h
    unfold ofCode? at h
    split at h <;> cases h <;> rfl
  · rintro rfl
    cases m <;> rfl

end Mutability

end HostBoundary
