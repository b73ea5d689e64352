import HostBoundary.HostObject
import HostBoundary.Proofs.Transfer.FirstRefusal
import HostBoundary.Registry.Lemmas

/-!
# Equal values and equal cells

The host compares values by `Value.equals`, the engine knows their cells alone, and neither
comparison implies the other: a NaN differs from itself although its cell does not, the two zeros
are equal although their cells are not, and values of different types may share a cell.
`equals_iff_cells_agree` says that these are all the differences. `equals_iff` is the comparison in
terms of values, and `eq_of_toCell_eq` takes it to cells, as the cell of a value that may cross the
boundary determines the value once its type is known.
-/

namespace HostBoundary

universe u

namespace Value

open Ieee

variable {a b c v : Value}

/-! ## The comparison in terms of values -/

/-- Whether a value is a floating-point zero, of either sign. -/
def isFloatZero : Value → Bool
  | .f32 x => x.isZero
  | .f64 x => x.isZero
  | _ => false

/-- A zero is no NaN. -/
theorem isNaN_eq_false_of_isFloatZero (ha : a.isFloatZero = true) : a.isNaN = false := by
  cases a with
  | f32 x => exact Datum.isNaN_eq_false_of_isZero ha
  | f64 x => exact Datum.isNaN_eq_false_of_isZero ha
  | _ => rfl

/-- Values compare equal if they have one type and are one value that is no NaN, or two zeros. -/
theorem equals_iff :
    a.equals b = true ↔ a.type = b.type ∧
      (a = b ∧ a.isNaN = false ∨ a.isFloatZero = true ∧ b.isFloatZero = true) := by
  cases a with
  | f32 x =>
      cases b with
      | f32 y => simp [equals, type, isNaN, isFloatZero, Datum.ieeeEq_iff_eq_or_isZero]
      | _ => simp [equals, type]
  | f64 x =>
      cases b with
      | f64 y => simp [equals, type, isNaN, isFloatZero, Datum.ieeeEq_iff_eq_or_isZero]
      | _ => simp [equals, type]
  | _ => cases b <;> simp [equals, type, isNaN, isFloatZero]

/-- The comparison does not depend on the order of its sides. -/
theorem equals_comm (a b : Value) : a.equals b = b.equals a := by
  have hhalf : ∀ {a b : Value}, a.equals b = true → b.equals a = true := by
    intro a b hab
    obtain ⟨htype, ⟨rfl, hnumber⟩ | ⟨ha, hb⟩⟩ := equals_iff.1 hab
    · exact hab
    · exact equals_iff.2 ⟨htype.symm, Or.inr ⟨hb, ha⟩⟩
  exact Bool.eq_iff_iff.2 ⟨hhalf, hhalf⟩

/-- Values that are equal to one value are equal to each other. -/
theorem equals_trans (hab : a.equals b = true) (hbc : b.equals c = true) : a.equals c = true := by
  obtain ⟨htype, ⟨rfl, -⟩ | ⟨ha, hb⟩⟩ := equals_iff.1 hab
  · exact hbc
  · obtain ⟨htype', ⟨rfl, -⟩ | ⟨-, hc⟩⟩ := equals_iff.1 hbc
    · exact hab
    · exact equals_iff.2 ⟨htype.trans htype', Or.inr ⟨ha, hc⟩⟩

/-- A value is equal to itself unless it is a NaN. -/
theorem equals_self (a : Value) : a.equals a = !a.isNaN := by
  rw [Bool.eq_iff_iff, equals_iff, Bool.not_eq_true']
  constructor
  · rintro ⟨-, ⟨-, hnumber⟩ | ⟨hzero, -⟩⟩
    · exact hnumber
    · exact isNaN_eq_false_of_isFloatZero hzero
  · intro hnumber
    exact ⟨rfl, Or.inl ⟨rfl, hnumber⟩⟩

/-- A value that is neither a NaN nor a zero is equal to itself alone. -/
theorem equals_iff_eq (hnumber : a.isNaN = false) (hzero : a.isFloatZero = false) :
    a.equals b = true ↔ a = b := by
  rw [equals_iff, hnumber, hzero]
  constructor
  · rintro ⟨-, ⟨heq, -⟩ | ⟨hzero, -⟩⟩
    · exact heq
    · cases hzero
  · rintro rfl
    exact ⟨rfl, Or.inl ⟨rfl, rfl⟩⟩

/-! ## The comparison in terms of cells -/

/-- A value is written exactly when it has not been released, and then into its cell. -/
theorem result_encode_eq_ok_iff {cell : Cell} :
    v.encode.result = .ok cell ↔ v.isReleased = false ∧ v.toCell = cell := by
  cases hreleased : v.isReleased with
  | false =>
      rw [screens_encode.accepts v hreleased, Logged.result_quiet, Except.ok.injEq]
      exact (and_iff_right rfl).symm
  | true =>
      obtain ⟨ref, -, hrefused⟩ := screens_encode.refuses v hreleased
      rw [hrefused]
      simp

/-- The values that are written are those that are no released references. -/
theorem exists_result_encode_eq_ok_iff :
    (∃ cell, v.encode.result = .ok cell) ↔ ∀ h, v ≠ externref (.released h) := by
  constructor
  · rintro ⟨cell, hcell⟩ h rfl
    cases (result_encode_eq_ok_iff.1 hcell).1
  · intro hkept
    cases hreleased : v.isReleased with
    | false => exact ⟨v.toCell, result_encode_eq_ok_iff.2 ⟨hreleased, rfl⟩⟩
    | true =>
        obtain ⟨ref, rfl, -⟩ := screens_encode.refuses v hreleased
        cases ref with
        | live h => cases hreleased
        | released h => exact absurd rfl (hkept h)

/-- An extern reference that has not been released is live. -/
theorem exists_live_of_type_eq (hv : v.type = .externref) (hkept : v.isReleased = false) :
    ∃ h, v = .externref (.live h) := by
  cases v with
  | externref ref =>
      cases ref with
      | live h => exact ⟨h, rfl⟩
      | released h => cases hkept
  | _ => cases hv

/-- Values of one type that have not been released and stand in one cell are one value. -/
theorem eq_of_toCell_eq (htype : a.type = b.type) (ha : a.isReleased = false)
    (hb : b.isReleased = false) (hcell : a.toCell = b.toCell) : a = b := by
  by_cases href : a.type = .externref
  · obtain ⟨h, rfl⟩ := exists_live_of_type_eq href ha
    obtain ⟨k, rfl⟩ := exists_live_of_type_eq (htype ▸ href) hb
    have hhandle : (Cell.ofHandle h).handle = (Cell.ofHandle k).handle := congrArg Cell.handle hcell
    rw [Cell.handle_ofHandle, Cell.handle_ofHandle] at hhandle
    rw [hhandle]
  · -- Any registry reads both values back from the one cell.
    let r : Registry Unit := .empty
    calc a = r.judge a := (r.judge_of_type_ne href).symm
      _ = r.decode a.toCell a.type := (r.decode_toCell a).symm
      _ = r.decode b.toCell b.type := by rw [hcell, htype]
      _ = r.judge b := r.decode_toCell b
      _ = b := r.judge_of_type_ne (htype ▸ href)

/-- The NaNs are told by their cells: without the sign they lie above the infinities. -/
theorem isNaN_iff_toNat_toCell :
    v.isNaN = true ↔
      v.type = .f32 ∧ 0x7F800000 < v.toCell.toNat % 2 ^ 31 ∨
      v.type = .f64 ∧ 0x7FF0000000000000 < v.toCell.toNat % 2 ^ 63 := by
  cases v with
  | f32 x =>
      have hx : x.isNaN = true ↔ 0x7F800000 < x.toNat % 2 ^ 31 := Datum.isNaN_iff
      simp [isNaN, type, toCell, hx]
  | f64 x =>
      have hx : x.isNaN = true ↔ 0x7FF0000000000000 < x.toNat % 2 ^ 63 := Datum.isNaN_iff
      simp [isNaN, type, toCell, hx]
  | _ => simp [isNaN, type]

/-- The floating-point zeros are told by their cells: they hold nothing but a sign. -/
theorem isFloatZero_iff_toNat_toCell :
    v.isFloatZero = true ↔
      v.type = .f32 ∧ v.toCell.toNat % 2 ^ 31 = 0 ∨
      v.type = .f64 ∧ v.toCell.toNat % 2 ^ 63 = 0 := by
  cases v with
  | f32 x =>
      have hx : x.isZero = true ↔ x.toNat % 2 ^ 31 = 0 := Datum.isZero_iff
      simp [isFloatZero, type, toCell, hx]
  | f64 x =>
      have hx : x.isZero = true ↔ x.toNat % 2 ^ 63 = 0 := Datum.isZero_iff
      simp [isFloatZero, type, toCell, hx]
  | _ => simp [isFloatZero, type]

/-- What the empty registry reads from the cell of a value is equal to the value if it is read as
the type of the value, and the value is neither a NaN nor a reference. -/
theorem decode_empty_equals_iff {α : Type u} {t : ValueType} (hv : v.isReleased = false) :
    ((Registry.empty : Registry α).decode v.toCell t).equals v = true ↔
      t = v.type ∧ v.isNaN = false ∧ v.type ≠ .externref := by
  constructor
  · intro heq
    have htype : t = v.type := by
      simpa using type_eq_of_equals heq
    subst htype
    rw [Registry.decode_toCell] at heq
    by_cases href : v.type = .externref
    · -- Nothing is registered, so that the reference is read as released.
      obtain ⟨h, rfl⟩ := exists_live_of_type_eq href hv
      have hread : (Registry.empty : Registry α).judge (externref (.live h)) =
          externref (.released h) :=
        congrArg externref (Registry.refOf_of_not_contains (Registry.contains_empty h))
      rw [hread] at heq
      cases (equals_iff_eq rfl rfl).1 heq
    · rw [Registry.judge_of_type_ne _ href, equals_self, Bool.not_eq_true'] at heq
      exact ⟨rfl, heq, href⟩
  · rintro ⟨rfl, hnumber, href⟩
    rw [Registry.decode_toCell, Registry.judge_of_type_ne _ href, equals_self, hnumber]
    rfl

/-- All values but released references are encoded. Two values that are encoded are equal exactly
when they have one type, and either their cells are equal and no NaN, or both are zeros. A released
reference is equal to itself alone. So the comparison is symmetric and transitive, and what differs
from itself are the NaNs. NaNs and zeros are told by type and cell: without the sign a NaN lies above
the infinities, and a zero is nothing. What is read back from the cell of a value, while nothing is
registered, is equal to the value exactly when it is read as the type of the value, and the value is
neither a NaN nor an extern reference. -/
theorem equals_iff_cells_agree {α : Type u} :
    (∀ v : Value, (∃ cell, v.encode.result = .ok cell) ↔ ∀ h, v ≠ externref (.released h)) ∧
    (∀ (a b : Value) (cell other : Cell),
      a.encode.result = .ok cell → b.encode.result = .ok other →
      (a.equals b = true ↔ a.type = b.type ∧
        (cell = other ∧ a.isNaN = false ∨ a.isFloatZero = true ∧ b.isFloatZero = true))) ∧
    (∀ (h : Handle) (v : Value),
      (externref (.released h)).equals v = true ↔ v = externref (.released h)) ∧
    ((∀ a b : Value, a.equals b = b.equals a) ∧
      (∀ a b c : Value, a.equals b = true → b.equals c = true → a.equals c = true) ∧
      ∀ a : Value, a.equals a = false ↔ a.isNaN = true) ∧
    (∀ (v : Value) (cell : Cell), v.encode.result = .ok cell →
      (v.isNaN = true ↔
        v.type = .f32 ∧ 0x7F800000 < cell.toNat % 2 ^ 31 ∨
        v.type = .f64 ∧ 0x7FF0000000000000 < cell.toNat % 2 ^ 63) ∧
      (v.isFloatZero = true ↔
        v.type = .f32 ∧ cell.toNat % 2 ^ 31 = 0 ∨ v.type = .f64 ∧ cell.toNat % 2 ^ 63 = 0)) ∧
    ∀ (v : Value) (cell : Cell) (t : ValueType), v.encode.result = .ok cell →
      (((Registry.empty : Registry α).decode cell t).equals v = true ↔
        t = v.type ∧ v.isNaN = false ∧ v.type ≠ .externref) := by
  refine ⟨fun v => exists_result_encode_eq_ok_iff, fun a b cell other ha hb => ?_,
    fun h v => (equals_iff_eq rfl rfl).trans eq_comm,
    ⟨equals_comm, fun a b c => equals_trans, fun a => ?_⟩, fun v cell hv => ?_,
    fun v cell t hv => ?_⟩
  · obtain ⟨hakept, rfl⟩ := result_encode_eq_ok_iff.1 ha
    obtain ⟨hbkept, rfl⟩ := result_encode_eq_ok_iff.1 hb
    rw [equals_iff]
    refine and_congr_right fun htype => or_congr_left (and_congr_left fun _ => ?_)
    exact ⟨congrArg toCell, eq_of_toCell_eq htype hakept hbkept⟩
  · rw [equals_self, Bool.not_eq_false']
  · obtain ⟨-, rfl⟩ := result_encode_eq_ok_iff.1 hv
    exact ⟨isNaN_iff_toNat_toCell, isFloatZero_iff_toNat_toCell⟩
  · obtain ⟨hkept, rfl⟩ := result_encode_eq_ok_iff.1 hv
    exact decode_empty_equals_iff hkept

/-- The two single-precision zeros are equal in different cells. The integer zero shares a cell with
one of them and is equal to neither. A NaN is told by its cell, and is not even equal to what is
read back from it, while the integer zero is. -/
theorem equals_iff_cells_agree_of_zeros :
    ((f32 (.ofNat 0x80000000)).encode.result = .ok (.ofLane 4 0x80000000) ∧
      (f32 (.ofNat 0)).encode.result = .ok .zero ∧ (i32 0).encode.result = .ok .zero ∧
      (f32 (.ofNat 0x7FC00001)).encode.result = .ok (.ofLane 4 0x7FC00001)) ∧
    (f32 (.ofNat 0x80000000)).equals (f32 (.ofNat 0)) = true ∧
    (f32 (.ofNat 0)).equals (f32 (.ofNat 0x80000000)) = true ∧
    (f32 (.ofNat 0x80000000)).equals (f32 (.ofNat 0x80000000)) = true ∧
    (i32 0).equals (f32 (.ofNat 0)) = false ∧
    (f32 (.ofNat 0x7FC00001)).isNaN = true ∧
    ((Registry.empty : Registry HostObject).decode (.ofLane 4 0x7FC00001) .f32).equals
      (f32 (.ofNat 0x7FC00001)) = false ∧
    ((Registry.empty : Registry HostObject).decode .zero .i32).equals (i32 0) = true := by
  obtain ⟨-, hcells, -, ⟨hsymmetric, htransitive, -⟩, hzeros, hread⟩ :=
    equals_iff_cells_agree (α := HostObject)
  have hnegative : (f32 (.ofNat 0x80000000)).encode.result = .ok (.ofLane 4 0x80000000) := by decide
  have hpositive : (f32 (.ofNat 0)).encode.result = .ok .zero := by decide
  have hinteger : (i32 0).encode.result = .ok .zero := by decide
  have hnan : (f32 (.ofNat 0x7FC00001)).encode.result = .ok (.ofLane 4 0x7FC00001) := by decide
  have hequal : (f32 (.ofNat 0x80000000)).equals (f32 (.ofNat 0)) = true :=
    (hcells _ _ _ _ hnegative hpositive).2 (by decide)
  have hback : (f32 (.ofNat 0)).equals (f32 (.ofNat 0x80000000)) = true :=
    (hsymmetric _ _).trans hequal
  refine ⟨⟨hnegative, hpositive, hinteger, hnan⟩, hequal, hback,
    htransitive _ _ _ hequal hback, ?_, ?_, ?_, ?_⟩
  · exact Bool.eq_false_iff.2 fun h => absurd ((hcells _ _ _ _ hinteger hpositive).1 h).1 (by decide)
  · exact (hzeros _ _ hnan).1.2 (by decide)
  · exact Bool.eq_false_iff.2 fun h => absurd ((hread _ _ .f32 hnan).1 h).2.1 (by decide)
  · exact (hread _ _ .i32 hinteger).2 (by decide)

end Value

end HostBoundary
