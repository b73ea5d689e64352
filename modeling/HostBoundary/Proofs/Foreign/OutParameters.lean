import HostBoundary.Boundary
import HostBoundary.HostObject
import HostBoundary.Proofs.Cell.Reinterpretation
import HostBoundary.Proofs.Registry.Liveness

/-!
# What is written through the pointers of foreign code

Foreign code asks whether a cell is a live reference, or for the halves of a vector, and passes
pointers for the answer. `out_parameters_written_on_success` says that something is written there
exactly when the status is success, so that no caller takes what stood there before for an answer,
and that no question changes a registry. Of several faults the first one in a fixed order is told: a
null pointer before an unknown type. `Answered` collects what is told and what is written.

A pointer that has been freed must not be used again. Where one is mentioned here, its caller has set
it to null, and it is answered as the null pointer that it is; of callers who use it as it was
nothing is said.
-/

namespace HostBoundary

universe u v

variable {α : Type u} {κ : Type v}

/-! ## Type codes -/

/-- The code of a type names a type. -/
@[simp]
theorem Foreign.checkType_code (t : ValueType) : Foreign.checkType t.code = .ok := by
  cases t <;> rfl

/-- A byte that is the code of no type is reported as such. -/
theorem Foreign.checkType_of_ofCode?_eq_none {code : UInt8}
    (hcode : ValueType.ofCode? code = none) :
    Foreign.checkType code = .unknownValueType := by
  rw [checkType, ValueType.ofCode, hcode]
  rfl

/-- A cell under the code of a type is read as that type. -/
@[simp]
theorem Registry.decodeByCode_code (r : Registry α) (c : Cell) (t : ValueType) :
    r.decodeByCode c t.code = .ok (r.decode c t) := by
  cases t <;> rfl

/-- A cell under an unknown code is not read. -/
theorem Registry.decodeByCode_of_ofCode?_eq_none (r : Registry α) (c : Cell) {code : UInt8}
    (hcode : ValueType.ofCode? code = none) :
    r.decodeByCode c code = .error (.unknownValueType code) := by
  rw [decodeByCode, ValueType.ofCode, hcode]
  rfl

/-- What is read from a cell is a live reference exactly when it is read as a reference and its
handle is registered. -/
theorem Registry.any_isLive_decode {r : Registry α} {c : Cell} {t : ValueType} :
    (r.decode c t).externref?.any ExternRef.isLive = true ↔
      t = .externref ∧ r.contains c.handle = true := by
  cases t with
  | externref =>
      show (r.refOf c.handle).isLive = true ↔ _
      rw [isLive_refOf]
      exact (and_iff_right rfl).symm
  | _ => simp [decode, Value.externref?]

/-! ## The question whether a cell is a live reference -/

namespace Foreign

/-- What is told and written when foreign code asks the registry `r`, which may be missing, about a
cell under a code. `out` is what stood behind the pointer for the answer, `none` if it is null, and
`after` is what stands there then. -/
structure Answered (r : Option (Registry α)) (c : Cell) (code : UInt8) (out : Option Bool)
    (status : Status) (after : Option Bool) : Prop where
  /-- A null pointer is told of whatever the code is. -/
  nullPointer_iff : status = .nullPointer ↔ r = none ∨ out = none
  /-- Without a null pointer it is told what there is to tell of the code. -/
  status_eq : r ≠ none → out ≠ none → status = checkType code
  /-- This is success exactly for the codes of the types. -/
  ok_iff : status = .ok ↔ r ≠ none ∧ out ≠ none ∧ ∃ t : ValueType, code = t.code
  /-- Otherwise it is the status of the error that decoding meets. -/
  error_eq : ∀ s e, r = some s → out ≠ none → s.decodeByCode c code = .error e →
    status = .ofError e
  /-- Nothing is written without success. -/
  unchanged : status ≠ .ok → after = out
  /-- With success it is written whether the code is that of references and the handle in the first
  eight bytes of the cell is registered. -/
  written : status = .ok → ∃ live, after = some live ∧
    ∀ s h, r = some s → c.block.bytes.take 8 = LittleEndian.ofNat 8 h.number.toNat →
      (live = true ↔ code = ValueType.externref.code ∧ s.contains h = true)

variable {r : Option (Registry α)} {s : Registry α} {c : Cell} {code : UInt8} {out : Option Bool}

/-- With a null pointer nothing else is looked at. -/
theorem isLive_of_null (hnull : r = none ∨ out = none) :
    isLive r c code out = (.nullPointer, out) := by
  rcases hnull with rfl | rfl
  · rfl
  · cases r <;> rfl

/-- An unknown code is told of, and nothing is written. -/
theorem isLive_of_ofCode?_eq_none (hcode : ValueType.ofCode? code = none) (old : Bool) :
    isLive (some s) c code (some old) = (.unknownValueType, some old) := by
  simp only [isLive, s.decodeByCode_of_ofCode?_eq_none c hcode]
  rfl

/-- Under the code of a type it is written whether the cell is read as a live reference. -/
theorem isLive_code (s : Registry α) (c : Cell) (t : ValueType) (old : Bool) :
    isLive (some s) c t.code (some old) =
      (.ok, some ((s.decode c t).externref?.any ExternRef.isLive)) := by
  simp only [isLive, Registry.decodeByCode_code]

/-- A question with a null pointer is answered. -/
theorem answered_of_null (hnull : r = none ∨ out = none) :
    Answered r c code out .nullPointer out where
  nullPointer_iff := iff_of_true rfl hnull
  status_eq hr hout := absurd hnull (not_or.2 ⟨hr, hout⟩)
  ok_iff := iff_of_false nofun fun hok => absurd hnull (not_or.2 ⟨hok.1, hok.2.1⟩)
  error_eq s e hs hout := by
    subst hs
    exact absurd hnull (not_or.2 ⟨nofun, hout⟩)
  unchanged _ := rfl
  written := nofun

/-- A question under an unknown code is answered. -/
theorem answered_of_ofCode?_eq_none (hcode : ValueType.ofCode? code = none) (old : Bool) :
    Answered (some s) c code (some old) .unknownValueType (some old) where
  nullPointer_iff := iff_of_false nofun (not_or.2 ⟨nofun, nofun⟩)
  status_eq _ _ := (checkType_of_ofCode?_eq_none hcode).symm
  ok_iff := by
    refine iff_of_false nofun ?_
    rintro ⟨-, -, t, ht⟩
    rw [ValueType.ofCode?_eq_some_iff.2 ht] at hcode
    cases hcode
  error_eq s e _ _ he := by
    rw [s.decodeByCode_of_ofCode?_eq_none c hcode] at he
    cases he
    rfl
  unchanged _ := rfl
  written := nofun

/-- A question under the code of a type is answered. -/
theorem answered_code (s : Registry α) (c : Cell) (t : ValueType) (old : Bool) :
    Answered (some s) c t.code (some old) .ok
      (some ((s.decode c t).externref?.any ExternRef.isLive)) where
  nullPointer_iff := iff_of_false nofun (not_or.2 ⟨nofun, nofun⟩)
  status_eq _ _ := (checkType_code t).symm
  ok_iff := iff_of_true rfl ⟨nofun, nofun, t, rfl⟩
  error_eq s e _ _ he := by
    rw [s.decodeByCode_code] at he
    cases he
  unchanged hfailed := absurd rfl hfailed
  written _ := by
    refine ⟨_, rfl, fun r h hr hbytes => ?_⟩
    cases hr
    rw [Registry.any_isLive_decode, Cell.handle_eq_of_take hbytes, ValueType.code_inj]

/-- Whatever foreign code asks, it is answered. -/
theorem answered_isLive (r : Option (Registry α)) (c : Cell) (code : UInt8) (out : Option Bool) :
    Answered r c code out (isLive r c code out).1 (isLive r c code out).2 := by
  by_cases hnull : r = none ∨ out = none
  · rw [isLive_of_null hnull]
    exact answered_of_null hnull
  · obtain ⟨hr, hout⟩ := not_or.1 hnull
    obtain ⟨s, rfl⟩ := Option.ne_none_iff_exists'.1 hr
    obtain ⟨old, rfl⟩ := Option.ne_none_iff_exists'.1 hout
    cases hcode : ValueType.ofCode? code with
    | none =>
        rw [isLive_of_ofCode?_eq_none hcode]
        exact answered_of_ofCode?_eq_none hcode old
    | some t =>
        obtain rfl := ValueType.ofCode?_eq_some_iff.1 hcode
        rw [isLive_code]
        exact answered_code s c t old

/-! ## The halves of a vector -/

/-- With both pointers the halves are written, otherwise neither is. -/
theorem readVector_cases (c : Cell) (out : Halves) :
    ((out.high ≠ none ∧ out.low ≠ none) ∧
      readVector c out = (.ok, ⟨some c.vector.high, some c.vector.low⟩)) ∨
    ((out.high = none ∨ out.low = none) ∧ readVector c out = (.nullPointer, out)) := by
  obtain ⟨high, low⟩ := out
  cases high with
  | none => exact Or.inr ⟨Or.inl rfl, rfl⟩
  | some high =>
      cases low with
      | none => exact Or.inr ⟨Or.inr rfl, rfl⟩
      | some low => exact Or.inl ⟨⟨nofun, nofun⟩, rfl⟩

end Foreign

/-! ## Through a pointer to a registry -/

namespace Boundary

/-- What stands behind a pointer to a registry: nothing if it is null, as it is also after its caller
has freed it and set it to null. -/
inductive PointsTo (b : Boundary α) : Option Nat → Option (Registry α) → Prop where
  | null : PointsTo b none none
  /-- The caller has freed the pointer and set it to null. -/
  | freed {p : Nat} (hpointer : b.pointers[p]? = some none) : PointsTo b (some p) none
  | registry {p i : Nat} {r : Registry α} (hpointer : b.pointers[p]? = some (some i))
      (hregistry : b.registries[i]? = some r) : PointsTo b (some p) (some r)

variable [HasKind α κ] [DecidableEq κ]

/-- A call that leaves the registry that it reaches leaves the boundary. -/
theorem reach_eq_of_access_snd_eq {b : Boundary α} {i : Nat} {r : Registry α}
    (hregistry : b.registries[i]? = some r) {access : AccessCall α κ}
    (hsame : (r.access access).2 = r) :
    b.reach (some i) access = ((r.access access).1, b) := by
  obtain ⟨hlt, hentry⟩ := Array.getElem?_eq_some_iff.1 hregistry
  have hset : b.registries.setIfInBounds i r = b.registries := by
    rw [Array.setIfInBounds, dif_pos hlt, ← hentry]
    exact Array.set_getElem_self hlt
  simp only [reach, hregistry, hsame, hset]

/-- The question is answered by what stands behind the pointer, and changes nothing. -/
theorem answer_isLive {b : Boundary α} {pointer : Option Nat} {r : Option (Registry α)}
    (hpoints : b.PointsTo pointer r) (c : Cell) (code : UInt8) (out : Option Bool) :
    b.answer (.onPointer pointer (.isLive c code out) : BoundaryCall α κ) =
      (.quiet (.liveness (Foreign.isLive r c code out).1 (Foreign.isLive r c code out).2), b) := by
  cases hpoints with
  | null => rfl
  | freed hpointer => simp only [answer, hpointer, Foreign.answerNull]
  | registry hpointer hregistry =>
      simp only [answer, hpointer]
      exact reach_eq_of_access_snd_eq hregistry rfl

/-- Foreign code asks through a pointer to a registry, which may be null, whether a cell under a code
is a live reference. The status is that of a null pointer if that pointer or the one for the answer
is null, otherwise that of the code, and it is success for the codes of the seven types. The answer
is written with success alone, and then it is yes exactly when the code is that of references and
the handle in the first eight bytes of the cell is registered. No registry is changed, and neither
are the names of any. The halves of a vector are both written, with success, or neither is, if a
pointer is null. -/
theorem out_parameters_written_on_success :
    (∀ (b : Boundary α) (pointer : Option Nat) (r : Option (Registry α)), b.PointsTo pointer r →
      ∀ (c : Cell) (code : UInt8) (out : Option Bool), ∃ status after,
        b.answer (.onPointer pointer (.isLive c code out) : BoundaryCall α κ) =
          (.quiet (.liveness status after), b) ∧
        Foreign.isLive r c code out = (status, after) ∧
        Foreign.Answered r c code out status after) ∧
    ∀ (c : Cell) (out : Foreign.Halves),
      ((out.high ≠ none ∧ out.low ≠ none) ∧ ∃ high low : UInt64,
        Foreign.readVector c out = (.ok, ⟨some high, some low⟩) ∧
          high.toNat = c.toNat / 2 ^ 64 ∧ low.toNat = c.toNat % 2 ^ 64) ∨
      ((out.high = none ∨ out.low = none) ∧
        Foreign.readVector c out = (.nullPointer, out)) := by
  refine ⟨fun b pointer r hpoints c code out => ⟨_, _, answer_isLive hpoints c code out, rfl,
    Foreign.answered_isLive r c code out⟩, fun c out => ?_⟩
  rcases Foreign.readVector_cases c out with ⟨hpointers, hread⟩ | hnull
  · exact Or.inl ⟨hpointers, _, _, hread, c.toNat_high_vector, c.toNat_low_vector⟩
  · exact Or.inr hnull

/-- One registry with one object, and a pointer to it. -/
def onePointer : Boundary HostObject :=
  ⟨#[⟨⟨#[some .unit], [], 1⟩⟩], #[0], #[], #[some 0]⟩

/-- A cell that holds the handle of the object is a live reference, which is written over what stood
there. Under an unknown code nothing is written, and through a null pointer that code is not even
told of. -/
theorem out_parameters_written_on_success_of_live_cell :
    onePointer.PointsTo (some 0) (some ⟨⟨#[some .unit], [], 1⟩⟩) ∧ onePointer.PointsTo none none ∧
      onePointer.answer (.onPointer (some 0) (.isLive (.ofLane 8 1) 0x6F (some false))) =
        (.quiet (.liveness .ok (some true)), onePointer) ∧
      onePointer.answer (.onPointer (some 0) (.isLive (.ofLane 8 1) 0x01 (some true))) =
        (.quiet (.liveness .unknownValueType (some true)), onePointer) ∧
      onePointer.answer (.onPointer none (.isLive (.ofLane 8 1) 0x01 (some true))) =
        (.quiet (.liveness .nullPointer (some true)), onePointer) := by
  have hlive : onePointer.PointsTo (some 0) (some ⟨⟨#[some .unit], [], 1⟩⟩) := .registry rfl rfl
  have hnull : onePointer.PointsTo none none := .null
  obtain ⟨hask, -⟩ := out_parameters_written_on_success (α := HostObject) (κ := ObjectKind)
  refine ⟨hlive, hnull, ?_, ?_, ?_⟩
  · obtain ⟨status, after, hanswer, -, hanswered⟩ :=
      hask onePointer _ _ hlive (.ofLane 8 1) 0x6F (some false)
    obtain rfl := hanswered.ok_iff.2 ⟨nofun, nofun, .externref, rfl⟩
    obtain ⟨live, rfl, hwritten⟩ := hanswered.written rfl
    obtain rfl : live = true := (hwritten _ ⟨1⟩ rfl (by decide)).2 ⟨rfl, by decide⟩
    exact hanswer
  · obtain ⟨status, after, hanswer, -, hanswered⟩ :=
      hask onePointer _ _ hlive (.ofLane 8 1) 0x01 (some true)
    obtain rfl : status = .unknownValueType := hanswered.status_eq nofun nofun
    obtain rfl := hanswered.unchanged nofun
    exact hanswer
  · obtain ⟨status, after, hanswer, -, hanswered⟩ :=
      hask onePointer _ _ hnull (.ofLane 8 1) 0x01 (some true)
    obtain rfl := hanswered.nullPointer_iff.2 (Or.inl rfl)
    obtain rfl := hanswered.unchanged nofun
    exact hanswer

end Boundary

end HostBoundary
