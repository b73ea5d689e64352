import HostBoundary.HostObject
import HostBoundary.Proofs.Transfer.Steps

/-!
# The first value refused

Two encoders take lists. One refuses released references, and the other one, which belongs to a
registry, refuses live references that the registry does not know as well.
`list_encoding_stops_at_first_offender` says that both work from the front up to the first value
that they refuse. Its handle is the error, one event tells why it was refused, and what stands
behind it makes no difference, whether it would be refused too or not. As the registry refuses more,
it refuses no later.

The two differ in what they refuse alone. `Screens` says of an encoder of single values which values
it refuses and what comes of it, and the laws of lists are proved from that.
-/

namespace HostBoundary

universe u

/-! ## Refusals -/

/-- Whether a value is a reference that has been released. -/
def Value.isReleased : Value → Bool
  | .externref (.released _) => true
  | _ => false

/-- What is reported when a reference is refused: that it has been released, or else that the
registry does not know it. -/
def ExternRef.refusal : ExternRef → Event
  | .live h => .absentRefused h
  | .released h => .releasedRefused h

/-- What comes of a list that is refused for the reference `ref` at index `i`. -/
structure RefusedFor (encodeAll : List Value → Logged (Except BoundaryError (List Cell)))
    (values : List Value) (i : Nat) (ref : ExternRef) : Prop where
  /-- The reference stands at the index. -/
  getElem?_eq : values[i]? = some (.externref ref)
  /-- The error names its handle. -/
  result_eq : (encodeAll values).result = .error (.releasedReference ref.handle)
  /-- There is one event, about this handle, and its message tells a released reference from one
  that the registry does not know. -/
  events_eq : ∃ event, (encodeAll values).events = [event] ∧ event.level = .debug ∧
    event.handle = ref.handle ∧ event.message =
      if ref.isLive then "refusing to encode extern reference absent from registry"
      else "refusing to encode released extern reference"
  /-- Any values may stand behind the reference: neither the error nor the event depends on them. -/
  unexamined : ∀ rest, encodeAll (values.take (i + 1) ++ rest) = encodeAll values

/-- What it is to encode lists value by value, up to the first value that offends. -/
structure StopsAtFirst (encode : Value → Logged (Except BoundaryError Cell))
    (encodeAll : List Value → Logged (Except BoundaryError (List Cell)))
    (offends : Value → Bool) : Prop where
  /-- A list is encoded exactly when no value in it offends. -/
  ok_iff : ∀ values, (∃ cells, (encodeAll values).result = .ok cells) ↔
    ∀ v ∈ values, offends v = false
  /-- Its cells are those of its values one by one, and there is no event. -/
  pointwise : ∀ values cells, (encodeAll values).result = .ok cells →
    values.map (fun v => (encode v).result) = cells.map .ok ∧ (encodeAll values).events = []
  /-- Any other list is refused for the first value that offends. -/
  refused : ∀ values e, (encodeAll values).result = .error e →
    ∃ i ref, values.findIdx? offends = some i ∧ RefusedFor encodeAll values i ref

/-! ## Encoders of single values -/

/-- An encoder of single values refuses those that offend, each for the reference that it is, and
writes any other value into its cell. -/
structure Screens (encode : Value → Logged (Except BoundaryError Cell))
    (offends : Value → Bool) : Prop where
  /-- What does not offend is written. -/
  accepts : ∀ v, offends v = false → encode v = .quiet (.ok v.toCell)
  /-- What offends is a reference, and is refused. -/
  refuses : ∀ v, offends v = true → ∃ ref, v = .externref ref ∧
    encode v = ⟨.error (.releasedReference ref.handle), [ref.refusal]⟩

/-- The plain encoder refuses released references. -/
theorem Value.screens_encode : Screens Value.encode Value.isReleased where
  accepts v hv := by
    cases v with
    | externref ref =>
        cases ref with
        | live h => rfl
        | released h => cases hv
    | _ => rfl
  refuses v hv := by
    cases v with
    | externref ref =>
        cases ref with
        | live h => cases hv
        | released h => exact ⟨.released h, rfl, rfl⟩
    | _ => cases hv

namespace Registry

variable {α : Type u} {r : Registry α} {v : Value}

/-- A registry refuses released references, and live ones whose handle is not registered. -/
theorem admits_eq_false_iff :
    r.admits v = false ↔
      v.isReleased = true ∨ ∃ h, v = .externref (.live h) ∧ r.contains h = false := by
  cases v with
  | externref ref =>
      cases ref with
      | live h => simp [admits, Value.isReleased]
      | released h => simp [admits, Value.isReleased]
  | _ => simp [admits, Value.isReleased]

/-- The encoder of a registry refuses what the registry does not admit. -/
theorem screens_encodeChecked (r : Registry α) : Screens r.encodeChecked fun v => !r.admits v where
  accepts v hv := by
    cases v with
    | externref ref =>
        cases ref with
        | live h =>
            have hknown : r.contains h = true := by simpa [admits] using hv
            exact if_pos hknown
        | released h => cases hv
    | _ => rfl
  refuses v hv := by
    cases v with
    | externref ref =>
        cases ref with
        | live h =>
            have hunknown : ¬ r.contains h = true := by simpa [admits] using hv
            exact ⟨.live h, rfl, if_neg hunknown⟩
        | released h => exact ⟨.released h, rfl, rfl⟩
    | _ => cases hv

end Registry

/-! ## Lists -/

namespace Screens

variable {encode : Value → Logged (Except BoundaryError Cell)} {offends : Value → Bool}
  {values : List Value} {i : Nat}

/-- A list in which no value offends is written into the cells of its values. -/
theorem encodeEach_of_none (hscreens : Screens encode offends)
    (hnone : ∀ v ∈ values, offends v = false) :
    encodeEach encode values = .quiet (.ok (values.map Value.toCell)) := by
  induction values with
  | nil => rfl
  | cons v values ih =>
      obtain ⟨hv, hrest⟩ := List.forall_mem_cons.1 hnone
      rw [encodeEach, hscreens.accepts v hv, ih hrest]
      rfl

/-- A list is refused for the first value that offends, whatever stands behind it. The induction is
on the values before it, which emit no event. -/
theorem encodeEach_of_first (hscreens : Screens encode offends)
    (hfirst : values.findIdx? offends = some i) :
    ∃ ref, values[i]? = some (.externref ref) ∧
      ∀ rest, encodeEach encode (values.take (i + 1) ++ rest) =
        ⟨.error (.releasedReference ref.handle), [ref.refusal]⟩ := by
  induction values generalizing i with
  | nil => cases hfirst
  | cons v values ih =>
      rw [List.findIdx?_cons] at hfirst
      cases hv : offends v with
      | true =>
          rw [hv] at hfirst
          cases hfirst
          obtain ⟨ref, rfl, hrefused⟩ := hscreens.refuses v hv
          refine ⟨ref, rfl, fun rest => ?_⟩
          show encodeEach encode (.externref ref :: rest) = _
          rw [encodeEach, hrefused]
      | false =>
          rw [hv] at hfirst
          obtain ⟨j, hj, rfl⟩ := Option.map_eq_some_iff.1 hfirst
          obtain ⟨ref, href, hrefused⟩ := ih hj
          refine ⟨ref, href, fun rest => ?_⟩
          show encodeEach encode (v :: (values.take (j + 1) ++ rest)) = _
          rw [encodeEach, hscreens.accepts v hv, hrefused]
          rfl

/-- What comes of a list in which some value offends. -/
theorem refusedFor (hscreens : Screens encode offends)
    (hfirst : values.findIdx? offends = some i) :
    ∃ ref, RefusedFor (encodeEach encode) values i ref := by
  obtain ⟨ref, href, hrefused⟩ := hscreens.encodeEach_of_first hfirst
  have hwhole : encodeEach encode values =
      ⟨.error (.releasedReference ref.handle), [ref.refusal]⟩ := by
    rw [← hrefused (values.drop (i + 1)), List.take_append_drop]
  refine ⟨ref, href, by rw [hwhole], ⟨ref.refusal, by rw [hwhole], ?_⟩, fun rest => ?_⟩
  · cases ref <;> exact ⟨rfl, rfl, rfl⟩
  · rw [hrefused, hwhole]

/-- A list is written exactly when no value in it offends. -/
theorem exists_ok_iff (hscreens : Screens encode offends) :
    (∃ cells, (encodeEach encode values).result = .ok cells) ↔
      ∀ v ∈ values, offends v = false := by
  constructor
  · rintro ⟨cells, hcells⟩
    rw [← List.findIdx?_eq_none_iff]
    cases hfirst : values.findIdx? offends with
    | none => rfl
    | some i =>
        obtain ⟨ref, hrefused⟩ := hscreens.refusedFor hfirst
        rw [hrefused.result_eq] at hcells
        cases hcells
  · intro hnone
    exact ⟨_, congrArg Logged.result (hscreens.encodeEach_of_none hnone)⟩

/-- So encoding lists stops at the first value that offends. -/
theorem stopsAtFirst (hscreens : Screens encode offends) :
    StopsAtFirst encode (encodeEach encode) offends where
  ok_iff values := hscreens.exists_ok_iff
  pointwise values cells hcells := by
    have hnone := hscreens.exists_ok_iff.1 ⟨cells, hcells⟩
    have hwhole := hscreens.encodeEach_of_none hnone
    rw [hwhole] at hcells ⊢
    cases hcells
    refine ⟨?_, rfl⟩
    rw [List.map_map]
    exact List.map_congr_left fun v hv => by rw [hscreens.accepts v (hnone v hv)]; rfl
  refused values e he := by
    cases hfirst : values.findIdx? offends with
    | none =>
        rw [hscreens.encodeEach_of_none (List.findIdx?_eq_none_iff.1 hfirst)] at he
        cases he
    | some i =>
        obtain ⟨ref, hrefused⟩ := hscreens.refusedFor hfirst
        exact ⟨i, ref, rfl, hrefused⟩

end Screens

namespace Registry

variable {α : Type u}

/-- What offends the plain encoder offends the encoder of a registry. -/
theorem not_admits_of_isReleased {r : Registry α} {v : Value} (hv : v.isReleased = true) :
    (!r.admits v) = true := by
  rw [admits_eq_false_iff.2 (Or.inl hv)]
  rfl

/-- What a registry encodes, the plain encoder encodes to the same cells. -/
theorem encodeAll_of_encodeAllChecked {r : Registry α} {values : List Value} {cells : List Cell}
    (hcells : (r.encodeAllChecked values).result = .ok cells) :
    Value.encodeAll values = r.encodeAllChecked values := by
  have hchecked := r.screens_encodeChecked
  have hnone := hchecked.exists_ok_iff.1 ⟨cells, hcells⟩
  have hnone' : ∀ v ∈ values, v.isReleased = false := by
    intro v hv
    refine Bool.eq_false_iff.2 fun hreleased => ?_
    exact Bool.eq_false_iff.1 (hnone v hv) (not_admits_of_isReleased hreleased)
  exact (Value.screens_encode.encodeEach_of_none hnone').trans
    (hchecked.encodeEach_of_none hnone).symm

/-- The encoder of a registry for lists and the plain one both stop at the first value that offends.
To a registry the values that offend are the released references and the live ones whose handle is
not registered, and to the plain encoder the released ones alone. What the registry encodes, the
plain encoder encodes to the same cells. The first value that offends the plain encoder does not
stand before the first one that offends the registry, and whatever list the plain encoder refuses
the registry refuses too. -/
theorem list_encoding_stops_at_first_offender (r : Registry α) :
    StopsAtFirst r.encodeChecked r.encodeAllChecked (fun v => !r.admits v) ∧
    StopsAtFirst Value.encode Value.encodeAll Value.isReleased ∧
    (∀ v, r.admits v = false ↔
      v.isReleased = true ∨ ∃ h, v = .externref (.live h) ∧ r.contains h = false) ∧
    ∀ values : List Value,
      (∀ cells, (r.encodeAllChecked values).result = .ok cells →
        Value.encodeAll values = r.encodeAllChecked values) ∧
      (∀ i j, values.findIdx? (fun v => !r.admits v) = some i →
        values.findIdx? Value.isReleased = some j → i ≤ j) ∧
      ∀ e, (Value.encodeAll values).result = .error e →
        ∃ e', (r.encodeAllChecked values).result = .error e' := by
  refine ⟨r.screens_encodeChecked.stopsAtFirst, Value.screens_encode.stopsAtFirst,
    fun v => admits_eq_false_iff, fun values => ⟨fun cells => encodeAll_of_encodeAllChecked,
      fun i j hi hj => ?_, fun e he => ?_⟩⟩
  · obtain ⟨-, rfl⟩ := List.findIdx?_eq_some_iff_findIdx_eq.1 hi
    obtain ⟨-, rfl⟩ := List.findIdx?_eq_some_iff_findIdx_eq.1 hj
    exact List.findIdx_le_findIdx fun v _ => not_admits_of_isReleased
  · cases hcells : (r.encodeAllChecked values).result with
    | error e' => exact ⟨e', rfl⟩
    | ok cells =>
        rw [encodeAll_of_encodeAllChecked hcells, hcells] at he
        cases he

/-- A registry in which the handle one is registered. -/
def oneRegistered : Registry HostObject :=
  ⟨⟨#[some .unit], [], 1⟩⟩

/-- A live reference that this registry knows, one that it does not know, and a released one. -/
def knownAbsentReleased : List Value :=
  [.externref (.live ⟨1⟩), .externref (.live ⟨9⟩), .externref (.released ⟨3⟩), .i32 7]

/-- The registry refuses the list for the reference that it does not know, and the plain encoder
refuses it later and for another handle. -/
theorem list_encoding_stops_at_two_places :
    RefusedFor oneRegistered.encodeAllChecked knownAbsentReleased 1 (.live ⟨9⟩) ∧
      RefusedFor Value.encodeAll knownAbsentReleased 2 (.released ⟨3⟩) := by
  obtain ⟨hchecked, hplain, -⟩ := list_encoding_stops_at_first_offender oneRegistered
  obtain ⟨i, ref, hi, hrefused⟩ :=
    hchecked.refused knownAbsentReleased (.releasedReference ⟨9⟩) (by decide)
  obtain ⟨j, ref', hj, hrefused'⟩ :=
    hplain.refused knownAbsentReleased (.releasedReference ⟨3⟩) (by decide)
  cases hi
  cases hj
  cases hrefused.getElem?_eq
  cases hrefused'.getElem?_eq
  exact ⟨hrefused, hrefused'⟩

end Registry

end HostBoundary
