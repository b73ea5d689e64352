import HostBoundary.Boundary

/-!
# The names of registries

Host references, bridges and pointers are names of registries. `Boundary.standsFor?` says which
registry a name stands for, and `Boundary.target?` which registry a call reaches and what the call
is to it. A call that reaches a registry leaves the names, and one that reaches none does to the
names what `Boundary.Renames` says and leaves the registries. All that is proved about names comes
from these two cases.
-/

namespace HostBoundary

universe u v

variable {α : Type u} {κ : Type v}

/-- A name of a registry, by its number among the names of its kind. -/
inductive Name where
  | host (n : Nat)
  | bridge (n : Nat)
  | pointer (n : Nat)
  deriving DecidableEq

namespace BoundaryCall

/-- The name through which a call reaches a registry, and what it is to that registry. A call that
makes or frees a name reaches no registry, and neither does one through a null pointer. -/
def through? : BoundaryCall α κ → Option (Name × AccessCall α κ)
  | .onHost n call => some (.host n, .host call)
  | .onBridge n call => some (.bridge n, .bridge call)
  | .onPointer (some n) call => some (.pointer n, .foreign call)
  | .onPointer none _ | .newRegistry | .newBridge | .newPointer | .bridgeOver _ | .cloneBridge _
  | .registryOf _ | .pointerTo _ | .freePointer _ => none

/-- The kind of name that a call makes, as the name of a number. -/
def makes? : BoundaryCall α κ → Option (Nat → Name)
  | .newRegistry | .registryOf _ => some .host
  | .newBridge | .bridgeOver _ | .cloneBridge _ => some .bridge
  | .newPointer | .pointerTo _ => some .pointer
  | .freePointer _ | .onHost _ _ | .onBridge _ _ | .onPointer _ _ => none

/-- The name for whose registry a call makes another name. -/
def copies? : BoundaryCall α κ → Option Name
  | .bridgeOver n | .pointerTo n => some (.host n)
  | .cloneBridge n | .registryOf n => some (.bridge n)
  | .newRegistry | .newBridge | .newPointer | .freePointer _ | .onHost _ _ | .onBridge _ _
  | .onPointer _ _ => none

/-- Whether a call goes through a pointer or frees it. -/
def usesPointer (p : Nat) : BoundaryCall α κ → Bool
  | .freePointer (some q) | .onPointer (some q) _ => q == p
  | _ => false

end BoundaryCall

namespace Boundary

/-- The position of the registry that a name stands for. A pointer that was set to null when it was
freed stands for none. -/
def standsFor? (b : Boundary α) : Name → Option Nat
  | .host n => b.hosts[n]?
  | .bridge n => b.bridges[n]?
  | .pointer n => b.pointers[n]?.join

/-- The position of the registry that a call reaches, and what the call is to that registry. -/
def target? (b : Boundary α) (call : BoundaryCall α κ) : Option (Nat × AccessCall α κ) :=
  call.through?.bind fun through => (b.standsFor? through.1).map fun i => (i, through.2)

/-- The registry at a position. Where there is none yet, it is the empty registry that the next one
made will be. -/
def registryAt (b : Boundary α) (i : Nat) : Registry α :=
  b.registries[i]?.getD .empty

/-- All of a boundary but what is in its registries. -/
def names (b : Boundary α) : (Array Nat × Array Nat × Array (Option Nat)) × Nat :=
  ((b.hosts, b.bridges, b.pointers), b.registries.size)

/-- Every name stands for a registry that there is. -/
def Named (b : Boundary α) : Prop :=
  ∀ name i, b.standsFor? name = some i → i < b.registries.size

/-- That one boundary is another one with a new name for the registry at a position. -/
structure Adds (b c : Boundary α) (new : Name) (i : Nat) : Prop where
  registries_eq : c.registries = b.registries
  vacant : b.standsFor? new = none
  standsFor?_eq : ∀ name, c.standsFor? name = if name = new then some i else b.standsFor? name
  pointers_size_le : b.pointers.size ≤ c.pointers.size

/-! ## Making and freeing names -/

variable {b c : Boundary α} {name new : Name} {i : Nat}

/-- A host reference is added. -/
theorem adds_addHost (b : Boundary α) (i : Nat) :
    Adds b (b.addHost i).2 (.host b.hosts.size) i where
  registries_eq := rfl
  vacant := Array.getElem?_size
  standsFor?_eq name := by
    cases name with
    | host n =>
        show (b.hosts.push i)[n]? = _
        simp [Array.getElem?_push, standsFor?]
    | bridge n => rfl
    | pointer n => rfl
  pointers_size_le := Nat.le_refl _

/-- A bridge is added. -/
theorem adds_addBridge (b : Boundary α) (i : Nat) :
    Adds b (b.addBridge i).2 (.bridge b.bridges.size) i where
  registries_eq := rfl
  vacant := Array.getElem?_size
  standsFor?_eq name := by
    cases name with
    | host n => rfl
    | bridge n =>
        show (b.bridges.push i)[n]? = _
        simp [Array.getElem?_push, standsFor?]
    | pointer n => rfl
  pointers_size_le := Nat.le_refl _

/-- A pointer is added. -/
theorem adds_addPointer (b : Boundary α) (i : Nat) :
    Adds b (b.addPointer i).2 (.pointer b.pointers.size) i where
  registries_eq := rfl
  vacant := by simp [standsFor?]
  standsFor?_eq name := by
    cases name with
    | host n => rfl
    | bridge n => rfl
    | pointer n =>
        show (b.pointers.push (some i))[n]?.join = _
        rw [Array.getElem?_push]
        by_cases hn : n = b.pointers.size <;> simp [hn, standsFor?]
  pointers_size_le := by simp [addPointer]

/-- A pointer that is freed and set to null stands for nothing, and all other names for what they
stood for. -/
theorem standsFor?_free (b : Boundary α) (p : Nat) (name : Name) :
    (b.free (some p)).standsFor? name =
      if name = .pointer p then none else b.standsFor? name := by
  cases name with
  | host n => rfl
  | bridge n => rfl
  | pointer n =>
      show (b.pointers.setIfInBounds p none)[n]?.join = _
      rw [Array.getElem?_setIfInBounds]
      by_cases hn : p = n
      · subst hn
        by_cases hp : p < b.pointers.size <;> simp [hp]
      · simp [hn, Ne.symm hn, standsFor?]

/-- Before anything is made there is no name. -/
theorem named_empty : (empty : Boundary α).Named := by
  intro name i hname
  cases name <;> simp [standsFor?, empty] at hname

/-- A new name may stand for any registry that there is. -/
theorem Adds.named (hadds : Adds b c new i) (hb : b.Named) (hi : i < b.registries.size) :
    c.Named := by
  intro name k hname
  rw [hadds.standsFor?_eq] at hname
  rw [hadds.registries_eq]
  split at hname
  · cases hname
    exact hi
  · exact hb name k hname

/-- A new name leaves all others. -/
theorem Adds.standsFor? (hadds : Adds b c new i) {k : Nat} (hname : b.standsFor? name = some k) :
    c.standsFor? name = some k := by
  have hne : name ≠ new := by
    rintro rfl
    rw [hadds.vacant] at hname
    cases hname
  rw [hadds.standsFor?_eq, if_neg hne, hname]

/-- Freeing a pointer leaves every name that it leaves standing for a registry that there is. -/
theorem Named.free (hb : b.Named) (pointer : Option Nat) : (b.free pointer).Named := by
  cases pointer with
  | none => exact hb
  | some p =>
      intro name i hname
      rw [standsFor?_free] at hname
      split at hname
      · cases hname
      · exact hb name i hname

/-- Making a registry takes none away. -/
theorem Named.addRegistry (hb : b.Named) : b.addRegistry.2.Named := by
  intro name i hname
  show i < (b.registries.push .empty).size
  rw [Array.size_push]
  exact Nat.lt_succ_of_lt (hb name i hname)

/-- What names stand for, and which registries there are, depends on `names` alone. -/
theorem standsFor?_congr (hnames : b.names = c.names) (name : Name) :
    b.standsFor? name = c.standsFor? name := by
  simp only [names, Prod.mk.injEq] at hnames
  obtain ⟨⟨hhosts, hbridges, hpointers⟩, -⟩ := hnames
  cases name with
  | host n => rw [standsFor?, standsFor?, hhosts]
  | bridge n => rw [standsFor?, standsFor?, hbridges]
  | pointer n => rw [standsFor?, standsFor?, hpointers]

/-! ## What a call may do to the names -/

variable {call : BoundaryCall α κ} {access : AccessCall α κ}

/-- What a call that reaches no registry may do to a boundary: nothing, free a pointer, or make a
name, for a registry that there was or for a new one. -/
inductive Renames (b : Boundary α) (call : BoundaryCall α κ) : Boundary α → Prop where
  | nothing : b.Renames call b
  | free {pointer : Option Nat} (hcall : call = .freePointer pointer) :
      b.Renames call (b.free pointer)
  | copy {c : Boundary α} {new : Name} {i : Nat} (hi : i < b.registries.size)
      (hadds : Adds b c new i) : b.Renames call c
  | make {c : Boundary α} {new : Name} (hadds : Adds b.addRegistry.2 c new b.registries.size) :
      b.Renames call c

namespace Renames

/-- Naming leaves the registries that there are. -/
theorem registryAt_eq (hc : b.Renames call c) (i : Nat) : c.registryAt i = b.registryAt i := by
  cases hc with
  | nothing => rfl
  | @free pointer hcall => cases pointer <;> rfl
  | copy hi hadds => rw [registryAt, hadds.registries_eq, registryAt]
  | make hadds =>
      rw [registryAt, hadds.registries_eq, registryAt]
      show (b.registries.push .empty)[i]?.getD .empty = b.registries[i]?.getD .empty
      rw [Array.getElem?_push]
      split
      · next hi => simp [hi]
      · rfl

/-- Naming keeps names standing for registries. -/
theorem named (hc : b.Renames call c) (hb : b.Named) : c.Named := by
  cases hc with
  | nothing => exact hb
  | @free pointer hcall => exact hb.free pointer
  | copy hi hadds => exact hadds.named hb hi
  | make hadds =>
      refine hadds.named hb.addRegistry ?_
      show b.registries.size < (b.registries.push .empty).size
      rw [Array.size_push]
      exact Nat.lt_succ_self _

/-- Naming takes no pointer away: one that is freed stays, as null. -/
theorem pointers_size_le (hc : b.Renames call c) : b.pointers.size ≤ c.pointers.size := by
  cases hc with
  | nothing => exact Nat.le_refl _
  | @free pointer hcall => cases pointer <;> simp [Boundary.free]
  | copy hi hadds => exact hadds.pointers_size_le
  | make hadds => exact hadds.pointers_size_le

/-- Naming leaves what a name stands for, unless it frees that name. -/
theorem standsFor?_eq (hc : b.Renames call c) (hname : b.standsFor? name = some i)
    (hkept : ∀ p, name = .pointer p → call ≠ .freePointer (some p)) :
    c.standsFor? name = some i := by
  cases hc with
  | nothing => exact hname
  | @free pointer hcall =>
      cases pointer with
      | none => exact hname
      | some p =>
          have hne : name ≠ .pointer p := fun hp => hkept p hp hcall
          rw [standsFor?_free, if_neg hne, hname]
  | copy hi hadds => exact hadds.standsFor? hname
  | make hadds => exact hadds.standsFor? hname

end Renames

/-! ## The registry that a call reaches -/

/-- A call reaches the registry that its name stands for. -/
theorem target?_eq_some_iff : b.target? call = some (i, access) ↔
    ∃ name, call.through? = some (name, access) ∧ b.standsFor? name = some i := by
  rw [target?, Option.bind_eq_some_iff]
  constructor
  · rintro ⟨⟨name, made⟩, hthrough, htarget⟩
    obtain ⟨k, hk, hpair⟩ := Option.map_eq_some_iff.1 htarget
    cases hpair
    exact ⟨name, hthrough, hk⟩
  · rintro ⟨name, hthrough, hname⟩
    exact ⟨(name, access), hthrough, by rw [hname]; rfl⟩

/-- A call reaches a registry that there is. -/
theorem Named.target?_lt (hb : b.Named) (htarget : b.target? call = some (i, access)) :
    i < b.registries.size := by
  obtain ⟨name, -, hname⟩ := target?_eq_some_iff.1 htarget
  exact hb name i hname

/-- Which registry a call reaches depends on the names alone. -/
theorem target?_congr (hnames : b.names = c.names) (call : BoundaryCall α κ) :
    b.target? call = c.target? call := by
  rw [target?, target?]
  congr 1
  funext through
  rw [standsFor?_congr hnames]

variable [HasKind α κ] [DecidableEq κ]

/-- A call that reaches a registry is answered by it. -/
theorem answer_of_target? (htarget : b.target? call = some (i, access)) :
    b.answer call = b.reach (some i) access := by
  obtain ⟨name, hthrough, hname⟩ := target?_eq_some_iff.1 htarget
  cases call with
  | onHost n made =>
      cases hthrough
      exact congrArg (fun target => b.reach target (.host made)) hname
  | onBridge n made =>
      cases hthrough
      exact congrArg (fun target => b.reach target (.bridge made : AccessCall α κ)) hname
  | onPointer pointer made =>
      cases pointer with
      | none => cases hthrough
      | some p =>
          cases hthrough
          have hp : b.pointers[p]? = some (some i) := Option.join_eq_some_iff.1 hname
          simp only [answer, hp]
  | _ => cases hthrough

/-- What a call on a registry leaves of the names is all of them. -/
@[simp]
theorem names_reach (b : Boundary α) (target : Option Nat) (access : AccessCall α κ) :
    (b.reach target access).2.names = b.names := by
  cases target with
  | none => rfl
  | some i => cases hr : b.registries[i]? <;> simp [reach, hr, names]

/-! ## Calls that make or free a name -/

/-- A call that makes a name for the registry of another one adds a name for what that one stands
for. -/
theorem answer_of_copies (b : Boundary α) (hcopies : call.copies? = some name) :
    ∃ add make, call.makes? = some make ∧
      (∀ i, ∃ n, (add b i).1 = .quiet (.index n) ∧ Adds b (add b i).2 (make n) i) ∧
      b.answer call = b.addAlias (b.standsFor? name) add := by
  cases call with
  | bridgeOver host =>
      cases hcopies
      exact ⟨addBridge, .bridge, rfl, fun i => ⟨_, rfl, adds_addBridge b i⟩, rfl⟩
  | cloneBridge bridge =>
      cases hcopies
      exact ⟨addBridge, .bridge, rfl, fun i => ⟨_, rfl, adds_addBridge b i⟩, rfl⟩
  | registryOf bridge =>
      cases hcopies
      exact ⟨addHost, .host, rfl, fun i => ⟨_, rfl, adds_addHost b i⟩, rfl⟩
  | pointerTo host =>
      cases hcopies
      exact ⟨addPointer, .pointer, rfl, fun i => ⟨_, rfl, adds_addPointer b i⟩, rfl⟩
  | _ => cases hcopies

/-- If the name that is copied stands for a registry, so does the new one, and for the same. -/
theorem adds_of_copies {make : Nat → Name} (hmakes : call.makes? = some make)
    (hcopies : call.copies? = some name) (hname : b.standsFor? name = some i) :
    ∃ n, (b.answer call).1 = .quiet (.index n) ∧ Adds b (b.answer call).2 (make n) i := by
  obtain ⟨add, make', hmakes', hadd, hanswer⟩ := answer_of_copies b hcopies
  rw [hmakes] at hmakes'
  cases hmakes'
  rw [hanswer, hname]
  exact hadd i

/-- Any other call that makes a name makes it for a new registry. -/
theorem adds_of_makes {make : Nat → Name} (hmakes : call.makes? = some make)
    (hcopies : call.copies? = none) :
    ∃ n, (b.answer call).1 = .quiet (.index n) ∧
      Adds b.addRegistry.2 (b.answer call).2 (make n) b.registries.size := by
  cases call with
  | newRegistry =>
      cases hmakes
      exact ⟨_, rfl, adds_addHost b.addRegistry.2 _⟩
  | newBridge =>
      cases hmakes
      exact ⟨_, rfl, adds_addBridge b.addRegistry.2 _⟩
  | newPointer =>
      cases hmakes
      exact ⟨_, rfl, adds_addPointer b.addRegistry.2 _⟩
  | bridgeOver | cloneBridge | registryOf | pointerTo => cases hcopies
  | freePointer | onHost | onBridge | onPointer => cases hmakes

/-- A call that reaches no registry does to the names one of the things that it may do. -/
theorem Named.renames (hb : b.Named) (htarget : b.target? call = none) :
    b.Renames call (b.answer call).2 := by
  have hunnamed : ∀ {name : Name} {made : AccessCall α κ},
      call.through? = some (name, made) → b.standsFor? name = none := by
    intro name made hthrough
    rw [target?, hthrough] at htarget
    exact Option.map_eq_none_iff.1 htarget
  cases hmakes : call.makes? with
  | some make =>
      cases hcopies : call.copies? with
      | none =>
          obtain ⟨n, -, hadds⟩ := adds_of_makes (b := b) hmakes hcopies
          exact .make hadds
      | some name =>
          cases hname : b.standsFor? name with
          | none =>
              obtain ⟨add, -, -, -, hanswer⟩ := answer_of_copies b hcopies
              rw [hanswer, hname]
              exact .nothing
          | some i =>
              obtain ⟨n, -, hadds⟩ := adds_of_copies hmakes hcopies hname
              exact .copy (hb name i hname) hadds
  | none =>
      cases call with
      | freePointer pointer => exact .free rfl
      | onHost n made =>
          have hnone : b.hosts[n]? = none := hunnamed rfl
          rw [answer, hnone]
          exact .nothing
      | onBridge n made =>
          have hnone : b.bridges[n]? = none := hunnamed rfl
          rw [answer, hnone]
          exact .nothing
      | onPointer pointer made =>
          cases pointer with
          | none => exact .nothing
          | some p =>
              have hnone : b.pointers[p]?.join = none := hunnamed rfl
              rcases hp : b.pointers[p]? with _ | _ | i
              · simpa only [answer, hp] using Renames.nothing
              · simpa only [answer, hp] using Renames.nothing
              · rw [hp] at hnone
                cases hnone
      | _ => cases hmakes

/-! ## What every call keeps -/

/-- Which names there are after a call depends on the names alone. -/
theorem names_answer_congr (hnames : b.names = c.names) (call : BoundaryCall α κ) :
    (b.answer call).2.names = (c.answer call).2.names := by
  have hreach : ∀ target access,
      (b.reach target access).2.names = (c.reach target access).2.names := by
    intro target access
    rw [names_reach, names_reach, hnames]
  have halias : ∀ (position : Option Nat) {add : Boundary α → Nat → Logged (Reply α) × Boundary α},
      (∀ i, (add b i).2.names = (add c i).2.names) →
        (b.addAlias position add).2.names = (c.addAlias position add).2.names := by
    intro position add hadd
    cases position with
    | none => exact hnames
    | some i => exact hadd i
  -- The two boundaries have the same names, and their registries differ in what they hold.
  obtain ⟨registries, hosts, bridges, pointers⟩ := b
  obtain ⟨registries', _, _, _⟩ := c
  obtain ⟨⟨rfl, rfl, rfl⟩, hsize : registries.size = registries'.size⟩ := by
    simpa only [names, Prod.mk.injEq] using hnames
  cases call with
  | newRegistry => simp [answer, addRegistry, addHost, names, hsize]
  | newBridge => simp [answer, addRegistry, addBridge, names, hsize]
  | newPointer => simp [answer, addRegistry, addPointer, names, hsize]
  | bridgeOver host => exact halias _ fun i => by simp [addBridge, names, hsize]
  | cloneBridge bridge => exact halias _ fun i => by simp [addBridge, names, hsize]
  | registryOf bridge => exact halias _ fun i => by simp [addHost, names, hsize]
  | pointerTo host => exact halias _ fun i => by simp [addPointer, names, hsize]
  | freePointer pointer => cases pointer <;> simp [answer, free, names, hsize]
  | onHost host made => exact hreach _ _
  | onBridge bridge made => exact hreach _ _
  | onPointer pointer made =>
      cases pointer with
      | none => exact hnames
      | some p =>
          rcases hp : pointers[p]? with _ | _ | i
          · simpa only [answer, hp] using hnames
          · simpa only [answer, hp] using hnames
          · simpa only [answer, hp] using hreach _ _

/-- Every call keeps names standing for registries. -/
theorem Named.answer (hb : b.Named) (call : BoundaryCall α κ) : (b.answer call).2.Named := by
  cases htarget : b.target? call with
  | none => exact (hb.renames htarget).named hb
  | some target =>
      have hnames := names_reach b (some target.1) target.2
      rw [answer_of_target? htarget]
      intro name i hname
      rw [standsFor?_congr hnames] at hname
      exact Nat.lt_of_lt_of_eq (hb name i hname) (congrArg Prod.snd hnames).symm

/-- In every run from the empty boundary names stand for registries. -/
theorem named_run (calls : List (BoundaryCall α κ)) : (empty.run calls).2.Named :=
  run_invariant Named calls named_empty fun _ hb call _ => hb.answer call

/-- No call takes a pointer away. -/
theorem Named.pointers_size_le_answer (hb : b.Named) (call : BoundaryCall α κ) :
    b.pointers.size ≤ (b.answer call).2.pointers.size := by
  cases htarget : b.target? call with
  | none => exact (hb.renames htarget).pointers_size_le
  | some target =>
      have hnames := names_reach b (some target.1) target.2
      rw [answer_of_target? htarget]
      exact Nat.le_of_eq (congrArg (fun names => names.1.2.2.size) hnames.symm)

/-- A call leaves what a name stands for, unless it frees that name. -/
theorem Named.standsFor?_answer (hb : b.Named) (hname : b.standsFor? name = some i)
    (hkept : ∀ p, name = .pointer p → call ≠ .freePointer (some p)) :
    (b.answer call).2.standsFor? name = some i := by
  cases htarget : b.target? call with
  | none => exact (hb.renames htarget).standsFor?_eq hname hkept
  | some target => rw [answer_of_target? htarget, standsFor?_congr (names_reach ..), hname]

/-- A run leaves what a name stands for, unless it frees that name. -/
theorem Named.standsFor?_run (hb : b.Named) {calls : List (BoundaryCall α κ)}
    (hname : b.standsFor? name = some i)
    (hkept : ∀ p, name = .pointer p → .freePointer (some p) ∉ calls) :
    (b.run calls).2.standsFor? name = some i := by
  induction calls generalizing b with
  | nil => exact hname
  | cons call calls ih =>
      refine ih (hb.answer call) (hb.standsFor?_answer hname ?_) ?_
      · intro p hp hcall
        exact hkept p hp (hcall ▸ List.mem_cons_self)
      · intro p hp hmem
        exact hkept p hp (List.mem_cons_of_mem call hmem)

end Boundary

end HostBoundary
