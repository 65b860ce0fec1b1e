import Gv8.Boundary.Text
import Gv8.Isolate.Handles

/-! The temporaries of a call: the values that materializeArgs makes of Go arguments, and the
cleanup that releases them.

The caller has entered the isolate and stays inside, and all calls are on its thread: its own
entry decides nothing and is left out. Whether the isolate can be entered for an argument is
free nevertheless. -/

set_option autoImplicit false

namespace Gv8

open Foundation

namespace Owned

inductive Argument where
  | null
  | value (held : Nat)
  | object (held : Nat)
  | function (held : Nat)
  | promise (held : Nat)
  | string (text : Bytes)
  | bool
  | int
  | int64
  | uint32
  | float64
  | bytes
  | unsupported (type : String)

def Argument.held : Argument → Option Nat
  | .value held | .object held | .function held | .promise held => some held
  | _ => none

structure Passed where
  argument : Argument
  /-- Whether the isolate can be entered, where a value has to be made. -/
  enters : Bool

def contextClosed : String := "gv8: context is closed"

section source

variable (decoder : Decoder) (world : Owned)

def inContext (ctx : Nat) (enters : Bool) (body : Nat → Owned × Option Nat) : Except String (Owned × Option Nat) :=
  match world.ensureOpen ctx with
  | none => .error contextClosed
  | some (object, ptr) =>
    if world.isNil object.iso then .error Entry.nilIsolate
    else if enters then .ok (body ptr)
    else .error Entry.alreadyInUse

/-- The constructors of primitives.go for which V8 always has a value. -/
def newPrimitive (ctx : Nat) (enters : Bool) : Except String (Owned × Option Nat) :=
  world.inContext ctx enters fun ptr => (world.adopt ctx (world.heap.wrapValue ptr), some world.values.next)

def newStringValue (ctx : Nat) (enters : Bool) (text : Bytes) : Except String (Owned × Option Nat) :=
  world.inContext ctx enters fun ptr =>
    match Gv8.newStringValue decoder text with
    | some _ => (world.adopt ctx (world.heap.wrapValue ptr), some world.values.next)
    -- Nothing was thrown: `msg` is null, and `valueResult` returns nil and no error.
    | none => ({ world with heap := world.heap.scope ptr }, none)

/-- A value with the cleanup `func() { next.Release() }`, given by its `next`; or with none. -/
def materializeValue (ctx : Nat) (enters : Bool) :
    Argument → Except String (Owned × Option Nat × Option (Option Nat))
  | .null | .bool | .int | .int64 | .uint32 | .float64 | .bytes =>
    (world.newPrimitive ctx enters).map fun (after, next) => (after, next, some next)
  | .string text =>
    (world.newStringValue decoder ctx enters text).map fun (after, next) => (after, next, some next)
  | .value held | .object held | .function held | .promise held => .ok (world, some held, none)
  | .unsupported type => .error ("gv8: unsupported value type " ++ type)

def release : Option Nat → Except Owned Owned
  | none => .ok world
  | some value => world.releaseValue value

def releaseAll (world : Owned) : List (Option Nat) → Except Owned Owned
  | [] => .ok world
  | next :: cleanups => do (← world.release next).releaseAll cleanups

def materializeFrom (ctx : Nat) : List Passed → Owned → List (Option Nat) → List (Option Nat) →
    Owned × Except String (List (Option Nat) × List (Option Nat))
  | [], world, args, cleanups => (world, .ok (args, cleanups))
  | passed :: rest, world, args, cleanups =>
    match world.materializeValue decoder ctx passed.enters passed.argument with
    | .error err => (settle (world.releaseAll cleanups), .error err)
    | .ok (after, next, cleanup) => materializeFrom ctx rest after (args ++ [next]) (cleanups ++ cleanup.toList)

/-- The values, and those that the returned cleanup releases. -/
def materializeArgs (ctx : Nat) (passed : List Passed) : Owned × Except String (List (Option Nat) × List (Option Nat)) :=
  materializeFrom decoder ctx passed world [] []

end source

def OpenTo (world : Owned) (ctx : Nat) : Prop :=
  ∃ object ptr, world.ensureOpen ctx = some (object, ptr) ∧ ¬ world.isNil object.iso = true

def Argument.Refused (decoder : Decoder) : Argument → Prop
  | .string text => Gv8.newStringValue decoder text = none
  | _ => False

def Passed.Fails (passed : Passed) (world : Owned) (ctx : Nat) : Prop :=
  match passed.argument with
  | .unsupported _ => True
  | .value _ | .object _ | .function _ | .promise _ => False
  | _ => passed.enters = false ∨ ¬ world.OpenTo ctx

def Serves (world : Owned) (argument : Argument) (value : Option Nat) : Prop :=
  match argument.held with
  | some held => value = some held
  | none => ∃ made, value = some made ∧ world.values.next ≤ made

def temporaries (passed : List Passed) (args : List (Option Nat)) : List Nat :=
  (passed.zip args).filterMap fun entry => if entry.1.argument.held = none then entry.2 else none

def Entered (native : Native) (ctx id ptr : Nat) : Prop :=
  ∃ cell, native.ctxs.get ctx = some cell ∧ (id, ptr) ∈ cell.values

/-- The tables of handles are the same, in Go and in the native contexts, and so are the handles. -/
structure SameTables (world next : Owned) : Prop where
  tracks : ∀ ctx value, next.Tracks ctx value ↔ world.Tracks ctx value
  tables : ∀ ctx id ptr, Entered next.heap.native ctx id ptr ↔ Entered world.heap.native ctx id ptr
  handles : ∀ ptr, next.heap.native.values.get ptr = world.heap.native.values.get ptr

def handleOf (world : Owned) (value : Nat) : Option Nat := (world.values.get value).bind Value.ptr

/-- A cleanup that found the state `later` and left `last`: the handles that the temporaries had
at first are freed, each once, and no others. -/
structure CleansUp (temps : List Nat) (first later last : Owned) : Prop where
  returned : last.panicked = later.panicked
  freed : ∀ temp ∈ temps, ∃ handle, first.handleOf temp = some handle ∧
    (first.heap.native.values.get handle).isSome ∧ last.heap.native.values.get handle = none
  once : last.heap.native.faults = []
  spared : ∀ ptr, (∀ temp ∈ temps, first.handleOf temp ≠ some ptr) →
    last.heap.native.values.get ptr = later.heap.native.values.get ptr

/-- The caller is inside the isolate of the context, which nobody disposes. -/
def Inside (ctx : Nat) (world : Owned) (event : Event) : Prop :=
  ∀ home, world.contexts.get ctx = some home → ¬ Disposes event home.iso

/-- An error and the tables as they were; or a value for each argument, and a cleanup that frees
what was made, whatever was called and closed before it. -/
def AllOrNothing (decoder : Decoder) (world : Owned) (ctx : Nat) (passed : List Passed) : Prop :=
  match world.materializeArgs decoder ctx passed with
  | (next, .error _) => SameTables world next
  | (next, .ok (args, cleanups)) =>
    List.Forall₂ (fun passed value => Serves world passed.argument value) passed args ∧
    ∀ between later, Run step (Inside ctx) next between later →
      CleansUp (temporaries passed args) next later (settle (later.releaseAll cleanups))

variable {world next start : Owned} {ctx : Nat}

section release

def Home (world : Owned) (ctx : Nat) : Prop := ∃ home, world.contexts.get ctx = some home ∧ ¬ world.Disposed home.iso

-- A temporary stays with its context: what was made for the call is released in the isolate that
-- made it, however much happened in between.
theorem OpenTo.home (inv : world.Invariant) (opened : world.OpenTo ctx) : world.Home ctx := by
  obtain ⟨object, ptr, opened, entered⟩ := opened
  exact ⟨object, (ensureOpen_some opened).1, (inv.entered entered).2.1⟩

theorem releaseValue_none {value home : Nat} {borrowed : Bool} (found : world.values.get value = some ⟨none, home, borrowed⟩) :
    world.releaseValue value = .ok world := by
  simp only [releaseValue, found]

theorem releaseValue_live (inv : world.Invariant) (home : world.Home ctx) {value handle : Nat}
    (found : world.values.get value = some ⟨some handle, ctx, false⟩) :
    ∃ ctxPtr, world.heap.native.Registered ctxPtr handle ∧ world.releaseValue value = .ok
      ({ world.untrackValue ctx value with
          heap := { world.heap with native := world.heap.native.valueRelease handle } }.invalidate value) := by
  obtain ⟨object, isHome, kept⟩ := home
  have entered : ¬ world.isNil object.iso = true := fun nil => kept (inv.disposed_of_nil isHome nil)
  obtain ⟨-, -, object', isHome', ⟨ctxPtr, -, isPtr, registered, -⟩ | ⟨-, disposed⟩⟩ := inv.values value _ handle found rfl
  · obtain rfl := Option.some.inj (isHome.symm.trans isHome')
    obtain ⟨-, -, -, -, own⟩ := (inv.contexts ctx object isHome).1.of_ptr isPtr
    have alive : world.heap.Alive (world.heap.home ctxPtr) := by
      rw [own]
      exact (inv.entered entered).1
    have steady : Steady fun entered => { entered with heap := entered.heap.valueRelease handle }.invalidate value :=
      ⟨fun _ _ _ => rfl, fun _ => rfl, fun _ => rfl⟩
    have idle : ∀ iso, (world.untrackValue ctx value).entry iso = .idle := inv.idle
    refine ⟨ctxPtr, registered, ?_⟩
    simp only [releaseValue, found, Bool.false_eq_true, if_false, isHome, mustEnter, entering_eq idle steady]
    rw [if_neg (show ¬ (world.untrackValue ctx value).isNil object.iso = true from entered)]
    rw [show (world.untrackValue ctx value).heap.valueRelease handle = _ from Heap.valueRelease_eq registered alive]
    rfl
  · obtain rfl := Option.some.inj (isHome.symm.trans isHome')
    exact absurd disposed kept

/-- A temporary and the handle it was made with: it has it still, or the handle was freed. -/
def Pending (world : Owned) (ctx : Nat) (pair : Nat × Nat) : Prop :=
  pair.2 < world.heap.native.values.next ∧ ∃ ptr, world.values.get pair.1 = some ⟨ptr, ctx, false⟩ ∧
    (ptr = some pair.2 ∨ ptr = none ∧ world.heap.native.values.get pair.2 = none)

theorem Home.moves {gone : Nat → Prop} (home : world.Home ctx) (moves : Moves gone world next)
    (inside : ∀ object, world.contexts.get ctx = some object → ¬ gone object.iso) : next.Home ctx := by
  obtain ⟨object, found, kept⟩ := home
  obtain ⟨object', found', iso, -⟩ := moves.contexts ctx object found
  refine ⟨object', found', ?_⟩
  rw [iso]
  exact moves.isolates object.iso (inside object found) kept

theorem Pending.moves {gone : Nat → Prop} {pair : Nat × Nat} (pending : world.Pending ctx pair) (home : world.Home ctx)
    (moves : Moves gone world next) : next.Pending ctx pair := by
  obtain ⟨given, ptr, found, status⟩ := pending
  obtain ⟨object, isHome, kept⟩ := home
  have given' : pair.2 < next.heap.native.values.next := Nat.lt_of_lt_of_le given moves.natives.next_le
  obtain ⟨ptr', found', same | ⟨lost, freed⟩⟩ := moves.wrappers pair.1 _ found
  · refine ⟨given', ptr', found', ?_⟩
    rcases status with live | ⟨lost, freed⟩
    · exact .inl (same.trans live)
    · exact .inr ⟨same.trans lost, moves.natives.gone pair.2 given freed⟩
  · refine ⟨given', ptr', found', .inr ⟨lost, ?_⟩⟩
    -- It lost its handle on the way: with the handle it had, or with none any more.
    rcases status with live | ⟨-, before⟩
    · exact freed object isHome kept pair.2 live
    · exact moves.natives.gone pair.2 given before

/-- What is pending stays so whatever is called, as long as the isolate is not disposed. -/
theorem pending_run {between : List Event} (run : Run step (Inside ctx) world between next) (inv : world.Invariant)
    (listed : world.Listed) (home : world.Home ctx) :
    next.Invariant ∧ next.Home ctx ∧ ∀ pair, world.Pending ctx pair → next.Pending ctx pair := by
  induction run with
  | nil => exact ⟨inv, home, fun _ => id⟩
  | cons inside taken _ ih =>
    have moves := Moves.step inv listed taken
    obtain ⟨inv', home', kept⟩ := ih (inv.step taken) (moves.listed listed) (home.moves moves inside)
    exact ⟨inv', home', fun pair pending => kept pair (pending.moves home moves)⟩

theorem release_pending (inv : world.Invariant) (home : world.Home ctx) {pair : Nat × Nat}
    (pending : world.Pending ctx pair) :
    ∃ next, world.releaseValue pair.1 = .ok next ∧ next.panicked = world.panicked ∧
      ∀ ptr, next.heap.native.values.get ptr = if ptr = pair.2 then none else world.heap.native.values.get ptr := by
  obtain ⟨-, ptr, found, rfl | ⟨rfl, freed⟩⟩ := pending
  · obtain ⟨ctxPtr, ⟨id, -, cell⟩, same⟩ := releaseValue_live inv home found
    exact ⟨_, same, rfl, inv.sound.wellFormed.valueRelease_get cell⟩
  · refine ⟨world, releaseValue_none found, rfl, fun ptr => ?_⟩
    split
    · next same => rw [same, freed]
    · rfl

theorem releaseAll_pending (inv : world.Invariant) (home : world.Home ctx) {cleanups : List (Option Nat)}
    {pairs : List (Nat × Nat)} (same : cleanups.reduceOption = pairs.map Prod.fst)
    (pending : ∀ pair ∈ pairs, world.Pending ctx pair) :
    ∃ last, world.releaseAll cleanups = .ok last ∧ last.Invariant ∧ last.panicked = world.panicked ∧
      ∀ ptr, last.heap.native.values.get ptr =
        if ptr ∈ pairs.map Prod.snd then none else world.heap.native.values.get ptr := by
  induction cleanups generalizing world pairs with
  | nil =>
    obtain rfl := List.map_eq_nil_iff.mp same.symm
    exact ⟨world, rfl, inv, rfl, fun ptr => by simp⟩
  | cons next cleanups ih =>
    cases next with
    | none => exact ih inv home same pending
    | some value =>
      cases pairs with
      | nil => cases same
      | cons pair pairs =>
        obtain ⟨rfl, rest⟩ := List.cons.inj same
        obtain ⟨first, later⟩ := List.forall_mem_cons.mp pending
        obtain ⟨middle, released, panicked, handles⟩ := release_pending inv home first
        have inv' : middle.Invariant := by
          have kept := inv.releaseValue pair.1
          rwa [released] at kept
        have moves : Moves (fun _ => False) world middle := by
          have moved : Moves (fun _ => False) world (settle (world.releaseValue pair.1)) := moves_releaseValue inv pair.1
          rwa [released] at moved
        obtain ⟨last, run, inv'', panicked', handles'⟩ := ih inv' (home.moves moves fun _ _ => id) rest
          fun other member => (later other member).moves home moves
        refine ⟨last, ?_, inv'', panicked'.trans panicked, fun ptr => ?_⟩
        · change (world.releaseValue pair.1 >>= fun next => next.releaseAll cleanups) = _
          rw [released]
          exact run
        · rw [handles', handles]
          by_cases here : ptr = pair.2 <;> by_cases there : ptr ∈ pairs.map Prod.snd <;> simp [here, there]

end release

section conversion

theorem openTo_modify {dropped : Nat → Prop} {change : Context → Context} (learns : Learns dropped change)
    (target ctx : Nat) : OpenTo { world with contexts := world.contexts.modify target change } ctx ↔ world.OpenTo ctx := by
  constructor
  · rintro ⟨object, ptr, opened, entered⟩
    obtain ⟨found, isOpen, points⟩ := ensureOpen_some opened
    obtain ⟨old, was, -, samePtr, sameIso, sameClosed⟩ := learns.get found
    refine ⟨old, ptr, ?_, by rw [← sameIso]; exact entered⟩
    simp [ensureOpen, was, ← sameClosed, isOpen, ← samePtr, points]
  · rintro ⟨object, ptr, opened, entered⟩
    obtain ⟨found, isOpen, points⟩ := ensureOpen_some opened
    obtain ⟨new, isNew, -, samePtr, sameIso, sameClosed, -⟩ := learns.get_old target found
    refine ⟨new, ptr, ?_, by rw [sameIso]; exact entered⟩
    simp [ensureOpen, isNew, sameClosed, isOpen, samePtr, points]

/-- From `start` on the call has made these temporaries, each with its handle, and changed
nothing else in the tables. -/
structure Adds (start world : Owned) (ctx : Nat) (temps : List (Nat × Nat)) : Prop where
  inv : world.Invariant
  listed : world.Listed
  older : start.values.next ≤ world.values.next
  opened : world.OpenTo ctx ↔ start.OpenTo ctx
  usable : temps ≠ [] → start.OpenTo ctx
  live : ∀ pair ∈ temps, world.values.get pair.1 = some ⟨some pair.2, ctx, false⟩
  fresh : ∀ pair ∈ temps, start.values.next ≤ pair.1 ∧ start.heap.native.values.get pair.2 = none
  nodup : (temps.map Prod.fst).Nodup
  tracks : ∀ other value, world.Tracks other value ↔ start.Tracks other value ∨ other = ctx ∧ value ∈ temps.map Prod.fst
  handles : ∀ ptr, ptr ∉ temps.map Prod.snd → world.heap.native.values.get ptr = start.heap.native.values.get ptr

variable {temps : List (Nat × Nat)}

theorem Adds.nil (inv : start.Invariant) (listed : start.Listed) : Adds start start ctx [] where
  inv := inv
  listed := listed
  older := Nat.le_refl _
  opened := Iff.rfl
  usable nonempty := absurd rfl nonempty
  live := nofun
  fresh := nofun
  nodup := List.nodup_nil
  tracks _ _ := by simp
  handles _ _ := rfl

theorem Adds.make (adds : Adds start world ctx temps) {object : Context} {ptr : Nat}
    (opened : world.ensureOpen ctx = some (object, ptr)) (entered : ¬ world.isNil object.iso = true) :
    Adds start (world.adopt ctx (world.heap.wrapValue ptr)) ctx (temps ++ [(world.values.next, world.heap.native.values.next)]) := by
  have moves : Moves (fun _ => False) world (world.adopt ctx (world.heap.wrapValue ptr)) := moves_adopt adds.inv opened entered
  have inv := adds.inv.adopt opened entered
  obtain ⟨found, isOpen, -⟩ := ensureOpen_some opened
  obtain ⟨live, alive, values⟩ := adds.inv.opened opened entered
  have usable : world.OpenTo ctx := ⟨object, ptr, opened, entered⟩
  rw [adopt_eq found isOpen values, Heap.wrapValue_eq live alive] at moves inv ⊢
  obtain ⟨cell, isCell⟩ := Option.isSome_iff_exists.mp live
  obtain ⟨-, handles, -⟩ := Native.wrapValue_eq isCell
  have new : (world.values.next, world.heap.native.values.next).1 ∉ temps.map Prod.fst := by
    intro member
    obtain ⟨pair, isPair, same⟩ := List.mem_map.mp member
    have given := adds.live pair isPair
    rw [same, world.values.get_next] at given
    cases given
  have newHandle : world.heap.native.values.next ∉ temps.map Prod.snd := by
    intro member
    obtain ⟨pair, isPair, same⟩ := List.mem_map.mp member
    have given := (adds.inv.values pair.1 _ pair.2 (adds.live pair isPair) rfl).2.1
    exact absurd given (by rw [same]; exact Nat.lt_irrefl _)
  constructor
  case inv => exact inv
  case listed => exact moves.listed adds.listed
  case older => exact Nat.le_succ_of_le adds.older
  case opened => exact (openTo_modify (learns_track world.values.next) ctx ctx).trans adds.opened
  case usable => exact fun _ => adds.opened.mp usable
  case live =>
    intro pair member
    rcases List.mem_append.mp member with old | new
    · exact world.values.get_alloc_of_get _ (adds.live pair old)
    · obtain rfl := List.mem_singleton.mp new
      exact world.values.get_alloc_next _
  case fresh =>
    intro pair member
    rcases List.mem_append.mp member with old | new
    · exact adds.fresh pair old
    · obtain rfl := List.mem_singleton.mp new
      exact ⟨adds.older, (adds.handles _ newHandle).symm.trans world.heap.native.values.get_next⟩
  case nodup =>
    rw [List.map_append, List.map_singleton, List.nodup_append_comm, List.singleton_append, List.nodup_cons]
    exact ⟨new, adds.nodup⟩
  case tracks =>
    intro other value
    refine (@tracks_track world world.contexts ctx world.values.next _ found values other value).trans ?_
    refine (or_congr_left (adds.tracks other value)).trans ?_
    rw [List.map_append, List.map_singleton, List.mem_append, List.mem_singleton, and_or_left, or_assoc]
  case handles =>
    intro other absent
    rw [List.map_append, List.map_singleton, List.mem_append, List.mem_singleton, not_or] at absent
    refine (handles other).trans ?_
    rw [if_neg absent.2]
    exact adds.handles other absent.1

theorem Adds.release {pair : Nat × Nat} (adds : Adds start world ctx (pair :: temps)) (listed : start.Listed) :
    ∃ next, world.releaseValue pair.1 = .ok next ∧ Adds start next ctx temps := by
  have usable : world.OpenTo ctx := adds.opened.mpr (adds.usable (List.cons_ne_nil _ _))
  have home := usable.home adds.inv
  obtain ⟨absent, nodup⟩ := List.nodup_cons.mp adds.nodup
  obtain ⟨ctxPtr, ⟨id, -, cell⟩, same⟩ := releaseValue_live adds.inv home (adds.live pair List.mem_cons_self)
  have inv := adds.inv.releaseValue pair.1
  have moves : Moves (fun _ => False) world (settle (world.releaseValue pair.1)) := moves_releaseValue adds.inv pair.1
  rw [same] at inv moves
  refine ⟨_, same, ?_⟩
  constructor
  case inv => exact inv
  case listed => exact moves.listed adds.listed
  case older => exact adds.older
  case opened => exact (openTo_modify (learns_untrack pair.1) ctx ctx).trans adds.opened
  case usable => exact fun _ => adds.usable (List.cons_ne_nil _ _)
  case live =>
    intro other member
    have differ : other.1 ≠ pair.1 := by
      rintro same
      exact absent (List.mem_map.mpr ⟨other, member, same⟩)
    exact (Pool.get_modify_of_ne _ differ _).trans (adds.live other (.tail _ member))
  case fresh => exact fun other member => adds.fresh other (.tail _ member)
  case nodup => exact nodup
  case tracks =>
    intro other value
    refine (tracks_untrack world ctx pair.1 other value).trans ?_
    rw [adds.tracks]
    constructor
    · rintro ⟨before | ⟨rfl, member⟩, differ⟩
      · exact .inl before
      · rcases List.mem_cons.mp member with rfl | later
        · exact absurd ⟨rfl, rfl⟩ differ
        · exact .inr ⟨rfl, later⟩
    · rintro (before | ⟨rfl, member⟩)
      · refine ⟨.inl before, ?_⟩
        rintro ⟨rfl, rfl⟩
        -- what was tracked before the call is older
        obtain ⟨held, found, -⟩ := listed _ _ before
        exact absurd (Pool.lt_next_of_get _ found) (Nat.not_lt.mpr (adds.fresh pair List.mem_cons_self).1)
      · exact ⟨.inr ⟨rfl, .tail _ member⟩, fun same => absent (same.2 ▸ member)⟩
  case handles =>
    intro ptr spared
    refine (adds.inv.sound.wellFormed.valueRelease_get cell ptr).trans ?_
    split
    · next same =>
      rw [same]
      exact (adds.fresh pair List.mem_cons_self).2.symm
    · next differ => exact adds.handles ptr (by rw [List.map_cons, List.mem_cons, not_or]; exact ⟨differ, spared⟩)

theorem entered_iff {native : Native} (wellFormed : native.WellFormed) (ctx id ptr : Nat) :
    Entered native ctx id ptr ↔ native.values.get ptr = some ⟨id, ctx⟩ ∧ id ≠ 0 := by
  constructor
  · rintro ⟨cell, found, member⟩
    obtain ⟨held, positive, -⟩ := wellFormed.registered ctx cell found id ptr member
    exact ⟨held, Nat.ne_of_gt positive⟩
  · rintro ⟨held, tracked⟩
    exact wellFormed.tracked ptr ⟨id, ctx⟩ held tracked

theorem Adds.sameTables (adds : Adds start world ctx []) (inv : start.Invariant) : SameTables start world where
  tracks other value := by
    rw [adds.tracks]
    simp
  tables other id ptr := by
    rw [entered_iff adds.inv.sound.wellFormed, entered_iff inv.sound.wellFormed, adds.handles ptr List.not_mem_nil]
  handles ptr := adds.handles ptr List.not_mem_nil

theorem Adds.rollback (adds : Adds start world ctx temps) (inv : start.Invariant) (listed : start.Listed)
    {cleanups : List (Option Nat)} (same : cleanups.reduceOption = temps.map Prod.fst) :
    SameTables start (settle (world.releaseAll cleanups)) := by
  induction cleanups generalizing world temps with
  | nil =>
    obtain rfl := List.map_eq_nil_iff.mp same.symm
    exact adds.sameTables inv
  | cons next cleanups ih =>
    cases next with
    | none => exact ih adds same
    | some value =>
      cases temps with
      | nil => cases same
      | cons pair temps =>
        obtain ⟨rfl, rest⟩ := List.cons.inj same
        obtain ⟨middle, released, adds'⟩ := adds.release listed
        change SameTables start (settle (world.releaseValue pair.1 >>= fun next => next.releaseAll cleanups))
        rw [released]
        exact ih adds' rest

variable {decoder : Decoder}

theorem inContext_of_open {object : Context} {ptr : Nat} {enters : Bool} (opened : world.ensureOpen ctx = some (object, ptr))
    (entered : ¬ world.isNil object.iso = true) (allowed : enters = true) (body : Nat → Owned × Option Nat) :
    world.inContext ctx enters body = .ok (body ptr) := by
  simp only [inContext, opened]
  rw [if_neg entered, if_pos allowed]

theorem inContext_error {enters : Bool} (refused : enters = false ∨ ¬ world.OpenTo ctx) (body : Nat → Owned × Option Nat) :
    ∃ err, world.inContext ctx enters body = .error err := by
  unfold inContext
  cases opened : world.ensureOpen ctx with
  | none => exact ⟨_, rfl⟩
  | some found =>
    obtain ⟨object, ptr⟩ := found
    simp only
    split
    · exact ⟨_, rfl⟩
    · next entered =>
      have shut : enters = false := refused.resolve_right fun never => never ⟨object, ptr, opened, entered⟩
      exact ⟨_, if_neg (by rw [shut]; exact Bool.false_ne_true)⟩

/-- What becomes of an argument: an error, the caller's own value, a temporary, or no value. -/
theorem materializeValue_cases (inv : world.Invariant) (passed : Passed) :
    (passed.Fails world ctx ∧ ∃ err, world.materializeValue decoder ctx passed.enters passed.argument = .error err) ∨
    ¬ passed.Fails world ctx ∧
      ((∃ held, passed.argument.held = some held ∧ ¬ passed.argument.Refused decoder ∧
          world.materializeValue decoder ctx passed.enters passed.argument = .ok (world, some held, none)) ∨
        passed.argument.held = none ∧
          ((¬ passed.argument.Refused decoder ∧ ∃ object ptr, world.ensureOpen ctx = some (object, ptr) ∧
            ¬ world.isNil object.iso = true ∧
            world.materializeValue decoder ctx passed.enters passed.argument =
              .ok (world.adopt ctx (world.heap.wrapValue ptr), some world.values.next, some (some world.values.next))) ∨
          passed.argument.Refused decoder ∧
            world.materializeValue decoder ctx passed.enters passed.argument = .ok (world, none, some none))) := by
  obtain ⟨argument, enters⟩ := passed
  by_cases refused : enters = false ∨ ¬ world.OpenTo ctx
  · obtain ⟨err, primitive⟩ := inContext_error refused fun ptr =>
      (world.adopt ctx (world.heap.wrapValue ptr), some world.values.next)
    cases argument with
    | value held | object held | function held | promise held => exact .inr ⟨id, .inl ⟨held, rfl, id, rfl⟩⟩
    | unsupported type => exact .inl ⟨trivial, _, rfl⟩
    | null | bool | int | int64 | uint32 | float64 | bytes =>
      refine .inl ⟨refused, err, ?_⟩
      simp only [materializeValue, newPrimitive, primitive]
      rfl
    | string text =>
      refine .inl ⟨refused, ?_⟩
      obtain ⟨err, failed⟩ := inContext_error refused fun ptr =>
        match Gv8.newStringValue decoder text with
        | some _ => (world.adopt ctx (world.heap.wrapValue ptr), some world.values.next)
        | none => ({ world with heap := world.heap.scope ptr }, none)
      exact ⟨err, by simp only [materializeValue, newStringValue, failed]; rfl⟩
  · obtain ⟨allowed, object, ptr, opened, entered⟩ : enters = true ∧ world.OpenTo ctx := by
      rw [not_or, Bool.not_eq_false, not_not] at refused
      exact refused
    obtain ⟨live, alive, -⟩ := inv.opened opened entered
    cases argument with
    | value held | object held | function held | promise held => exact .inr ⟨id, .inl ⟨held, rfl, id, rfl⟩⟩
    | unsupported type => exact .inl ⟨trivial, _, rfl⟩
    | null | bool | int | int64 | uint32 | float64 | bytes =>
      refine .inr ⟨refused, .inr ⟨rfl, .inl ⟨id, object, ptr, opened, entered, ?_⟩⟩⟩
      simp only [materializeValue, newPrimitive, inContext_of_open opened entered allowed]
      rfl
    | string text =>
      refine .inr ⟨refused, .inr ⟨rfl, ?_⟩⟩
      cases made : Gv8.newStringValue decoder text with
      | some str =>
        refine .inl ⟨by simp [Argument.Refused, made], object, ptr, opened, entered, ?_⟩
        simp only [materializeValue, newStringValue, inContext_of_open opened entered allowed, made]
        rfl
      | none =>
        refine .inr ⟨made, ?_⟩
        simp only [materializeValue, newStringValue, inContext_of_open opened entered allowed, made,
          Heap.scope_eq live alive]
        rfl

theorem fails_congr (same : world.OpenTo ctx ↔ start.OpenTo ctx) (passed : Passed) :
    passed.Fails world ctx ↔ passed.Fails start ctx := by
  obtain ⟨argument, enters⟩ := passed
  cases argument <;> simp only [Passed.Fails, same]

/-- The value of an argument, where V8 may have refused its text. -/
def Gets (decoder : Decoder) (world : Owned) (passed : Passed) (value : Option Nat) : Prop :=
  (passed.argument.Refused decoder → value = none) ∧ (¬ passed.argument.Refused decoder → Serves world passed.argument value)

theorem temporaries_cons (passed : Passed) (rest : List Passed) (value : Option Nat) (values : List (Option Nat)) :
    temporaries (passed :: rest) (value :: values) =
      (if passed.argument.held = none then value else none).toList ++ temporaries rest values := by
  rw [temporaries, List.zip_cons_cons, List.filterMap_cons]
  cases (if passed.argument.held = none then value else none) <;> rfl

theorem materializeFrom_cases (inv : start.Invariant) (listed : start.Listed) (passed : List Passed)
    (adds : Adds start world ctx temps) {cleanups : List (Option Nat)} (same : cleanups.reduceOption = temps.map Prod.fst)
    (args : List (Option Nat)) :
    (∃ next err, materializeFrom decoder ctx passed world args cleanups = (next, .error err) ∧
      SameTables start next ∧ ∃ one ∈ passed, one.Fails start ctx) ∨
    ∃ next values cleanups' temps', materializeFrom decoder ctx passed world args cleanups = (next, .ok (args ++ values, cleanups')) ∧
      (∀ one ∈ passed, ¬ one.Fails start ctx) ∧ List.Forall₂ (Gets decoder start) passed values ∧
      Adds start next ctx temps' ∧ cleanups'.reduceOption = temps'.map Prod.fst ∧
      temps'.map Prod.fst = temps.map Prod.fst ++ temporaries passed values := by
  induction passed generalizing world temps cleanups args with
  | nil =>
    refine .inr ⟨world, [], cleanups, temps, ?_, nofun, .nil, adds, same, ?_⟩
    · rw [List.append_nil, materializeFrom]
    · rw [temporaries, List.zip_nil_left, List.filterMap_nil, List.append_nil]
  | cons first rest ih =>
    -- what the rest comes to, after the first argument got this value
    have go {after : Owned} {next : Option Nat} {cleanup : Option (Option Nat)} (more : List (Nat × Nat))
        (made : world.materializeValue decoder ctx first.enters first.argument = .ok (after, next, cleanup))
        (passes : ¬ first.Fails world ctx) (gets : Gets decoder start first next) (adds' : Adds start after ctx (temps ++ more))
        (cleans : cleanup.toList.reduceOption = more.map Prod.fst)
        (temporary : more.map Prod.fst = (if first.argument.held = none then next else none).toList) :
        (∃ next err, materializeFrom decoder ctx (first :: rest) world args cleanups = (next, .error err) ∧
          SameTables start next ∧ ∃ one ∈ first :: rest, one.Fails start ctx) ∨
        ∃ next values cleanups' temps',
          materializeFrom decoder ctx (first :: rest) world args cleanups = (next, .ok (args ++ values, cleanups')) ∧
          (∀ one ∈ first :: rest, ¬ one.Fails start ctx) ∧ List.Forall₂ (Gets decoder start) (first :: rest) values ∧
          Adds start next ctx temps' ∧ cleanups'.reduceOption = temps'.map Prod.fst ∧
          temps'.map Prod.fst = temps.map Prod.fst ++ temporaries (first :: rest) values := by
      have same' : (cleanups ++ cleanup.toList).reduceOption = (temps ++ more).map Prod.fst := by
        rw [List.reduceOption_append, same, cleans, List.map_append]
      rw [fails_congr adds.opened] at passes
      simp only [materializeFrom, made]
      rcases ih adds' same' (args ++ [next]) with ⟨last, err, run, tables, one, member, fails⟩ |
        ⟨last, values, cleanups', temps', run, pass, all, adds'', same'', temporary'⟩
      · exact .inl ⟨last, err, run, tables, one, .tail _ member, fails⟩
      · refine .inr ⟨last, next :: values, cleanups', temps', ?_, ?_, .cons gets all, adds'', same'', ?_⟩
        · rw [run, List.append_assoc, List.singleton_append]
        · exact List.forall_mem_cons.mpr ⟨passes, pass⟩
        · rw [temporary', temporaries_cons, ← temporary, List.map_append, List.append_assoc]
    rcases @materializeValue_cases world ctx decoder adds.inv first with ⟨fails, err, made⟩ |
      ⟨passes, ⟨held, isHeld, accepted, made⟩ | ⟨unheld, ⟨accepted, object, ptr, opened, entered, made⟩ | ⟨refused, made⟩⟩⟩
    · simp only [materializeFrom, made]
      exact .inl ⟨_, err, rfl, adds.rollback inv listed same, first, .head _, (fails_congr adds.opened first).mp fails⟩
    · apply go [] made passes
      · exact ⟨fun refused => absurd refused accepted, fun _ => by rw [Serves, isHeld]⟩
      · rwa [List.append_nil]
      · rfl
      · rw [isHeld]
        rfl
    · apply go [(world.values.next, world.heap.native.values.next)] made passes
      · exact ⟨fun refused => absurd refused accepted, fun _ => by rw [Serves, unheld]; exact ⟨_, rfl, adds.older⟩⟩
      · exact adds.make opened entered
      · rfl
      · rw [unheld]
        rfl
    · apply go [] made passes
      · exact ⟨fun _ => rfl, fun accepted => absurd refused accepted⟩
      · rwa [List.append_nil]
      · rfl
      · rw [unheld]
        rfl

/-- A refused text gets no value, every other argument gets one. -/
theorem gets_serve_iff {passed : List Passed} {values : List (Option Nat)}
    (all : List.Forall₂ (Gets decoder world) passed values) :
    List.Forall₂ (fun one value => Serves world one.argument value) passed values ↔
      ∀ one ∈ passed, ¬ one.argument.Refused decoder := by
  induction all with
  | nil => exact iff_of_true .nil nofun
  | cons gets _ ih =>
    rename_i one value rest values _
    rw [List.forall₂_cons, List.forall_mem_cons, ih]
    refine and_congr_left fun _ => ⟨?_, gets.2⟩
    intro serves refused
    obtain ⟨argument, enters⟩ := one
    cases argument with
    | string text =>
      obtain ⟨made, same, -⟩ := serves
      rw [gets.1 refused] at same
      cases same
    | _ => exact refused

/-- What the call has made is pending until the cleanup, and freed by it. -/
theorem Adds.cleansUp (adds : Adds start world ctx temps) {cleanups : List (Option Nat)}
    (same : cleanups.reduceOption = temps.map Prod.fst) {between : List Event} {later : Owned}
    (run : Run step (Inside ctx) world between later) :
    CleansUp (temps.map Prod.fst) world later (settle (later.releaseAll cleanups)) := by
  by_cases empty : temps = []
  · subst empty
    have inv : later.Invariant := run.invariant (fun _ _ _ inv _ taken => inv.step taken) adds.inv
    have nothing : ∀ cleanups : List (Option Nat), cleanups.reduceOption = [] → later.releaseAll cleanups = .ok later := by
      intro cleanups none
      induction cleanups with
      | nil => rfl
      | cons next cleanups ih =>
        cases next with
        | none => exact ih none
        | some => cases none
    rw [nothing cleanups same]
    exact ⟨rfl, nofun, inv.sound.faults, fun _ _ => rfl⟩
  -- There is a temporary only if the context was open for it.
  · have home : world.Home ctx := (adds.opened.mpr (adds.usable empty)).home adds.inv
    have pending : ∀ pair ∈ temps, world.Pending ctx pair := fun pair member =>
      ⟨(adds.inv.values pair.1 _ pair.2 (adds.live pair member) rfl).2.1, some pair.2, adds.live pair member, .inl rfl⟩
    have handle : ∀ pair ∈ temps, world.handleOf pair.1 = some pair.2 := by
      intro pair member
      rw [handleOf, adds.live pair member]
      rfl
    obtain ⟨inv', home', kept⟩ := pending_run run adds.inv adds.listed home
    obtain ⟨last, released, inv'', panicked, handles⟩ := releaseAll_pending inv' home' same
      fun pair member => kept pair (pending pair member)
    rw [released]
    constructor
    · exact panicked
    · intro temp member
      obtain ⟨pair, isPair, rfl⟩ := List.mem_map.mp member
      refine ⟨pair.2, handle pair isPair, ?_, ?_⟩
      · obtain ⟨ctxPtr, ⟨id, -, cell⟩, -⟩ := releaseValue_live adds.inv home (adds.live pair isPair)
        rw [cell]
        rfl
      · exact (handles pair.2).trans (if_pos (List.mem_map_of_mem isPair))
    · exact inv''.sound.faults
    · intro ptr other
      refine (handles ptr).trans (if_neg ?_)
      intro member
      obtain ⟨pair, isPair, rfl⟩ := List.mem_map.mp member
      exact other pair.1 (List.mem_map_of_mem isPair) (handle pair isPair)

end conversion

theorem reached_invariant {thread : Nat} {history : List Event}
    (reached : Run step (fun _ _ => True) (initial thread) history world) : world.Invariant ∧ world.Listed := by
  apply reached.invariant _ ⟨initial_invariant thread, initial_listed thread⟩
  rintro before event after ⟨inv, listed⟩ - taken
  exact ⟨inv.step taken, (Moves.step inv listed taken).listed listed⟩

/-- Arguments are all or nothing just where the conversion ends with an error, or V8 refuses
no text. -/
theorem arguments_whole_iff {thread : Nat} {history : List Event}
    (reached : Run step (fun _ _ => True) (initial thread) history world) (decoder : Decoder) (ctx : Nat)
    (passed : List Passed) :
    AllOrNothing decoder world ctx passed ↔
      (∃ one ∈ passed, one.Fails world ctx) ∨ ∀ one ∈ passed, ¬ one.argument.Refused decoder := by
  obtain ⟨inv, listed⟩ := reached_invariant reached
  unfold AllOrNothing materializeArgs
  rcases @materializeFrom_cases world world ctx [] decoder inv listed passed (.nil inv listed) [] rfl [] with
    ⟨next, err, run, tables, fails⟩ | ⟨next, values, cleanups, temps, run, passes, all, adds, same, made⟩
  · rw [run]
    exact iff_of_true tables (.inl fails)
  · rw [run]
    have cleans : ∀ between later, Run step (Inside ctx) next between later →
        CleansUp (temporaries passed values) next later (settle (later.releaseAll cleanups)) := by
      intro between later run
      rw [← made.trans (List.nil_append _)]
      exact adds.cleansUp same run
    refine (and_iff_left cleans).trans ((gets_serve_iff all).trans (or_iff_right ?_).symm)
    rintro ⟨one, member, fails⟩
    exact passes one member fails

/-- A caller's value that is passed twice, with texts and a number between. -/
def mixed : List Passed :=
  [⟨.value 0, true⟩, ⟨.string [], true⟩, ⟨.object 0, true⟩, ⟨.int, true⟩]

theorem arguments_whole_iff_mixed : ∃ world, Run step (fun _ _ => True) (initial 1)
    [.newIsolate, .newContext 0, .createValue 0] world ∧ AllOrNothing .replacing world 0 mixed := by
  obtain ⟨world, run, -⟩ := Run.exists_of_execute (fun _ : Owned => True)
    (Admitted.free step (initial 1) [.newIsolate, .newContext 0, .createValue 0]) (by decide +kernel)
  refine ⟨world, run, (arguments_whole_iff run .replacing 0 mixed).mpr (.inr ?_)⟩
  intro one member
  simp only [mixed, List.mem_cons, List.not_mem_nil, or_false] at member
  rcases member with rfl | rfl | rfl | rfl
  · exact id
  · simp [Argument.Refused, Gv8.newStringValue, newFromUtf8, cString, cInt, kMaxLength]
  · exact id
  · exact id

/-- A text of 2^29 bytes: there is no error, and the only argument is nil. -/
theorem long_text_nil : ∃ world, Run step (fun _ _ => True) (initial 1) [.newIsolate, .newContext 0] world ∧
    (world.materializeArgs .replacing 0 [⟨.string (List.replicate (2 ^ 29) 97), true⟩]).2 = .ok ([none], [none]) ∧
    ¬ AllOrNothing .replacing world 0 [⟨.string (List.replicate (2 ^ 29) 97), true⟩] := by
  obtain ⟨world, run, opened⟩ := Run.exists_of_execute
    (fun final : Owned => (final.ensureOpen 0).map (fun found => final.isNil found.1.iso) = some false)
    (Admitted.free step (initial 1) [.newIsolate, .newContext 0]) (by decide +kernel)
  obtain ⟨⟨object, ptr⟩, opened, entered⟩ := Option.map_eq_some_iff.mp opened
  have refused : Argument.Refused .replacing (.string (List.replicate (2 ^ 29) 97)) := by
    change newFromUtf8 _ _ _ = none
    rw [List.length_replicate, show cInt (2 ^ 29 : Nat) = ((2 ^ 29 : Nat) : Int) from cInt_of_small (by omega),
      newFromUtf8_length]
    refine if_neg ?_
    rw [List.length_take, cString, List.length_append, List.length_replicate, kMaxLength]
    decide
  have inv := (reached_invariant run).1
  have usable : world.OpenTo 0 := ⟨object, ptr, opened, by simp [entered]⟩
  have made : world.materializeValue .replacing 0 true (.string (List.replicate (2 ^ 29) 97)) = .ok (world, none, some none) := by
    rcases @materializeValue_cases world 0 .replacing inv ⟨.string (List.replicate (2 ^ 29) 97), true⟩ with
      ⟨fails, -⟩ | ⟨-, ⟨held, isHeld, -⟩ | ⟨-, ⟨accepted, -⟩ | ⟨-, made⟩⟩⟩
    · exact absurd usable (fails.resolve_left Bool.noConfusion)
    · cases isHeld
    · exact absurd refused accepted
    · exact made
  have whole : world.materializeArgs .replacing 0 [⟨.string (List.replicate (2 ^ 29) 97), true⟩] =
      (world, .ok ([none], [none])) := by
    simp only [materializeArgs, materializeFrom, made]
    rfl
  refine ⟨world, run, by rw [whole], ?_⟩
  unfold AllOrNothing
  rw [whole]
  rintro ⟨serves, -⟩
  obtain ⟨⟨made, same, -⟩, -⟩ := List.forall₂_cons.mp serves
  cases same

end Owned

end Gv8
