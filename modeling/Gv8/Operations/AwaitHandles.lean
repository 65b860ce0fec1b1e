import Gv8.Operations.Await
import Gv8.Operations.Temporaries

/-! What Promise.Await leaves in the tables of handles.

Microtasks, the pump and the conversion of a reason to a string make calls of their own, on
the thread of Await and one after the other. That Await is inside the isolate meanwhile decides
nothing for them, and is left out. -/

set_option autoImplicit false

namespace Gv8.Awaiting

open Foundation
open Operations (GoError bytesOf)
open Owned (Inside Entered)

structure View where
  promise : PromiseState
  terminating : Bool
  done : Option GoError

/-- What is called meanwhile, and what is seen afterwards. -/
structure Doing where
  calls : List Owned.Event
  view : View

/-- The isolate is entered, and nobody else has the wrapper of the value. -/
def Aside (ctx value : Nat) (world : Owned) (event : Owned.Event) : Prop :=
  Inside ctx world event ∧ event ≠ .releaseValue value ∧
    ∀ global, event = .releaseGlobal global → world.globals.get global ≠ some (some value)

/-- What Await calls: microtasks, the pump, a wait, and V8 for the text of a reason. -/
structure Outside (ctx : Nat) where
  performMicrotaskCheckpoint : View → Owned → Doing
  hasContext : Bool
  pump : Option (View → Owned → Doing × Option GoError)
  /-- Whether `select` takes the Go context where the timer is ready too. -/
  wait : View → Owned → Doing × Bool
  stringValue : View → Owned → Nat → List Owned.Event × Except GoError Bytes
  aside : ∀ view world result, Admitted Owned.step (Aside ctx result) world (stringValue view world result).1

structure Point where
  view : View
  world : Owned

structure Returned where
  outcome : Except GoError (Option Nat)
  /-- The world at the end of the loop, that only others have changed. -/
  left : Owned
  /-- The wrappers that Await itself has made, with their handles. -/
  made : List (Nat × Nat)
  world : Owned

inductive Turn where
  | gone
  | returns (returned : Returned)
  | breaks (point : Point)
  | goesOn (point : Point)

section source

/-- The calls one after the other; none where the process is gone. -/
def Doing.after (doing : Doing) (world : Owned) : Option Point :=
  (execute Owned.step world doing.calls).map fun world => ⟨doing.view, world⟩

def isClosed (world : Owned) (ctx : Nat) : Bool :=
  (world.contexts.get ctx).all fun object => object.closed || object.ptr.isNone

def valid (world : Owned) (value : Nat) : Bool :=
  match world.values.get value with
  | none => false
  | some held => held.ptr.isSome && !isClosed world held.ctx

def isoOf (world : Owned) (value : Nat) : Option Nat :=
  (world.values.get value).bind fun held => (world.contexts.get held.ctx).map Owned.Context.iso

/-- A call into the isolate of the value; none is a panic. -/
def entered (world : Owned) (value : Nat) (body : Owned → Owned) : Option Owned := do
  let iso ← isoOf world value
  (world.mustEnter iso body).toOption

variable {ctx : Nat} (out : Outside ctx) (promise : Nat)

def state (point : Point) : Option PromiseState :=
  if valid point.world promise then (entered point.world promise id).map fun _ => point.view.promise
  else some .pending

/-- `Promise.Result`; GV8PromiseResult wraps into the native context of the promise's handle, as
GV8ValueRetain does. -/
def result (world : Owned) : Option (Owned × Option (Nat × Nat)) :=
  if valid world promise then do
    let held ← world.values.get promise
    let ptr ← held.ptr
    let next ← entered world promise fun entered => entered.adopt held.ctx (entered.heap.valueRetain ptr)
    return (next, some (world.values.next, (world.heap.valueRetain ptr).2))
  else some (world, none)

namespace Outside

def convert (view : View) (world : Owned) (value : Nat) : Option (Owned × Except GoError Bytes) :=
  if valid world value then do
    let world ← entered world value id
    let last ← execute Owned.step world (out.stringValue view world value).1
    return (last, (out.stringValue view world value).2)
  else some (world, .error Operations.invalidValueError)

/-- `PerformMicrotaskCheckpoint`, which does nothing in a disposed isolate. -/
def checkpoint (point : Point) : Option Point :=
  if (isoOf point.world promise).all point.world.isNil then some point
  else (out.performMicrotaskCheckpoint point.view point.world).after point.world

def cancelled (view : View) : Option GoError := if out.hasContext then view.done else none

def fails (err : GoError) (world : Owned) : Returned := ⟨.error err, world, [], world⟩

def turnPending (point : Point) : Turn :=
  if !(isoOf point.world promise).all point.world.isNil && point.view.terminating then
    .returns (fails Environment.terminatedError point.world)
  else
    match out.cancelled point.view, out.pump with
    | some err, _ => .returns (fails err point.world)
    | none, some pump =>
      match (pump point.view point.world).1.after point.world, (pump point.view point.world).2 with
      | none, _ => .gone
      | some next, some err => .returns (fails err next.world)
      | some next, none => .goesOn next
    | none, none =>
      match (out.wait point.view point.world).1.after point.world with
      | none => .gone
      | some next =>
        match out.cancelled next.view, (out.wait point.view point.world).2 with
        | some err, true => .returns (fails err next.world)
        | _, _ => .goesOn next

def turn (point : Point) : Turn :=
  if valid point.world promise then
    match out.checkpoint promise point with
    | none => .gone
    | some checked =>
      match state promise checked with
      | none => .gone
      | some .pending => out.turnPending promise checked
      | some _ => .breaks checked
  else .returns (fails Operations.invalidValueError point.world)

def settle (point : Point) : Option Returned := do
  match ← state promise point with
  | .fulfilled =>
    let (next, result) ← result promise point.world
    return ⟨.ok (result.map Prod.fst), point.world, result.toList, next⟩
  | .rejected =>
    let (next, result) ← result promise point.world
    match result with
    | none => return ⟨.error (.js ⟨bytesOf "promise rejected", [], []⟩), point.world, [], next⟩
    | some pair =>
      -- `result` is dropped here: its wrapper is not released on any path
      let (last, text) ← out.convert point.view next pair.1
      return ⟨.error (.js (Environment.rejection text)), point.world, [pair], last⟩
  | .pending => return fails (.plain (bytesOf "promise did not settle")) point.world

def loop : Nat → Point → Option Returned
  | 0, _ => none
  | fuel + 1, point =>
    match out.turn promise point with
    | .gone => none
    | .returns returned => some returned
    | .breaks checked => out.settle promise checked
    | .goesOn next => loop fuel next

def await (fuel : Nat) : Option Nat → Point → Option Returned
  | none, point => some (fails (.plain (bytesOf "gv8: nil promise")) point.world)
  | some promise, point =>
    if valid point.world promise then out.loop promise fuel point
    else some (fails Operations.invalidValueError point.world)

end Outside

end source

/-- The wrapper and its handle are the one thing by which the tables differ. -/
structure AddsOne (left world : Owned) (ctx : Nat) (pair : Nat × Nat) : Prop where
  holds : world.handleOf pair.1 = some pair.2
  fresh : ¬ left.Tracks ctx pair.1
  tracks : ∀ other value, world.Tracks other value ↔ left.Tracks other value ∨ other = ctx ∧ value = pair.1
  missing : left.heap.native.values.get pair.2 = none
  entered : ∃ native id, Entered world.heap.native native id pair.2
  tables : ∀ native id ptr, ptr ≠ pair.2 → (Entered world.heap.native native id ptr ↔ Entered left.heap.native native id ptr)

/-- Neither table has the wrapper or its handle. -/
def Dropped (world : Owned) (ctx : Nat) (pair : Nat × Nat) : Prop :=
  ¬ world.Tracks ctx pair.1 ∧ ∀ native id, ¬ Entered world.heap.native native id pair.2

/-- A value is the one handle that Await adds; with an error it adds none. -/
def Balanced (ctx : Nat) (returned : Returned) : Prop :=
  match returned.outcome with
  | .ok value => ∃ pair, value = some pair.1 ∧ returned.made = [pair] ∧ AddsOne returned.left returned.world ctx pair
  | .error _ => (returned.made = [] → returned.world = returned.left) ∧
      ∀ pair ∈ returned.made, Dropped returned.world ctx pair

inductive Goes {ctx : Nat} (out : Outside ctx) (promise : Nat) : Point → Point → Prop where
  | refl {point : Point} : Goes out promise point point
  | next {point next last : Point} : out.turn promise point = .goesOn next → Goes out promise next last →
      Goes out promise point last

/-- The iteration finds the promise rejected, and no callback of the conversion of its reason
closes the context. -/
def Rejects {ctx : Nat} (out : Outside ctx) (promise : Nat) (point : Point) : Prop :=
  valid point.world promise = true ∧ ∃ checked, out.checkpoint promise point = some checked ∧
    valid checked.world promise = true ∧ checked.view.promise = .rejected ∧
    ∀ next pair, result promise checked.world = some (next, some pair) →
      .close ctx ∉ (out.stringValue checked.view next pair.1).1

/-- Some iteration of the loop does. -/
def LeftRejected {ctx : Nat} (out : Outside ctx) (promise : Nat) (point : Point) : Prop :=
  ∃ last, Goes out promise point last ∧ Rejects out promise last

variable {ctx promise : Nat} {out : Outside ctx} {world next left last : Owned} {point checked : Point}

section conversion

/-- A wrapper that nobody else has stays as it is until its context is closed. -/
theorem get_aside {value : Nat} {calls : List Owned.Event} (run : Run Owned.step (Aside ctx value) world calls last)
    (inv : world.Invariant) (listed : world.Listed) {held : Owned.Value} (found : world.values.get value = some held)
    (home : held.ctx = ctx) (spared : .close ctx ∉ calls) : last.values.get value = some held := by
  induction run with
  | nil => exact found
  | @cons state next final event events admitted taken _ ih =>
    obtain ⟨-, unreleased, unnamed⟩ := admitted
    -- of the calls that take a wrapper's handle, only Close is left
    have kept : ¬ state.Loses value event := by
      cases event with
      | close other =>
        rintro ⟨held', found', rfl⟩
        obtain rfl := Option.some.inj (found.symm.trans found')
        exact spared (home ▸ List.mem_cons_self)
      | releaseValue other =>
        rintro rfl
        exact unreleased rfl
      | releaseGlobal global => exact unnamed global rfl
      | _ => exact id
    have listed' : next.Listed := (Owned.Moves.step inv listed taken).listed listed
    exact ih (inv.step taken) listed' (Owned.get_step inv listed taken kept found) fun later => spared (.tail _ later)

/-- A context that is closed, or that a call closes, is closed in the end. -/
theorem closed_after {admits : Owned → Owned.Event → Prop} {calls : List Owned.Event}
    (run : Run Owned.step admits world calls last) (inv : world.Invariant) (listed : world.Listed) {object : Owned.Context}
    (found : world.contexts.get ctx = some object) (closes : object.closed = true ∨ .close ctx ∈ calls) :
    ∃ object', last.contexts.get ctx = some object' ∧ object'.closed = true := by
  induction run generalizing object with
  | nil => exact ⟨object, found, closes.resolve_right List.not_mem_nil⟩
  | @cons state next final event events admitted taken _ ih =>
    have moves := Owned.Moves.step inv listed taken
    obtain ⟨object', found', -, stays⟩ := moves.contexts ctx object found
    refine ih (inv.step taken) (moves.listed listed) found' ?_
    rcases closes with before | now
    · exact .inl (stays before)
    · rcases List.mem_cons.mp now with rfl | later
      · obtain ⟨closed, isClosed, sealed⟩ := Owned.closed_close inv found
        obtain rfl := Option.some.inj taken
        obtain rfl := Option.some.inj (found'.symm.trans isClosed)
        exact .inl sealed
      · exact .inr later

/-- What becomes of a handle that Await drops without releasing it. -/
theorem dropped_iff {pair : Nat × Nat} {calls : List Owned.Event} (inv : world.Invariant) (listed : world.Listed)
    (home : world.Home ctx) (live : world.values.get pair.1 = some ⟨some pair.2, ctx, false⟩)
    (run : Run Owned.step (Aside ctx pair.1) world calls last) : Dropped last ctx pair ↔ .close ctx ∈ calls := by
  have inside : Run Owned.step (Inside ctx) world calls last := run.weaken fun _ _ => And.left
  have pending : world.Pending ctx pair := ⟨(inv.values pair.1 _ pair.2 live rfl).2.1, some pair.2, live, .inl rfl⟩
  obtain ⟨inv', home', kept⟩ := Owned.pending_run inside inv listed home
  constructor
  · intro dropped
    by_contra spared
    -- the wrapper has its handle still, and so it is registered
    have live' := get_aside run inv listed live rfl spared
    obtain ⟨native, ⟨id, tracked, cell⟩, -⟩ := Owned.releaseValue_live inv' home' live'
    exact dropped.2 native id ((Owned.entered_iff inv'.sound.wellFormed native id pair.2).mpr ⟨cell, tracked⟩)
  · intro closes
    obtain ⟨object, found, -⟩ := home
    obtain ⟨object', found', sealed⟩ := closed_after inside inv listed found (.inr closes)
    rcases (inv'.contexts ctx object' found').1 with ⟨-, noPtr, unlisted, -⟩ | ⟨isOpen, -⟩
    · constructor
      · rintro ⟨object'', known, found'', isKnown, -⟩
        obtain rfl := Option.some.inj (found'.symm.trans found'')
        rw [unlisted] at isKnown
        cases isKnown
      · intro native id present
        obtain ⟨cell, -⟩ := (Owned.entered_iff inv'.sound.wellFormed native id pair.2).mp present
        obtain ⟨-, ptr, isHeld, rfl | ⟨-, freed⟩⟩ := kept pair pending
        -- a wrapper that still had its handle would have an open context
        · obtain ⟨-, -, home'', isHome, ⟨ctxPtr, -, isPtr, -⟩ | ⟨-, disposed⟩⟩ := inv'.values pair.1 _ pair.2 isHeld rfl
          · obtain rfl := Option.some.inj (found'.symm.trans isHome)
            rw [noPtr] at isPtr
            cases isPtr
          · obtain ⟨object'', found'', undisposed⟩ := home'
            obtain rfl := Option.some.inj (found''.symm.trans isHome)
            exact undisposed disposed
        · rw [freed] at cell
          cases cell
    · rw [isOpen] at sealed
      cases sealed

end conversion

section run

/-- The promise is a wrapper of the context, in a world that calls have led to. -/
structure Ready (ctx promise : Nat) (world : Owned) : Prop where
  inv : world.Invariant
  listed : world.Listed
  own : ∃ held, world.values.get promise = some held ∧ held.ctx = ctx

theorem Ready.execute {calls : List Owned.Event} (ready : Ready ctx promise world)
    (done : execute Owned.step world calls = some next) : Ready ctx promise next := by
  have run := Run.of_execute (Admitted.free Owned.step world calls) done
  refine run.invariant ?_ ready
  intro state event next ready _ taken
  obtain ⟨held, found, home⟩ := ready.own
  have moves := Owned.Moves.step ready.inv ready.listed taken
  obtain ⟨ptr, found', -⟩ := moves.wrappers promise held found
  exact ⟨ready.inv.step taken, moves.listed ready.listed, { held with ptr }, found', home⟩

theorem Ready.after {doing : Doing} (ready : Ready ctx promise world) (done : doing.after world = some point) :
    Ready ctx promise point.world := by
  obtain ⟨next, reached, rfl⟩ := Option.map_eq_some_iff.mp done
  exact ready.execute reached

theorem Ready.checkpoint (ready : Ready ctx promise point.world) (done : out.checkpoint promise point = some checked) :
    Ready ctx promise checked.world := by
  unfold Outside.checkpoint at done
  split at done
  · obtain rfl := Option.some.inj done
    exact ready
  · exact ready.after done

/-- A valid wrapper of the context, and the native contexts of both. -/
theorem valid_open {value : Nat} {held : Owned.Value} (inv : world.Invariant) (found : world.values.get value = some held)
    (isValid : valid world value = true) :
    ∃ ptr home ctxPtr, held.ptr = some ptr ∧ world.ensureOpen held.ctx = some (home, ctxPtr) := by
  simp only [valid, found, Bool.and_eq_true, Bool.not_eq_true', isClosed] at isValid
  obtain ⟨points, isOpen⟩ := isValid
  obtain ⟨ptr, points⟩ := Option.isSome_iff_exists.mp points
  cases isHome : world.contexts.get held.ctx with
  | none => simp [isHome] at isOpen
  | some home =>
    rw [isHome] at isOpen
    rcases (inv.contexts held.ctx home isHome).1 with ⟨sealed, -⟩ | ⟨unsealed, -, -, ctxPtr, isPtr, -⟩
    · simp [sealed] at isOpen
    · exact ⟨ptr, home, ctxPtr, points, by simp [Owned.ensureOpen, isHome, unsealed, isPtr]⟩

theorem entered_eq {value : Nat} {held : Owned.Value} {home : Owned.Context} {body : Owned → Owned} (inv : world.Invariant)
    (found : world.values.get value = some held) (isHome : world.contexts.get held.ctx = some home)
    (steady : Owned.Steady body) :
    entered world value body = if world.isNil home.iso then none else some (body world) := by
  have iso : isoOf world value = some home.iso := by rw [isoOf, found, Option.bind_some, isHome, Option.map_some]
  simp only [entered, iso, Option.bind_eq_bind, Option.bind_some, Owned.mustEnter, Owned.entering_eq inv.idle steady]
  split <;> rfl

theorem steady_id : Owned.Steady id := ⟨fun _ _ _ => rfl, fun _ => rfl, fun _ => rfl⟩

/-- A promise that is not pending is valid, and its isolate can be entered. -/
theorem state_settled {status : PromiseState} (ready : Ready ctx promise point.world)
    (told : state promise point = some status) (settled : status ≠ .pending) :
    status = point.view.promise ∧ valid point.world promise = true ∧
    ∃ held ptr home ctxPtr, point.world.values.get promise = some held ∧ held.ctx = ctx ∧ held.ptr = some ptr ∧
      point.world.ensureOpen ctx = some (home, ctxPtr) ∧ ¬ point.world.isNil home.iso = true := by
  obtain ⟨held, found, rfl⟩ := ready.own
  unfold state at told
  split at told
  · next isValid =>
    obtain ⟨ptr, home, ctxPtr, points, opened⟩ := valid_open ready.inv found isValid
    rw [entered_eq ready.inv found (Owned.ensureOpen_some opened).1 steady_id] at told
    split at told
    · cases told
    · next here => exact ⟨(Option.some.inj told).symm, isValid, held, ptr, home, ctxPtr, found, rfl, points, opened, here⟩
  · exact absurd (Option.some.inj told).symm settled

/-- `Promise.Result` of a settled promise: one more handle, and its wrapper. -/
theorem result_settled {status : PromiseState} (ready : Ready ctx promise point.world)
    (told : state promise point = some status) (settled : status ≠ .pending) :
    ∃ next pair, result promise point.world = some (next, some pair) ∧ Owned.Adds point.world next ctx [pair] := by
  obtain ⟨-, isValid, held, ptr, home, ctxPtr, found, rfl, points, opened, here⟩ := state_settled ready told settled
  have registered := ready.inv.registered found points opened here
  obtain ⟨live, alive, -⟩ := ready.inv.opened opened here
  have steady := Owned.steady_adopt held.ctx fun heap => heap.valueRetain ptr
  refine ⟨_, _, ?_, (Owned.Adds.nil ready.inv ready.listed).make opened here⟩
  have run := entered_eq ready.inv found (Owned.ensureOpen_some opened).1 steady
  rw [if_neg here] at run
  simp only [result, isValid, if_true, found, points, Option.bind_eq_bind, Option.bind_some, run,
    Heap.valueRetain_eq registered]
  simp only [Heap.wrapValue_eq live alive]
  rfl

/-- The text of a value that was just made: the conversion's calls, and nothing else. -/
theorem convert_made {view : View} {pair : Nat × Nat} {text : Except GoError Bytes}
    (adds : Owned.Adds left world ctx [pair]) (told : out.convert view world pair.1 = some (last, text)) :
    execute Owned.step world (out.stringValue view world pair.1).1 = some last := by
  have live := adds.live pair List.mem_cons_self
  obtain ⟨home, ctxPtr, opened, here⟩ := adds.opened.mpr (adds.usable (List.cons_ne_nil _ _))
  obtain ⟨isHome, isOpen, isPtr⟩ := Owned.ensureOpen_some opened
  have isValid : valid world pair.1 = true := by simp [valid, live, isClosed, isHome, isOpen, isPtr]
  have inside := entered_eq adds.inv live isHome steady_id
  rw [if_neg here, id] at inside
  simp only [Outside.convert, isValid, if_true, inside, Option.bind_eq_bind, Option.bind_some,
    Option.bind_eq_some_iff] at told
  obtain ⟨reached, run, same⟩ := told
  cases same
  exact run

theorem addsOne {pair : Nat × Nat} (inv : left.Invariant) (listed : left.Listed) (adds : Owned.Adds left world ctx [pair]) :
    AddsOne left world ctx pair := by
  have live := adds.live pair List.mem_cons_self
  obtain ⟨older, missing⟩ := adds.fresh pair List.mem_cons_self
  have home := (adds.opened.mpr (adds.usable (List.cons_ne_nil _ _))).home adds.inv
  obtain ⟨native, ⟨id, tracked, cell⟩, -⟩ := Owned.releaseValue_live adds.inv home live
  constructor
  case holds => rw [Owned.handleOf, live, Option.bind_some]
  case fresh =>
    intro known
    obtain ⟨held, found, -⟩ := listed ctx pair.1 known
    exact absurd (Pool.lt_next_of_get _ found) (Nat.not_lt.mpr older)
  case tracks => simpa using adds.tracks
  case missing => exact missing
  case entered => exact ⟨native, id, (Owned.entered_iff adds.inv.sound.wellFormed native id pair.2).mpr ⟨cell, tracked⟩⟩
  case tables =>
    intro native id ptr differ
    rw [Owned.entered_iff adds.inv.sound.wellFormed, Owned.entered_iff inv.sound.wellFormed,
      adds.handles ptr (by simpa using differ)]

theorem fails_balanced (err : GoError) (world : Owned) : Balanced ctx (Outside.fails err world) :=
  ⟨fun _ => rfl, nofun⟩

/-- The end of Await, in an iteration that found a settled promise. -/
theorem settle_balanced {status : PromiseState} {returned : Returned} (ready : Ready ctx promise point.world)
    (told : state promise point = some status) (settled : status ≠ .pending)
    (returns : out.settle promise point = some returned) :
    Balanced ctx returned ↔ ¬ (point.view.promise = .rejected ∧
      ∀ next pair, result promise point.world = some (next, some pair) →
        .close ctx ∉ (out.stringValue point.view next pair.1).1) := by
  obtain ⟨next, pair, made, adds⟩ := result_settled ready told settled
  obtain ⟨rfl, -⟩ := state_settled ready told settled
  -- nothing runs between the two calls of State, so Result finds the promise as they did
  simp only [Outside.settle, told, made, Option.bind_eq_bind, Option.bind_some] at returns
  cases promised : point.view.promise with
  | pending => exact absurd promised settled
  | fulfilled =>
    rw [promised] at returns
    obtain rfl := Option.some.inj returns
    have balanced : ∃ own : Nat × Nat, some pair.1 = some own.1 ∧ [pair] = [own] ∧ AddsOne point.world next ctx own :=
      ⟨pair, rfl, rfl, addsOne ready.inv ready.listed adds⟩
    exact iff_of_true balanced nofun
  | rejected =>
    simp only [promised, Option.bind_eq_some_iff] at returns
    obtain ⟨⟨last, text⟩, told, same⟩ := returns
    obtain rfl := Option.some.inj same
    have ran := Run.of_execute (out.aside point.view next pair.1) (convert_made adds told)
    have home := (adds.opened.mpr (adds.usable (List.cons_ne_nil _ _))).home adds.inv
    have dropped := dropped_iff adds.inv adds.listed home (adds.live pair List.mem_cons_self) ran
    have balanced : Balanced ctx ⟨.error (.js (Environment.rejection text)), point.world, [pair], last⟩ ↔ Dropped last ctx pair := by
      simp [Balanced]
    rw [balanced, dropped]
    constructor
    · rintro closes ⟨-, spared⟩
      exact spared next pair made closes
    · intro some_close
      by_contra spared
      refine some_close ⟨rfl, ?_⟩
      intro next' pair' made'
      cases made.symm.trans made'
      exact spared

/-- Once it has got past the state of the promise an iteration ends with an error and no handle,
or goes on. -/
theorem turnPending_cases (ready : Ready ctx promise point.world) :
    out.turnPending promise point = .gone ∨
    (∃ err world, out.turnPending promise point = .returns (Outside.fails err world)) ∨
    ∃ next, out.turnPending promise point = .goesOn next ∧ Ready ctx promise next.world := by
  unfold Outside.turnPending
  split
  · exact .inr (.inl ⟨_, _, rfl⟩)
  · split
    · exact .inr (.inl ⟨_, _, rfl⟩)
    · split
      · exact .inl rfl
      · exact .inr (.inl ⟨_, _, rfl⟩)
      · next done _ => exact .inr (.inr ⟨_, rfl, ready.after done⟩)
    · split
      · exact .inl rfl
      · next done =>
        split
        · exact .inr (.inl ⟨_, _, rfl⟩)
        · exact .inr (.inr ⟨_, rfl, ready.after done⟩)

theorem turn_cases (ready : Ready ctx promise point.world) :
    out.turn promise point = .gone ∨
    (∃ err world, out.turn promise point = .returns (Outside.fails err world)) ∨
    (∃ checked status, valid point.world promise = true ∧ out.checkpoint promise point = some checked ∧
      state promise checked = some status ∧ status ≠ .pending ∧ Ready ctx promise checked.world ∧
      out.turn promise point = .breaks checked) ∨
    ∃ next, out.turn promise point = .goesOn next ∧ Ready ctx promise next.world := by
  unfold Outside.turn
  split
  · next isValid =>
    cases check : out.checkpoint promise point with
    | none => exact .inl rfl
    | some checked =>
      have ready' := ready.checkpoint check
      cases told : state promise checked with
      | none => exact .inl (by simp only [told])
      | some status =>
        cases status with
        | pending =>
          simp only [told]
          rcases @turnPending_cases ctx promise out checked ready' with gone | returns | ⟨next, goesOn, ready''⟩
          · exact .inl gone
          · exact .inr (.inl returns)
          · exact .inr (.inr (.inr ⟨next, goesOn, ready''⟩))
        | fulfilled | rejected =>
          refine .inr (.inr (.inl ⟨checked, _, isValid, rfl, told, nofun, ready', ?_⟩))
          simp only [told]
  · exact .inr (.inl ⟨_, _, rfl⟩)

theorem Rejects.turn_eq (rejects : Rejects out promise point) :
    out.turn promise point = .gone ∨ ∃ checked, out.turn promise point = .breaks checked := by
  obtain ⟨isValid, checked, check, there, rejected, -⟩ := rejects
  simp only [Outside.turn, isValid, if_true, check, state, there, rejected]
  cases entered checked.world promise id with
  | none => exact .inl rfl
  | some world => exact .inr ⟨checked, rfl⟩

theorem leftRejected_goesOn (goesOn : out.turn promise point = .goesOn checked) :
    LeftRejected out promise point ↔ LeftRejected out promise checked := by
  constructor
  · rintro ⟨last, goes, rejects⟩
    cases goes with
    | refl =>
      rcases rejects.turn_eq with gone | ⟨checked, breaks⟩
      · exact nomatch goesOn.symm.trans gone
      · exact nomatch goesOn.symm.trans breaks
    | next first rest =>
      cases goesOn.symm.trans first
      exact ⟨last, rest, rejects⟩
  · rintro ⟨last, goes, rejects⟩
    exact ⟨last, .next goesOn goes, rejects⟩

theorem leftRejected_ended (ended : ∀ next, out.turn promise point ≠ .goesOn next) :
    LeftRejected out promise point ↔ Rejects out promise point := by
  constructor
  · rintro ⟨last, goes, rejects⟩
    cases goes with
    | refl => exact rejects
    | next first _ => exact absurd first (ended _)
  · exact fun rejects => ⟨point, .refl, rejects⟩

theorem loop_balanced {fuel : Nat} {returned : Returned} (ready : Ready ctx promise point.world)
    (returns : out.loop promise fuel point = some returned) : Balanced ctx returned ↔ ¬ LeftRejected out promise point := by
  induction fuel generalizing point with
  | zero => cases returns
  | succ fuel ih =>
    rw [Outside.loop] at returns
    rcases @turn_cases ctx promise out point ready with gone | ⟨err, world, ended⟩ |
      ⟨checked, status, isValid, check, told, settled, ready', ended⟩ | ⟨next, goesOn, ready'⟩
    · rw [gone] at returns
      cases returns
    · rw [ended] at returns
      obtain rfl := Option.some.inj returns
      rw [leftRejected_ended (by rw [ended]; exact nofun)]
      refine iff_of_true (fails_balanced err world) ?_
      intro rejects
      rcases rejects.turn_eq with gone | ⟨checked, breaks⟩
      · exact nomatch ended.symm.trans gone
      · exact nomatch ended.symm.trans breaks
    · rw [ended] at returns
      rw [leftRejected_ended (by rw [ended]; exact nofun), settle_balanced ready' told settled returns]
      obtain ⟨-, there, -⟩ := state_settled ready' told settled
      apply not_congr
      constructor
      · rintro ⟨rejected, spared⟩
        exact ⟨isValid, checked, check, there, rejected, spared⟩
      · rintro ⟨-, checked', check', -, rejected, spared⟩
        obtain rfl := Option.some.inj (check.symm.trans check')
        exact ⟨rejected, spared⟩
    · -- the pump or the wait is over, and the rest is the loop from there
      rw [goesOn] at returns
      rw [leftRejected_goesOn goesOn]
      exact ih ready' returns

end run

/-- Await is balanced just where it does not leave the loop with a rejected promise; the handle
of the reason stays in both tables then, unless a callback of its conversion closes the context. -/
theorem await_balanced_iff {thread : Nat} {history : List Owned.Event} {start : Owned}
    (reached : Run Owned.step (fun _ _ => True) (Owned.initial thread) history start) (out : Outside ctx)
    (promise : Option Nat) (own : ∀ value ∈ promise, ∃ held, start.values.get value = some held ∧ held.ctx = ctx)
    (view : View) {fuel : Nat} {returned : Returned} (returns : out.await fuel promise ⟨view, start⟩ = some returned) :
    Balanced ctx returned ↔ ¬ ∃ value ∈ promise, LeftRejected out value ⟨view, start⟩ := by
  obtain ⟨inv, listed⟩ := Owned.reached_invariant reached
  cases promise with
  | none =>
    obtain rfl := Option.some.inj returns
    exact iff_of_true (fails_balanced _ _) (by simp)
  | some value =>
    have ready : Ready ctx value start := ⟨inv, listed, own value rfl⟩
    have only : (∃ other ∈ some value, LeftRejected out other ⟨view, start⟩) ↔ LeftRejected out value ⟨view, start⟩ := by
      simp
    rw [only]
    simp only [Outside.await] at returns
    split at returns
    · exact loop_balanced ready returns
    · next invalid =>
      -- the loop would end the same way in its first iteration
      obtain rfl := Option.some.inj returns
      have ended : out.turn value ⟨view, start⟩ = .returns (Outside.fails Operations.invalidValueError start) := if_neg invalid
      rw [leftRejected_ended (by rw [ended]; exact nofun)]
      exact iff_of_true (fails_balanced _ _) fun rejects => invalid rejects.1

/-- A microtask makes a value and settles the promise. -/
def settling (status : PromiseState) : Outside 0 where
  performMicrotaskCheckpoint _ _ := ⟨[.createValue 0], ⟨status, false, none⟩⟩
  hasContext := false
  pump := none
  wait view _ := (⟨[], view⟩, false)
  stringValue _ _ _ := ([], .ok (bytesOf "no"))
  aside _ _ _ := trivial

def unsettled : View := ⟨.pending, false, none⟩

theorem await_balanced_iff_fulfilled : ∃ world returned,
    Run Owned.step (fun _ _ => True) (Owned.initial 1) [.newIsolate, .newContext 0, .createValue 0] world ∧
    (settling .fulfilled).await 1 (some 0) ⟨unsettled, world⟩ = some returned ∧ Balanced 0 returned := by
  obtain ⟨world, run, returns, home, breaks⟩ := Run.exists_of_execute
    (fun world => ((settling .fulfilled).await 1 (some 0) ⟨unsettled, world⟩).isSome = true ∧
      (world.values.get 0).map Owned.Value.ctx = some 0 ∧
      (match (settling .fulfilled).turn 0 ⟨unsettled, world⟩ with | .breaks _ => true | _ => false) = true)
    (Admitted.free Owned.step (Owned.initial 1) [.newIsolate, .newContext 0, .createValue 0]) (by decide +kernel)
  obtain ⟨returned, returns⟩ := Option.isSome_iff_exists.mp returns
  have own : ∀ value ∈ some 0, ∃ held, world.values.get value = some held ∧ held.ctx = 0 := by
    rintro value ⟨⟩
    exact Option.map_eq_some_iff.mp home
  refine ⟨world, returned, run, returns, (await_balanced_iff run (settling .fulfilled) (some 0) own unsettled returns).mpr ?_⟩
  rintro ⟨value, ⟨⟩, left⟩
  have ended : ∀ next, (settling .fulfilled).turn 0 ⟨unsettled, world⟩ ≠ .goesOn next := by
    intro next goesOn
    rw [goesOn] at breaks
    cases breaks
  obtain ⟨-, checked, check, -, rejected, -⟩ := (leftRejected_ended ended).mp left
  unfold Outside.checkpoint at check
  split at check
  · obtain rfl := Option.some.inj check
    cases rejected
  · obtain ⟨_, -, rfl⟩ := Option.map_eq_some_iff.mp check
    cases rejected

/-- The error has the text of the reason, and the context still knows its wrapper. -/
theorem rejection_tracked : ∃ world returned,
    Run Owned.step (fun _ _ => True) (Owned.initial 1) [.newIsolate, .newContext 0, .createValue 0] world ∧
    (settling .rejected).await 1 (some 0) ⟨unsettled, world⟩ = some returned ∧
    returned.outcome = .error (.js ⟨bytesOf "promise rejected: " ++ bytesOf "no", [], []⟩) ∧ ¬ Balanced 0 returned := by
  obtain ⟨world, run, returned, returns, fails, object, found, known, isKnown, pair, made, member⟩ := Run.exists_of_execute
    (fun world => ∃ returned ∈ (settling .rejected).await 1 (some 0) ⟨unsettled, world⟩,
      returned.outcome = .error (.js ⟨bytesOf "promise rejected: " ++ bytesOf "no", [], []⟩) ∧
      ∃ object ∈ returned.world.contexts.get 0, ∃ known ∈ object.liveValues, ∃ pair ∈ returned.made, pair.1 ∈ known)
    (Admitted.free Owned.step (Owned.initial 1) [.newIsolate, .newContext 0, .createValue 0]) (by decide +kernel)
  refine ⟨world, returned, run, returns, fails, ?_⟩
  unfold Balanced
  rw [fails]
  rintro ⟨-, dropped⟩
  exact (dropped pair made).1 ⟨object, known, found, isKnown, member⟩

end Gv8.Awaiting
