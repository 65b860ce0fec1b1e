import Gv8.Foundation.Guards
import Gv8.Isolate.Locks

/-! Which fields the package accesses under which of its mutexes.

Only the functions here access the fields of `Field`; all others call them. The pointers of
isolates, contexts and values are not among these fields: they are read and written outside the
locks. The counters and the termination flag are atomic. -/

set_option autoImplicit false

namespace Gv8.Guards

open Foundation LockProgram Locks

inductive Field where
  | ctxSeq
  | ctxRefs
  | isolateRefsSeq
  | isolateRefs
  | hostFnSeq
  | hostFnRefs
  | closed
  | hostFnIDs
  | liveValues
  | moduleResolversByScript
  | moduleResolversByName
  | ownerThread
  | depth
  | unhandledPromiseRejectionHook
  | exceptionHook
  | moduleResolutionFailureHook
  deriving DecidableEq

def Field.guard : Field → Mutex
  | ctxSeq | ctxRefs => .ctxMu
  | isolateRefsSeq | isolateRefs => .isolateRefsMu
  | hostFnSeq | hostFnRefs => .hostFnMu
  | closed | hostFnIDs | liveValues | moduleResolversByScript | moduleResolversByName => .contextMu
  | ownerThread | depth => .isolateMu
  | unhandledPromiseRejectionHook | exceptionHook | moduleResolutionFailureHook => .obMu

inductive Target where
  | mutex (mutex : Mutex)
  | field (field : Field)
  deriving DecidableEq

/-- A mutex that is held, or a field that is accessed; the variables of the package have no owner. -/
structure Item (Object : Type) where
  target : Target
  owner : Option Object
  write : Bool
  deriving DecidableEq

variable {Object : Type}

def Item.Conflicts (first second : Item Object) : Prop :=
  (∃ field, first.target = .field field ∧ second.target = .field field) ∧ first.owner = second.owner ∧
    (first.write = true ∨ second.write = true)

def Item.Excludes (first second : Item Object) : Prop :=
  (∃ mutex, first.target = .mutex mutex ∧ second.target = .mutex mutex) ∧ first.owner = second.owner ∧
    (first.write = true ∨ second.write = true)

def Item.rank (item : Item Object) : Nat :=
  match item.target with
  | .mutex mutex => mutex.rank
  | .field _ => 6

def locks (Object : Type) : Foundation.Locks (Item Object) where
  excludes := Item.Excludes
  announces item := match item.target with
    | .mutex _ => item.write
    | .field _ => false
  rank := Item.rank
  bound := 7
  rank_eq := by
    rintro first second ⟨⟨mutex, left, right⟩, _⟩
    rw [Item.rank, Item.rank, left, right]
  rank_lt item := by
    unfold Item.rank
    split
    · next mutex _ => cases mutex <;> decide
    · decide

/-- A field is accessed with the mutex of its owner held, and written with it held to write. -/
def mayEnter [DecidableEq Object] (below : List (Item Object)) (item : Item Object) : Bool :=
  match item.target with
  | .mutex _ => true
  | .field field => below.any fun lock =>
      lock.target = .mutex field.guard ∧ lock.owner = item.owner ∧ (item.write = true → lock.write = true)

abbrev Program (Object : Type) := LockProgram (Item Object)

def read (owner : Option Object) (field : Field) : Program Object := .locked ⟨.field field, owner, false⟩ .skip

def write (owner : Option Object) (field : Field) : Program Object := .locked ⟨.field field, owner, true⟩ .skip

def locked (mutex : Mutex) (owner : Option Object) (body : Program Object) : Program Object :=
  .locked ⟨.mutex mutex, owner, true⟩ body

def rLocked (mutex : Mutex) (owner : Option Object) (body : Program Object) : Program Object :=
  .locked ⟨.mutex mutex, owner, false⟩ body

def block (programs : List (Program Object)) : Program Object := programs.foldr .seq .skip

/-- The second operand of `||` is read or not. -/
def readMaybe (owner : Option Object) (field : Field) : Program Object := .choice .skip (read owner field)

def enter (iso : Object) : Program Object :=
  .choice .skip (locked .isolateMu (some iso) (.seq (read (some iso) .depth)
    (.choice (block [write (some iso) .ownerThread, write (some iso) .depth])
      (.seq (read (some iso) .ownerThread)
        (.choice .skip (block [read (some iso) .depth, write (some iso) .depth]))))))

def leave (iso : Object) : Program Object :=
  locked .isolateMu (some iso) (block [read (some iso) .depth, readMaybe (some iso) .ownerThread,
    .choice .panic (block [read (some iso) .depth, write (some iso) .depth, read (some iso) .depth,
      .choice .skip (write (some iso) .ownerThread)])])

def nextIsolateRef : Program Object :=
  locked .isolateRefsMu none (block [read none .isolateRefsSeq, write none .isolateRefsSeq, read none .isolateRefsSeq])

def setIsolateRef : Program Object := locked .isolateRefsMu none (write none .isolateRefs)

def deleteIsolateRef : Program Object := locked .isolateRefsMu none (write none .isolateRefs)

def getIsolateRef : Program Object := rLocked .isolateRefsMu none (read none .isolateRefs)

def note (hook : Field) (iso : Object) : Program Object :=
  .choice .skip (.seq (rLocked .obMu (some iso) (read (some iso) hook)) (.choice .skip .user))

def noteUnhandledPromiseRejection (iso : Object) : Program Object := note .unhandledPromiseRejectionHook iso

def noteException (iso : Object) : Program Object := note .exceptionHook iso

def noteModuleResolutionFailure (iso : Object) : Program Object := note .moduleResolutionFailureHook iso

def setHandler (hook : Field) (iso : Object) : Program Object :=
  .choice .skip (locked .obMu (some iso) (write (some iso) hook))

def setUnhandledPromiseRejectionHandler (iso : Object) : Program Object :=
  setHandler .unhandledPromiseRejectionHook iso

def setExceptionHandler (iso : Object) : Program Object := setHandler .exceptionHook iso

def setModuleResolutionFailureHandler (iso : Object) : Program Object := setHandler .moduleResolutionFailureHook iso

def newContext : Program Object :=
  locked .ctxMu none (block [read none .ctxSeq, write none .ctxSeq, read none .ctxSeq])

def setContext : Program Object := locked .ctxMu none (write none .ctxRefs)

def deleteContext : Program Object := locked .ctxMu none (write none .ctxRefs)

def getContext : Program Object := rLocked .ctxMu none (read none .ctxRefs)

def close (ctx : Object) : Program Object :=
  locked .contextMu (some ctx) (.seq (read (some ctx) .closed) (.choice .skip (block [write (some ctx) .closed,
    read (some ctx) .hostFnIDs, read (some ctx) .liveValues, write (some ctx) .hostFnIDs, write (some ctx) .liveValues,
    write (some ctx) .moduleResolversByScript, write (some ctx) .moduleResolversByName])))

def bindModuleResolver (ctx : Object) : Program Object :=
  locked .contextMu (some ctx) (.seq (read (some ctx) .closed) (.choice .skip (.seq
    (.choice .skip (.seq (read (some ctx) .moduleResolversByScript)
      (.choice .skip (write (some ctx) .moduleResolversByScript))))
    (.choice .skip (.seq (read (some ctx) .moduleResolversByName)
      (.choice .skip (write (some ctx) .moduleResolversByName)))))))

def moduleResolverForScript (ctx : Object) : Program Object :=
  .choice .skip (rLocked .contextMu (some ctx) (read (some ctx) .moduleResolversByScript))

def moduleResolverForResource (ctx : Object) : Program Object :=
  .choice .skip (rLocked .contextMu (some ctx) (read (some ctx) .moduleResolversByName))

def registerHostFunction : Program Object :=
  locked .hostFnMu none (block [read none .hostFnSeq, write none .hostFnSeq, write none .hostFnRefs, read none .hostFnSeq])

def unregisterHostFunctions : Program Object := .choice .skip (locked .hostFnMu none (.loop (write none .hostFnRefs)))

def lookupHostFunction : Program Object := rLocked .hostFnMu none (read none .hostFnRefs)

def trackHostFunction (ctx : Object) : Program Object :=
  .choice .skip (locked .contextMu (some ctx) (block [read (some ctx) .closed, readMaybe (some ctx) .hostFnIDs,
    .choice unregisterHostFunctions (write (some ctx) .hostFnIDs)]))

def trackValue (ctx : Object) : Program Object :=
  .choice .skip (locked .contextMu (some ctx) (block [read (some ctx) .closed, readMaybe (some ctx) .liveValues,
    .choice .skip (write (some ctx) .liveValues)]))

def untrackValue (ctx : Object) : Program Object :=
  .choice .skip (locked .contextMu (some ctx) (.seq (read (some ctx) .liveValues)
    (.choice .skip (write (some ctx) .liveValues))))

def isClosed (ctx : Object) : Program Object := .choice .skip (rLocked .contextMu (some ctx) (read (some ctx) .closed))

inductive Call (Object : Type) where
  | enter (iso : Object) | leave (iso : Object)
  | nextIsolateRef | setIsolateRef | deleteIsolateRef | getIsolateRef
  | noteUnhandledPromiseRejection (iso : Object) | noteException (iso : Object) | noteModuleResolutionFailure (iso : Object)
  | setUnhandledPromiseRejectionHandler (iso : Object) | setExceptionHandler (iso : Object)
  | setModuleResolutionFailureHandler (iso : Object)
  | newContext | setContext | deleteContext | getContext
  | close (ctx : Object) | bindModuleResolver (ctx : Object)
  | moduleResolverForScript (ctx : Object) | moduleResolverForResource (ctx : Object)
  | registerHostFunction | unregisterHostFunctions | lookupHostFunction
  | trackHostFunction (ctx : Object) | trackValue (ctx : Object) | untrackValue (ctx : Object) | isClosed (ctx : Object)

def program : Call Object → Program Object
  | .enter iso => enter iso
  | .leave iso => leave iso
  | .nextIsolateRef => nextIsolateRef
  | .setIsolateRef => setIsolateRef
  | .deleteIsolateRef => deleteIsolateRef
  | .getIsolateRef => getIsolateRef
  | .noteUnhandledPromiseRejection iso => noteUnhandledPromiseRejection iso
  | .noteException iso => noteException iso
  | .noteModuleResolutionFailure iso => noteModuleResolutionFailure iso
  | .setUnhandledPromiseRejectionHandler iso => setUnhandledPromiseRejectionHandler iso
  | .setExceptionHandler iso => setExceptionHandler iso
  | .setModuleResolutionFailureHandler iso => setModuleResolutionFailureHandler iso
  | .newContext => newContext
  | .setContext => setContext
  | .deleteContext => deleteContext
  | .getContext => getContext
  | .close ctx => close ctx
  | .bindModuleResolver ctx => bindModuleResolver ctx
  | .moduleResolverForScript ctx => moduleResolverForScript ctx
  | .moduleResolverForResource ctx => moduleResolverForResource ctx
  | .registerHostFunction => registerHostFunction
  | .unregisterHostFunctions => unregisterHostFunctions
  | .lookupHostFunction => lookupHostFunction
  | .trackHostFunction ctx => trackHostFunction ctx
  | .trackValue ctx => trackValue ctx
  | .untrackValue ctx => untrackValue ctx
  | .isClosed ctx => isClosed ctx

def library (Object : Type) : LockLibrary (Item Object) where
  Call := Call Object
  call := program
  Callback := Empty
  callback := nofun

def plain : Program Object → Locks.Program
  | .skip => .skip
  | .panic => .panic
  | .native => .native
  | .user => .user
  | .seq first second =>
    match plain first, plain second with
    | .skip, second => second
    | first, .skip => first
    | first, second => .seq first second
  | .choice first second =>
    match plain first, plain second with
    | .skip, .skip => .skip
    | first, second => .choice first second
  | .loop body =>
    match plain body with
    | .skip => .skip
    | body => .loop body
  | .locked ⟨.mutex mutex, _, _⟩ body => .locked mutex (plain body)
  | .locked ⟨.field _, _, _⟩ _ => .skip
  | .deferring cleanup body => .deferring (plain cleanup) (plain body)
  | .anyCall => .anyCall
  | .anyCallback => .anyCallback

/-- The programs are those of the lock discipline, of which some are only a part. -/
def lockProgram : Call Object → Locks.Program
  | .enter _ => Locks.enter
  | .leave _ => Locks.leave
  | .nextIsolateRef => Locks.nextIsolateRef
  | .setIsolateRef => Locks.setIsolateRef
  | .deleteIsolateRef => Locks.deleteIsolateRef
  | .getIsolateRef => Locks.getIsolateRef
  | .noteUnhandledPromiseRejection _ => Locks.noteUnhandledPromiseRejection
  | .noteException _ => Locks.noteException
  | .noteModuleResolutionFailure _ => Locks.noteModuleResolutionFailure
  | .setUnhandledPromiseRejectionHandler _ => Locks.setUnhandledPromiseRejectionHandler
  | .setExceptionHandler _ => Locks.setExceptionHandler
  | .setModuleResolutionFailureHandler _ => Locks.setModuleResolutionFailureHandler
  | .newContext => .locked .ctxMu .skip
  | .setContext => Locks.setContext
  | .deleteContext => Locks.deleteContext
  | .getContext => Locks.getContext
  | .close _ | .bindModuleResolver _ => .locked .contextMu .skip
  | .moduleResolverForScript _ => Locks.moduleResolverForScript
  | .moduleResolverForResource _ => Locks.moduleResolverForResource
  | .registerHostFunction => Locks.registerHostFunction
  | .unregisterHostFunctions => Locks.unregisterHostFunctions
  | .lookupHostFunction => Locks.lookupHostFunction
  | .trackHostFunction _ => Locks.trackHostFunction
  | .trackValue _ => Locks.trackValue
  | .untrackValue _ => Locks.untrackValue
  | .isClosed _ => Locks.isClosed

theorem plain_program (call : Call Object) : plain (program call) = lockProgram call := by
  cases call <;> rfl

theorem program_nests [DecidableEq Object] (call : Call Object) : (program call).nests mayEnter [] = true := by
  cases call <;>
    simp [program, enter, leave, nextIsolateRef, setIsolateRef, deleteIsolateRef, getIsolateRef,
      noteUnhandledPromiseRejection, noteException, noteModuleResolutionFailure, note,
      setUnhandledPromiseRejectionHandler, setExceptionHandler, setModuleResolutionFailureHandler, setHandler,
      newContext, setContext, deleteContext, getContext, close, bindModuleResolver, moduleResolverForScript,
      moduleResolverForResource, registerHostFunction, unregisterHostFunctions, lookupHostFunction, trackHostFunction,
      trackValue, untrackValue, isClosed, block, readMaybe, read, write, locked, rLocked, nests, mayEnter, Field.guard]

theorem Item.Excludes.symm {first second : Item Object} (excludes : first.Excludes second) : second.Excludes first := by
  obtain ⟨⟨mutex, left, right⟩, same, writes⟩ := excludes
  exact ⟨⟨mutex, right, left⟩, same.symm, writes.symm⟩

/-- The locks under which two accesses that conflict are made exclude each other. -/
theorem excludes_of_conflicts [DecidableEq Object] {left right : Item Object} {below below' : List (Item Object)}
    (conflicts : left.Conflicts right) (entered : mayEnter below left = true) (entered' : mayEnter below' right = true) :
    ∃ lock ∈ below, ∃ lock' ∈ below', lock.Excludes lock' := by
  obtain ⟨⟨field, one, two⟩, same, writes⟩ := conflicts
  simp only [mayEnter, one, List.any_eq_true, decide_eq_true_eq] at entered
  simp only [mayEnter, two, List.any_eq_true, decide_eq_true_eq] at entered'
  obtain ⟨lock, held, mutex, owner, write⟩ := entered
  obtain ⟨lock', held', mutex', owner', write'⟩ := entered'
  refine ⟨lock, held, lock', held', ⟨_, mutex, mutex'⟩, ?_, writes.imp write write'⟩
  rw [owner, owner', same]

/-- However the goroutines are interleaved that call the functions of the package, no two of them
access a field of the same object at a time, unless both read it. -/
theorem no_data_race {Thread : Type} [DecidableEq Object] [DecidableEq Thread] {traces : Thread → List (LockAction (Item Object))}
    (runs : ∀ thread, ∃ outcome, Exec (library Object) .user (traces thread) outcome)
    {state : Thread → Progress (Item Object)}
    (steps : Relation.ReflTransGen (Steps (locks Object)) (fun thread => .start (traces thread)) state)
    {first second : Thread} (apart : first ≠ second) {left right : Item Object} (accesses : left ∈ (state first).held)
    (accesses' : right ∈ (state second).held) : ¬ left.Conflicts right := by
  have nests (thread : Thread) : Nests mayEnter [] (traces thread) := by
    obtain ⟨outcome, exec⟩ := runs thread
    exact (nested_of_exec program_nests (fun callback : Empty => callback.elim) exec rfl).nests
  exact conflict_free Item.Excludes.symm excludes_of_conflicts nests steps apart accesses accesses'

/-- Two goroutines look at the same time whether a context is closed. -/
theorem no_data_race_reading : ∃ state : Bool → Progress (Item Nat),
    (∀ thread, ⟨.field .closed, some 1, false⟩ ∈ (state thread).held) ∧
      ∀ left ∈ (state true).held, ∀ right ∈ (state false).held, ¬ left.Conflicts right := by
  let mu : Item Nat := ⟨.mutex .contextMu, some 1, false⟩
  let closed : Item Nat := ⟨.field .closed, some 1, false⟩
  let inside : Progress (Item Nat) := ⟨[closed, mu], false, [.release closed, .release mu]⟩
  let trace : List (LockAction (Item Nat)) := [.user, .acquire mu, .acquire closed, .release closed, .release mu]
  let start : Bool → Progress (Item Nat) := fun _ => .start trace
  have call : Exec (library Nat) ((library Nat).call (Call.isClosed 1)) _ .done := .second (.locked (.locked .skip nofun) nofun)
  have exec : Exec (library Nat) .user _ .done := .user (.loop (.seq (.call call) .loopEnds))
  have reads (thread : Bool) (state : Bool → Progress (Item Nat)) (idle : state thread = .start trace)
      (quiet : ∀ other ≠ thread, state other = .start trace ∨ state other = inside) :
      Relation.ReflTransGen (Steps (locks Nat)) state (Function.update state thread inside) := by
    let outside := Function.update state thread ⟨(state thread).held, false, trace.tail⟩
    let holding := Function.update outside thread ⟨mu :: (outside thread).held, false, trace.tail.tail⟩
    let reading := Function.update holding thread ⟨closed :: (holding thread).held, false, trace.tail.tail.tail⟩
    have others (other : Bool) (differ : other ≠ thread) :
        (∀ taken ∈ (state other).held, taken.write = false) ∧ (state other).pending = none := by
      rcases quiet other differ with same | same <;> rw [same] <;>
        simp [inside, trace, Progress.start, mu, closed, Progress.pending]
    have free (item : Item Nat) (reads : item.write = false) {state' : Bool → Progress (Item Nat)}
        (same : ∀ other ≠ thread, state' other = state other) (other : Bool) (differ : other ≠ thread) :
        (∀ taken ∈ (state' other).held, ¬ (locks Nat).excludes item taken) ∧
          ∀ claim ∈ (state' other).pending, ¬ (locks Nat).excludes item claim := by
      rw [same other differ, (others other differ).2]
      refine ⟨fun taken member => ?_, nofun⟩
      rintro ⟨_, _, writes | writes⟩
      · rw [reads] at writes
        cases writes
      · rw [(others other differ).1 taken member] at writes
        cases writes
    have apart (other : Bool) (differ : other ≠ thread) : outside other = state other ∧ holding other = state other := by
      simp [outside, holding, Function.update_of_ne differ]
    have first : Moves (locks Nat) state thread outside := .outside (congrArg Progress.rest idle) (.inr rfl)
    have second : Moves (locks Nat) outside thread holding :=
      have free := free mu rfl fun other differ => (apart other differ).1
      .acquire (by simp [outside, trace]) (by simp [outside]; rfl) (fun other differ => (free other differ).1)
        fun _ other differ => (free other differ).2
    have third : Moves (locks Nat) holding thread reading :=
      have free := free closed rfl fun other differ => (apart other differ).2
      .acquire (by simp [holding, trace]) (by simp [holding]; rfl) (fun other differ => (free other differ).1)
        fun _ other differ => (free other differ).2
    have ends : reading = Function.update state thread inside := by
      simp [reading, holding, outside, inside, idle, Progress.start, trace]
    exact ends ▸ .tail (.tail (.single ⟨thread, first⟩) ⟨thread, second⟩) ⟨thread, third⟩
  have steps := (reads true start rfl fun _ _ => .inl rfl).trans (reads false _ rfl fun other _ => by
    cases other <;> simp [start])
  refine ⟨_, ?_, fun left taken right taken' => no_data_race (fun _ => ⟨_, exec⟩) steps (by decide) taken taken'⟩
  intro thread
  cases thread <;> simp [inside, closed]

end Gv8.Guards
