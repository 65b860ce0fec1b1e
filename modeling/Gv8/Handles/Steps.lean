import Gv8.Handles.Machine

/-! The ways through one step, each with what it found and what it leaves. -/

set_option autoImplicit false

namespace Gv8

inductive World.CloseStep (world : World) (ctx : Nat) (object : Context) : World → Prop where
  | invalidate {value : Nat} {todo : List Nat} (stage : object.closing = .invalidating (value :: todo)) :
      CloseStep world ctx object
        ((world.invalidate value).setContext ctx fun object => { object with closing := .invalidating todo })
  | unregister (stage : object.closing = .invalidating []) : CloseStep world ctx object
      { world.setContext ctx fun object => { object with closing := .disposing } with
        ctxRefs := Function.update world.ctxRefs object.ref none }
  | dispose {ptr : Nat} (stage : object.closing = .disposing) (has : object.ptr = some ptr) :
      CloseStep world ctx object (world.disposeContext ctx ptr)
  -- `contextDispose` of a nil pointer.
  | disposeNothing (stage : object.closing = .disposing) (gone : object.ptr = none) :
      CloseStep world ctx object (world.setContext ctx fun object => { object with closing := .clearing })
  | clear (stage : object.closing = .clearing) :
      CloseStep world ctx object (world.setContext ctx fun object => { object with ptr := none, closing := .done })

theorem World.closeStep_sound {world next : World} {ctx : Nat} (taken : world.closeStep ctx = some next) :
    ∃ object, world.contexts.get ctx = some object ∧ world.CloseStep ctx object next := by
  obtain ⟨object, found, taken⟩ := Option.bind_eq_some_iff.mp taken
  refine ⟨object, found, ?_⟩
  split at taken
  · next stage =>
    cases taken
    exact .invalidate stage
  · next stage =>
    cases taken
    exact .unregister stage
  · next stage =>
    split at taken <;> cases taken
    · next has => exact .dispose stage has
    · next gone => exact .disposeNothing stage gone
  · next stage =>
    cases taken
    exact .clear stage
  · cases taken
  · cases taken

namespace Machine

variable {Thread : Type} {machine next : Machine Thread}

/-- HostFunctionCallback, before it calls Go. -/
def wrapped (machine : Machine Thread) (ctx argc : Nat) : Machine Thread :=
  machine.setWorld (machine.world.setNative
    ((machine.world.native.wrapBorrowedValues ctx (argc + 1)).1.readCtx ctx))

/-- What it wraps: the receiver and the arguments. -/
def borrowed (machine : Machine Thread) (ctx argc : Nat) : List Nat :=
  (machine.world.native.wrapBorrowedValues ctx (argc + 1)).2

/-- A module resolver wraps nothing. -/
def contextRead (machine : Machine Thread) (ctx : Nat) : Machine Thread :=
  machine.setWorld (machine.world.setNative (machine.world.native.readCtx ctx))

def registered (machine : Machine Thread) (ctx : Nat) (stale : Int) : Option Nat :=
  machine.world.ctxRefs (machine.world.native.refOf ctx stale)

def wrapOnReceiver (machine : Machine Thread) (receiver stale : Nat) : Native × Nat :=
  (machine.world.native.readHandle receiver).wrapValue (machine.world.native.ctxOf receiver stale)

theorem ctxs_wrapBorrowedValues (native : Native) (ctx count : Nat) :
    (native.wrapBorrowedValues ctx count).1.ctxs = native.ctxs := by
  induction count generalizing native with
  | zero => rfl
  | succ count ih => exact ih _

variable [DecidableEq Thread]

inductive Step (threadID : Thread → Nat) (machine : Machine Thread) : Event Thread → Machine Thread → Prop where
  | newContext {thread : Thread} (ready : mayCall (machine.frames thread) = true) :
      Step threadID machine (.newContext thread) (machine.setWorld machine.world.newContext)
  | registerHostFunction {thread : Thread} (ready : mayCall (machine.frames thread) = true) :
      Step threadID machine (.registerHostFunction thread) { machine with hostFnSeq := machine.hostFnSeq + 1 }
  | check {thread : Thread} {operation : Operation} {ctx : Nat} {operands : List Nat}
      (ready : mayCall (machine.frames thread) = true) (count : operands.length = operation.checkedOperands)
      (named : ∀ value ∈ operands, machine.world.Named value)
      (passed : ((!operation.checksContext || !machine.world.isClosed ctx) && operands.all machine.world.valid) = true) :
      Step threadID machine (.call thread operation ctx operands) (machine.setStack thread
        (.op operation (machine.world.homeOf operation ctx operands) operands .checked :: machine.frames thread))
  -- A context is closed or an operand invalid; the error is returned.
  | refuse {thread : Thread} {operation : Operation} {ctx : Nat} {operands : List Nat}
      (ready : mayCall (machine.frames thread) = true) :
      Step threadID machine (.call thread operation ctx operands) machine
  | enter {thread : Thread} {operation : Operation} {ctx : Nat} {operands : List Nat} {rest : List Frame}
      {entry : Entry} (stack : machine.frames thread = .op operation ctx operands .checked :: rest)
      (entered : machine.entry.enter (threadID thread) = .ok entry) :
      Step threadID machine (.enter thread)
        ({ machine with entry }.setStack thread (.op operation ctx operands .entered :: rest))
  -- Another thread has the isolate.
  | turnAway {thread : Thread} {operation : Operation} {ctx : Nat} {operands : List Nat} {rest : List Frame}
      (stack : machine.frames thread = .op operation ctx operands .checked :: rest) :
      Step threadID machine (.enter thread) (machine.setStack thread rest)
  | load {thread : Thread} {operation : Operation} {ctx : Nat} {operands args : List Nat} {rest : List Frame}
      (stack : machine.frames thread = .op operation ctx operands .entered :: rest) :
      Step threadID machine (.load thread args) (machine.setStack thread (.op operation ctx operands
        (.loading (if operation.passesContext then machine.ctxPtr ctx else none) ((operands ++ args).map .value)) :: rest))
  | loadNext {thread : Thread} {operation : Operation} {ctx index name : Nat} {operands : List Nat} {held : Option Nat}
      {slots : List Slot} {rest : List Frame}
      (stack : machine.frames thread = .op operation ctx operands (.loading held slots) :: rest)
      (next : slots[index]? = some (.value name)) :
      Step threadID machine (.loadNext thread index) (machine.setStack thread (.op operation ctx operands
        (.loading held (slots.set index (.pointer (machine.world.ptrOf name)))) :: rest))
  -- The context was closed after it was checked.
  | findNilContext {thread : Thread} {operation : Operation} {ctx : Nat} {operands : List Nat} {slots : List Slot}
      {rest : List Frame} (stack : machine.frames thread = .op operation ctx operands (.loading none slots) :: rest)
      (passes : operation.passesContext = true) :
      Step threadID machine (.begin thread) ((machine.setWorld (machine.world.fault .nilContext)).setStack thread
        (.op operation ctx operands (.returned none) :: rest))
  -- A pointer is nil, and the native function returns at once.
  | acceptNull {thread : Thread} {operation : Operation} {ctx : Nat} {operands : List Nat} {held : Option Nat}
      {slots : List Slot} {rest : List Frame}
      (stack : machine.frames thread = .op operation ctx operands (.loading held slots) :: rest) :
      Step threadID machine (.begin thread)
        (machine.setStack thread (.op operation ctx operands (.returned none) :: rest))
  -- A pointer is nil, and the native function dereferences it.
  | crash {thread : Thread} {operation : Operation} {ctx : Nat} {operands : List Nat} {held : Option Nat}
      {slots : List Slot} {rest : List Frame}
      (stack : machine.frames thread = .op operation ctx operands (.loading held slots) :: rest) :
      Step threadID machine (.begin thread) machine.crash
  | begin {thread : Thread} {operation : Operation} {ctx : Nat} {operands ptrs : List Nat} {held : Option Nat}
      {slots : List Slot} {rest : List Frame}
      (stack : machine.frames thread = .op operation ctx operands (.loading held slots) :: rest)
      (evaluated : slots.mapM Slot.held = some ptrs) :
      Step threadID machine (.begin thread) ((machine.setWorld (machine.world.setNative
          ((machine.world.native.readContext operation held).readOperands operation ptrs))).setStack
        thread (.op operation ctx operands (.running operation.findsMethod
          (if operation.wraps = .context then held else none) (pinned operation ptrs)) :: rest))
  -- The registry has no such context any more: Go returns nil.
  | callLost {thread : Thread} {ctx argc : Nat} {stale : Int} {found : Bool}
      (ready : mayCallBack (machine.frames thread) = true) :
      Step threadID machine (.callback thread ctx argc stale found) ((machine.wrapped ctx argc).setStack thread
        (.callback .missing none (machine.borrowed ctx argc) [] (.handed none) :: machine.frames thread))
  | callHost {thread : Thread} {ctx argc home : Nat} {stale : Int}
      (ready : mayCallBack (machine.frames thread) = true) (registry : machine.registered ctx stale = some home) :
      Step threadID machine (.callback thread ctx argc stale true) (((machine.wrapped ctx argc).setWorld
          ((machine.wrapped ctx argc).world.newBorrowedValues home (machine.borrowed ctx argc)).1).setStack thread
        (.callback .host (some home) (machine.borrowed ctx argc)
          ((machine.wrapped ctx argc).world.newBorrowedValues home (machine.borrowed ctx argc)).2 .body ::
          machine.frames thread))
  -- A host function that its `Close` has unregistered, or whose number no C int holds.
  | callMissing {thread : Thread} {ctx argc home : Nat} {stale : Int}
      (ready : mayCallBack (machine.frames thread) = true) (registry : machine.registered ctx stale = some home)
      (unregistered : machine.world.isClosed home = true ∨ 2 ^ 31 ≤ machine.hostFnSeq) :
      Step threadID machine (.callback thread ctx argc stale false) ((machine.wrapped ctx argc).setStack thread
        (.callback .missing (some home) (machine.borrowed ctx argc) [] .raising :: machine.frames thread))
  | importLost {thread : Thread} {ctx : Nat} {stale : Int} (ready : mayCallBack (machine.frames thread) = true) :
      Step threadID machine (.imports thread ctx stale) (machine.contextRead ctx)
  | imports {thread : Thread} {ctx home : Nat} {stale : Int} (ready : mayCallBack (machine.frames thread) = true)
      (registry : machine.registered ctx stale = some home) :
      Step threadID machine (.imports thread ctx stale) ((machine.contextRead ctx).setStack thread
        (.callback .imports (some home) [] [] .body :: machine.frames thread))
  | hook {thread : Thread} (ready : mayCallBack (machine.frames thread) = true) :
      Step threadID machine (.hook thread) (machine.setStack thread (.hook :: machine.frames thread))
  -- JavaScript threw, or the function returns no handle.
  | finishBare {thread : Thread} {operation : Operation} {ctx : Nat} {operands pins : List Nat} {finding threw : Bool}
      {held : Option Nat} {stale : Nat} {rest : List Frame}
      (stack : machine.frames thread = .op operation ctx operands (.running finding held pins) :: rest) :
      Step threadID machine (.finish thread threw stale)
        (machine.setStack thread (.op operation ctx operands (.returned none) :: rest))
  | finishInContext {thread : Thread} {operation : Operation} {ctx ptr : Nat} {operands pins : List Nat} {finding : Bool}
      {stale : Nat} {rest : List Frame}
      (stack : machine.frames thread = .op operation ctx operands (.running finding (some ptr) pins) :: rest)
      (wraps : operation.wraps = .context) :
      Step threadID machine (.finish thread false stale)
        ((machine.setWorld (machine.world.setNative (machine.world.native.wrapValue ptr).1)).setStack thread
          (.op operation ctx operands (.returned (some (machine.world.native.wrapValue ptr).2)) :: rest))
  -- GV8ObjectCallMethod has the method; its Call is still to come.
  | findMethod {thread : Thread} {operation : Operation} {ctx receiver : Nat} {operands pins : List Nat}
      {held : Option Nat} {stale : Nat} {rest : List Frame}
      (stack : machine.frames thread = .op operation ctx operands (.running true held (receiver :: pins)) :: rest)
      (wraps : operation.wraps = .receiver) :
      Step threadID machine (.finish thread false stale)
        ((machine.setWorld (machine.world.setNative ((receiver :: pins).foldl Native.readHandle
          ((machine.wrapOnReceiver receiver stale).1.readValue (machine.wrapOnReceiver receiver stale).2)))).setStack
          thread (.op operation ctx operands
            (.running false none [(machine.wrapOnReceiver receiver stale).2]) :: rest))
  | finishOnReceiver {thread : Thread} {operation : Operation} {ctx receiver : Nat} {operands pins : List Nat}
      {held : Option Nat} {stale : Nat} {rest : List Frame}
      (stack : machine.frames thread = .op operation ctx operands (.running false held (receiver :: pins)) :: rest)
      (wraps : operation.wraps = .receiver) :
      Step threadID machine (.finish thread false stale)
        ((machine.setWorld (machine.world.setNative (machine.wrapOnReceiver receiver stale).1)).setStack thread
          (.op operation ctx operands (.returned (some (machine.wrapOnReceiver receiver stale).2)) :: rest))
  | adopt {thread : Thread} {operation : Operation} {ctx ptr : Nat} {operands : List Nat} {rest : List Frame}
      (stack : machine.frames thread = .op operation ctx operands (.returned (some ptr)) :: rest) :
      Step threadID machine (.adopt thread) ((machine.setWorld (machine.world.newValue ctx ptr false).1).setStack thread
        (.op operation ctx operands .leaving :: rest))
  -- There is no result to wrap.
  | adoptNothing {thread : Thread} {operation : Operation} {ctx : Nat} {operands : List Nat} {rest : List Frame}
      (stack : machine.frames thread = .op operation ctx operands (.returned none) :: rest) :
      Step threadID machine (.adopt thread) (machine.setStack thread (.op operation ctx operands .leaving :: rest))
  | leave {thread : Thread} {operation : Operation} {ctx : Nat} {operands : List Nat} {rest : List Frame}
      (stack : machine.frames thread = .op operation ctx operands .leaving :: rest) :
      Step threadID machine (.leave thread)
        ({ machine with entry := leaveEntry machine.entry (threadID thread) }.setStack thread rest)
  | release {thread : Thread} {value : Nat} (ready : mayCall (machine.frames thread) = true)
      (named : machine.world.Named value) :
      Step threadID machine (.release thread value) (machine.startRelease thread value)
  | mustEnter {thread : Thread} {value : Nat} {rest : List Frame} {entry : Entry}
      (stack : machine.frames thread = .release value :: rest)
      (entered : machine.entry.enter (threadID thread) = .ok entry) :
      Step threadID machine (.mustEnter thread) ({ machine with entry }.setStack thread
        (.deleting value (machine.world.ptrOf value) :: rest))
  -- `mustEnter` panics.
  | mustNotEnter {thread : Thread} {value : Nat} {rest : List Frame} {message : String}
      (stack : machine.frames thread = .release value :: rest)
      (refused : machine.entry.enter (threadID thread) = .error message) :
      Step threadID machine (.mustEnter thread) (machine.setStack thread rest)
  | finishRelease {thread : Thread} {value ptr : Nat} {rest : List Frame}
      (stack : machine.frames thread = .deleting value (some ptr) :: rest) :
      Step threadID machine (.finishRelease thread) ({ machine with
        world := (machine.world.setNative (machine.world.native.valueRelease ptr)).invalidate value
        entry := leaveEntry machine.entry (threadID thread) }.setStack thread rest)
  -- Its handle was gone after `untrackValue`.
  | releaseNothing {thread : Thread} {value : Nat} {rest : List Frame}
      (stack : machine.frames thread = .deleting value none :: rest) :
      Step threadID machine (.finishRelease thread) ({ machine with
        world := machine.world.invalidate value
        entry := leaveEntry machine.entry (threadID thread) }.setStack thread rest)
  | bodyReturn {thread : Thread} {kind : CallbackKind} {value home : Option Nat} {natives lent : List Nat}
      {rest : List Frame} (named : ∀ name ∈ value, machine.world.Named name)
      (stack : machine.frames thread = .callback kind home natives lent .body :: rest) :
      Step threadID machine (.bodyReturn thread value)
        (machine.setStack thread (.callback kind home natives lent (.handing value) :: rest))
  | returnHook {thread : Thread} {value : Option Nat} {rest : List Frame} (stack : machine.frames thread = .hook :: rest) :
      Step threadID machine (.bodyReturn thread value) (machine.setStack thread rest)
  | bodyError {thread : Thread} {kind : CallbackKind} {home : Nat} {natives lent : List Nat} {rest : List Frame}
      (stack : machine.frames thread = .callback kind (some home) natives lent .body :: rest) :
      Step threadID machine (.bodyError thread)
        (machine.setStack thread (.callback kind (some home) natives lent .raising :: rest))
  | newErrorValue {thread : Thread} {kind : CallbackKind} {home : Nat} {natives lent : List Nat} {rest : List Frame}
      {entry : Entry} (stack : machine.frames thread = .callback kind (some home) natives lent .raising :: rest)
      (entered : machine.entry.enter (threadID thread) = .ok entry) :
      Step threadID machine (.newErrorValue thread) ({ machine with entry }.setStack thread
        (.callback kind (some home) natives lent (.making (machine.ctxPtr home)) :: rest))
  -- There is no error value.
  | raiseNothing {thread : Thread} {kind : CallbackKind} {home : Nat} {natives lent : List Nat} {rest : List Frame}
      {message : String} (stack : machine.frames thread = .callback kind (some home) natives lent .raising :: rest)
      (refused : machine.entry.enter (threadID thread) = .error message) :
      Step threadID machine (.newErrorValue thread) (machine.raise thread kind (some home) natives lent none rest)
  | newError {thread : Thread} {kind : CallbackKind} {ptr : Nat} {home : Option Nat} {natives lent : List Nat}
      {rest : List Frame}
      (stack : machine.frames thread = .callback kind home natives lent (.making (some ptr)) :: rest) :
      Step threadID machine (.newError thread) ((machine.setWorld (machine.world.setNative
          ((machine.world.native.readCtx ptr).wrapValue ptr).1)).setStack thread
        (.callback kind home natives lent
          (.made (some ((machine.world.native.readCtx ptr).wrapValue ptr).2)) :: rest))
  | newErrorNil {thread : Thread} {kind : CallbackKind} {home : Option Nat} {natives lent : List Nat} {rest : List Frame}
      (stack : machine.frames thread = .callback kind home natives lent (.making none) :: rest) :
      Step threadID machine (.newError thread) ((machine.setWorld (machine.world.fault .nilContext)).setStack thread
        (.callback kind home natives lent (.made none) :: rest))
  | adoptError {thread : Thread} {kind : CallbackKind} {home ptr : Nat} {natives lent : List Nat} {rest : List Frame}
      (stack : machine.frames thread = .callback kind (some home) natives lent (.made (some ptr)) :: rest) :
      Step threadID machine (.adoptError thread) (({ machine with
        world := (machine.world.newValue home ptr true).1
        entry := leaveEntry machine.entry (threadID thread) } : Machine Thread).raise thread kind (some home)
          natives lent (some machine.world.values.next) rest)
  | adoptNoError {thread : Thread} {kind : CallbackKind} {home : Nat} {natives lent : List Nat} {rest : List Frame}
      (stack : machine.frames thread = .callback kind (some home) natives lent (.made none) :: rest) :
      Step threadID machine (.adoptError thread)
        (({ machine with entry := leaveEntry machine.entry (threadID thread) } : Machine Thread).raise thread kind
          (some home) natives lent none rest)
  | startHandoff {thread : Thread} {value ptr : Nat} {home : Option Nat} {natives lent : List Nat} {rest : List Frame}
      (stack : machine.frames thread = .callback .host home natives lent (.handing (some value)) :: rest)
      (holds : machine.world.ptrOf value = some ptr) :
      Step threadID machine (.handoff thread)
        (machine.setStack thread (.callback .host home natives lent (.retaining value ptr) :: rest))
  -- Nothing is retained: there is no pointer, or it is handed over as it is.
  | handOver {thread : Thread} {kind : CallbackKind} {value home : Option Nat} {natives lent : List Nat}
      {rest : List Frame} (stack : machine.frames thread = .callback kind home natives lent (.handing value) :: rest)
      (bare : kind = .host → value.bind machine.world.ptrOf = none) :
      Step threadID machine (.handoff thread) (machine.setStack thread
        (.callback kind home natives lent (.handed (value.bind machine.world.ptrOf)) :: rest))
  | retain {thread : Thread} {value ptr stale : Nat} {home : Option Nat} {natives lent : List Nat} {rest : List Frame}
      (stack : machine.frames thread = .callback .host home natives lent (.retaining value ptr) :: rest) :
      Step threadID machine (.retain thread stale) (((machine.setWorld (machine.world.setNative
          ((machine.world.native.readValue ptr).wrapValue (machine.world.native.ctxOf ptr stale)).1)).setStack thread
        (.callback .host home natives lent (.handed
          (some ((machine.world.native.readValue ptr).wrapValue (machine.world.native.ctxOf ptr stale)).2)) ::
          rest)).startRelease thread value)
  | exitHost {thread : Thread} {kind : CallbackKind} {home result : Option Nat} {natives lent : List Nat}
      {rest : List Frame} (stack : machine.frames thread = .callback kind home natives lent (.handed result) :: rest)
      (wraps : kind ≠ .imports) :
      Step threadID machine (.exit thread) ((machine.setWorld ((machine.world.setNative
        ((natives ++ result.toList).foldl Native.valueRelease (machine.world.native.readResult result))).invalidateAll
          lent)).setStack thread rest)
  | exitImport {thread : Thread} {home result : Option Nat} {natives lent : List Nat} {rest : List Frame}
      (stack : machine.frames thread = .callback .imports home natives lent (.handed result) :: rest) :
      Step threadID machine (.exit thread) ((machine.setWorld (machine.world.setNative
        (machine.world.native.readResult result))).setStack thread rest)
  | close {thread : Thread} {ctx : Nat} {object : Context} (ready : mayCall (machine.frames thread) = true)
      (found : machine.world.contexts.get ctx = some object) (unclosed : (object.ptr.isNone || object.closed) = false) :
      Step threadID machine (.close thread ctx)
        ((machine.setWorld (machine.world.beginClose ctx)).setStack thread (.close ctx :: machine.frames thread))
  | closeAgain {thread : Thread} {ctx : Nat} (ready : mayCall (machine.frames thread) = true) :
      Step threadID machine (.close thread ctx) machine
  | closeStep {thread : Thread} {ctx : Nat} {rest : List Frame} {world : World}
      (stack : machine.frames thread = .close ctx :: rest) (closing : machine.world.closeStep ctx = some world)
      (unfinished : (world.contexts.get ctx).map Context.closing ≠ some .done) :
      Step threadID machine (.closeStep thread) (machine.setWorld world)
  | closed {thread : Thread} {ctx : Nat} {rest : List Frame} {world : World}
      (stack : machine.frames thread = .close ctx :: rest) (closing : machine.world.closeStep ctx = some world)
      (done : (world.contexts.get ctx).map Context.closing = some .done) :
      Step threadID machine (.closeStep thread) ((machine.setWorld world).setStack thread rest)

variable {threadID : Thread → Nat} {thread : Thread}

theorem step_call (threadID : Thread → Nat) {operation : Operation} {ctx : Nat} {operands : List Nat}
    (taken : machine.call thread operation ctx operands = some next) :
    machine.Step threadID (.call thread operation ctx operands) next := by
  simp only [call, Option.ite_none_left_eq_some, not_not] at taken
  obtain ⟨⟨ready, count, named⟩, taken⟩ := taken
  split at taken <;> cases taken
  · next passed => exact .check ready count named passed
  · exact .refuse ready

theorem step_enter (taken : machine.enter threadID thread = some next) :
    machine.Step threadID (.enter thread) next := by
  simp only [enter] at taken
  split at taken
  case h_2 => cases taken
  case h_1 stack =>
  split at taken <;> cases taken
  · next entered => exact .enter stack entered
  · exact .turnAway stack

theorem step_load (threadID : Thread → Nat) {args : List Nat} (taken : machine.load thread args = some next) :
    machine.Step threadID (.load thread args) next := by
  simp only [load] at taken
  split at taken
  case h_2 => cases taken
  case h_1 operation ctx operands rest stack =>
  simp only [Option.ite_none_left_eq_some, Option.some.injEq] at taken
  obtain ⟨-, rfl⟩ := taken
  exact .load stack

theorem step_loadNext (threadID : Thread → Nat) {index : Nat} (taken : machine.loadNext thread index = some next) :
    machine.Step threadID (.loadNext thread index) next := by
  simp only [loadNext] at taken
  split at taken
  case h_2 => cases taken
  case h_1 operation ctx operands held slots rest stack =>
  split at taken <;> cases taken
  next here => exact .loadNext stack here

theorem step_begin (threadID : Thread → Nat) (taken : machine.begin thread = some next) :
    machine.Step threadID (.begin thread) next := by
  simp only [begin] at taken
  split at taken
  case h_2 => cases taken
  case h_1 operation ctx operands held slots rest stack =>
  simp only [Option.ite_none_left_eq_some] at taken
  obtain ⟨-, taken⟩ := taken
  split at taken
  · next missing =>
    cases taken
    obtain ⟨passes, rfl⟩ := missing
    exact .findNilContext stack passes
  split at taken
  · split at taken <;> cases taken
    · exact .acceptNull stack
    · exact .crash stack
  · next evaluated =>
    cases taken
    exact .begin stack evaluated

theorem step_callback (threadID : Thread → Nat) {ctx argc : Nat} {stale : Int} {found : Bool}
    (taken : machine.callback thread ctx argc stale found = some next) :
    machine.Step threadID (.callback thread ctx argc stale found) next := by
  simp only [callback, Option.ite_none_left_eq_some, not_not] at taken
  obtain ⟨⟨ready, -⟩, taken⟩ := taken
  -- Wrapping handles leaves the contexts alone.
  have sameRef : (machine.world.native.wrapBorrowedValues ctx (argc + 1)).1.refOf ctx stale =
      machine.world.native.refOf ctx stale := by
    rw [Native.refOf, ctxs_wrapBorrowedValues, Native.refOf]
  split at taken
  · cases taken
    exact .callLost ready
  · next home registry =>
    have registry : machine.registered ctx stale = some home := by
      rw [registered, ← sameRef]
      exact registry
    cases found with
    | true =>
      cases taken
      exact .callHost ready registry
    | false =>
      simp only [Bool.false_eq_true, if_false, Option.ite_none_right_eq_some] at taken
      obtain ⟨unregistered, taken⟩ := taken
      cases taken
      exact .callMissing ready registry unregistered

theorem step_imports {ctx : Nat} {stale : Int} (taken : machine.imports thread ctx stale = some next) :
    machine.Step threadID (.imports thread ctx stale) next := by
  simp only [imports, Option.ite_none_left_eq_some, not_not] at taken
  obtain ⟨⟨ready, -⟩, taken⟩ := taken
  split at taken <;> cases taken
  · exact .importLost ready
  · next registry => exact .imports ready registry

theorem step_finish {threw : Bool} {stale : Nat} (taken : machine.finish thread threw stale = some next) :
    machine.Step threadID (.finish thread threw stale) next := by
  simp only [finish] at taken
  split at taken
  case h_2 => cases taken
  case h_1 operation ctx operands finding held pins rest stack =>
  cases threw with
  | true =>
    cases taken
    exact .finishBare stack
  | false =>
    simp only [Bool.false_eq_true, if_false] at taken
    split at taken
    · next wraps =>
      cases taken
      exact .finishInContext stack wraps
    · next wraps =>
      cases finding <;> cases taken
      · exact .finishOnReceiver stack wraps
      · exact .findMethod stack wraps
    · cases taken
      exact .finishBare stack

theorem step_adopt (taken : machine.adopt thread = some next) : machine.Step threadID (.adopt thread) next := by
  simp only [adopt] at taken
  split at taken
  case h_2 => cases taken
  case h_1 result rest stack =>
  cases result <;> cases taken
  · exact .adoptNothing stack
  · exact .adopt stack

theorem step_leave (taken : machine.leave threadID thread = some next) : machine.Step threadID (.leave thread) next := by
  simp only [leave] at taken
  split at taken <;> cases taken
  next stack => exact .leave stack

theorem step_mustEnter (taken : machine.mustEnter threadID thread = some next) :
    machine.Step threadID (.mustEnter thread) next := by
  simp only [mustEnter] at taken
  split at taken
  case h_2 => cases taken
  case h_1 value rest stack =>
  split at taken <;> cases taken
  · next entered => exact .mustEnter stack entered
  · next refused => exact .mustNotEnter stack refused

theorem step_finishRelease (taken : machine.finishRelease threadID thread = some next) :
    machine.Step threadID (.finishRelease thread) next := by
  simp only [finishRelease] at taken
  split at taken
  case h_2 => cases taken
  case h_1 value held rest stack =>
  cases held <;> cases taken
  · exact .releaseNothing stack
  · exact .finishRelease stack

theorem step_bodyReturn (threadID : Thread → Nat) {value : Option Nat}
    (taken : machine.bodyReturn thread value = some next) : machine.Step threadID (.bodyReturn thread value) next := by
  simp only [bodyReturn, Option.ite_none_left_eq_some, not_not] at taken
  obtain ⟨named, taken⟩ := taken
  split at taken <;> cases taken
  · next stack => exact .bodyReturn named stack
  · next stack => exact .returnHook stack

theorem step_bodyError (threadID : Thread → Nat) (taken : machine.bodyError thread = some next) :
    machine.Step threadID (.bodyError thread) next := by
  simp only [bodyError] at taken
  split at taken <;> cases taken
  next stack => exact .bodyError stack

theorem step_newErrorValue (taken : machine.newErrorValue threadID thread = some next) :
    machine.Step threadID (.newErrorValue thread) next := by
  simp only [newErrorValue] at taken
  split at taken
  case h_2 => cases taken
  case h_1 kind home natives lent rest stack =>
  split at taken <;> cases taken
  · next entered => exact .newErrorValue stack entered
  · next refused => exact .raiseNothing stack refused

theorem step_newError (threadID : Thread → Nat) (taken : machine.newError thread = some next) :
    machine.Step threadID (.newError thread) next := by
  simp only [newError] at taken
  split at taken
  case h_2 => cases taken
  case h_1 kind home natives lent held rest stack =>
  cases held <;> cases taken
  · exact .newErrorNil stack
  · exact .newError stack

theorem step_adoptError (taken : machine.adoptError threadID thread = some next) :
    machine.Step threadID (.adoptError thread) next := by
  simp only [adoptError] at taken
  split at taken
  case h_2 => cases taken
  case h_1 kind home natives lent result rest stack =>
  cases result <;> cases taken
  · exact .adoptNoError stack
  · exact .adoptError stack

theorem step_handoff (threadID : Thread → Nat) (taken : machine.handoff thread = some next) :
    machine.Step threadID (.handoff thread) next := by
  simp only [handoff] at taken
  split at taken
  case h_2 => cases taken
  case h_1 kind home natives lent value rest stack =>
  split at taken <;> cases taken
  · next name ptr holds => exact .startHandoff stack holds
  · next kind value _ _ _ other =>
    refine .handOver stack fun host => ?_
    cases value with
    | none => rfl
    | some name =>
      refine Option.eq_none_iff_forall_ne_some.mpr fun ptr holds => ?_
      exact other name ptr host rfl holds

theorem step_retain (threadID : Thread → Nat) {stale : Nat} (taken : machine.retain thread stale = some next) :
    machine.Step threadID (.retain thread stale) next := by
  simp only [retain] at taken
  split at taken <;> cases taken
  next stack => exact .retain stack

theorem step_exit (taken : machine.exit thread = some next) : machine.Step threadID (.exit thread) next := by
  simp only [exit] at taken
  split at taken
  case h_2 => cases taken
  case h_1 kind home natives lent result rest stack =>
  cases kind <;> cases taken
  · exact .exitHost stack nofun
  · exact .exitHost stack nofun
  · exact .exitImport stack

theorem step_close {ctx : Nat} (taken : machine.close thread ctx = some next) :
    machine.Step threadID (.close thread ctx) next := by
  simp only [close, Option.ite_none_left_eq_some, not_not] at taken
  obtain ⟨ready, taken⟩ := taken
  split at taken
  case h_2 => cases taken
  case h_1 object found =>
  split at taken <;> cases taken
  · exact .closeAgain ready
  · next unclosed => exact .close ready found (Bool.eq_false_of_not_eq_true unclosed)

theorem step_closeStep (taken : machine.closeStep thread = some next) :
    machine.Step threadID (.closeStep thread) next := by
  simp only [closeStep] at taken
  split at taken
  case h_2 => cases taken
  case h_1 ctx rest stack =>
  obtain ⟨world, closing, stepped⟩ := Option.map_eq_some_iff.mp taken
  split at stepped <;> subst stepped
  · next done => exact .closed stack closing done
  · next unfinished => exact .closeStep stack closing unfinished

theorem step_sound {event : Event Thread} (taken : machine.step threadID event = some next) :
    machine.Step threadID event next := by
  simp only [step, Option.ite_none_left_eq_some] at taken
  obtain ⟨-, taken⟩ := taken
  cases event with
  | newContext =>
    simp only [Option.ite_none_right_eq_some, Option.some.injEq] at taken
    obtain ⟨ready, rfl⟩ := taken
    exact .newContext ready
  | registerHostFunction =>
    simp only [Option.ite_none_right_eq_some, Option.some.injEq] at taken
    obtain ⟨ready, rfl⟩ := taken
    exact .registerHostFunction ready
  | hook =>
    simp only [Option.ite_none_right_eq_some, Option.some.injEq] at taken
    obtain ⟨ready, rfl⟩ := taken
    exact .hook ready
  | release =>
    simp only [Option.ite_none_right_eq_some, Option.some.injEq] at taken
    obtain ⟨⟨ready, named⟩, rfl⟩ := taken
    exact .release ready named
  | call => exact step_call threadID taken
  | enter => exact step_enter taken
  | load => exact step_load threadID taken
  | loadNext => exact step_loadNext threadID taken
  | begin => exact step_begin threadID taken
  | callback => exact step_callback threadID taken
  | imports => exact step_imports taken
  | finish => exact step_finish taken
  | adopt => exact step_adopt taken
  | leave => exact step_leave taken
  | mustEnter => exact step_mustEnter taken
  | finishRelease => exact step_finishRelease taken
  | bodyReturn => exact step_bodyReturn threadID taken
  | bodyError => exact step_bodyError threadID taken
  | newErrorValue => exact step_newErrorValue taken
  | newError => exact step_newError threadID taken
  | adoptError => exact step_adoptError taken
  | handoff => exact step_handoff threadID taken
  | retain => exact step_retain threadID taken
  | exit => exact step_exit taken
  | close => exact step_close taken
  | closeStep => exact step_closeStep taken

end Machine

end Gv8
