import Gv8.Handles.Aging

/-! The stack of the only thread: what each step does to it, what can be below its top, and
that a context that is closed is closed to the end before anything else happens. -/

set_option autoImplicit false

namespace Gv8

variable {threadID : Unit → Nat} {machine next : Machine Unit} {event : Event Unit} {old new stack : List Frame}

def Frame.Suspended : Frame → Prop
  | .op .. | .hook => True
  | .callback _ _ _ _ stage => stage = .body
  | .release _ | .deleting .. | .close _ => False

def Frame.Starts : Frame → Prop
  | .op .. | .hook | .release _ | .close _ => True
  | .callback kind _ _ _ stage => stage = .body ∨ kind = .missing
  | .deleting .. => False

def Runs (stack : List Frame) : Prop := mayCall stack = true ∨ mayCallBack stack = true

/-- A callback returns, or what it returned is passed on. -/
def Event.answers : Event Unit → Bool
  | .bodyReturn .. | .bodyError _ | .newErrorValue _ | .newError _ | .adoptError _ | .handoff _ | .retain ..
  | .exit _ => true
  | _ => false

inductive Shift : Event Unit → List Frame → List Frame → Prop where
  | same {event : Event Unit} {stack : List Frame} : event.answers = false → Runs stack → Shift event stack stack
  | push {event : Event Unit} {stack : List Frame} (frame : Frame) : event.answers = false → Runs stack → frame.Starts →
      (∀ ctx, frame = .close ctx → ∃ thread, event = .close thread ctx) → Shift event stack (frame :: stack)
  | proceed {event : Event Unit} {operation : Operation} {ctx : Nat} {operands : List Nat} {rest : List Frame}
      (stage after : Stage) :
      Shift event (.op operation ctx operands stage :: rest) (.op operation ctx operands after :: rest)
  | pop {event : Event Unit} {frame : Frame} {rest : List Frame} :
      ((∃ operation ctx operands stage, frame = .op operation ctx operands stage) ∨ frame = .hook) →
      Shift event (frame :: rest) rest
  | deletes {event : Event Unit} {value : Nat} {rest : List Frame} (held : Option Nat) :
      Shift event (.release value :: rest) (.deleting value held :: rest)
  | released {event : Event Unit} {top : Frame} {value : Nat} {rest : List Frame} : top.Releases value →
      Shift event (top :: rest) rest
  | answers {event : Event Unit} {kind : CallbackKind} {home : Option Nat} {natives lent : List Nat} {rest : List Frame}
      (stage after : CallbackStage) : event.answers = true → (∀ thread, event ≠ .exit thread) →
      Shift event (.callback kind home natives lent stage :: rest) (.callback kind home natives lent after :: rest)
  | releases {event : Event Unit} {home : Option Nat} {natives lent : List Nat} {rest : List Frame}
      (stage : CallbackStage) (result : Option Nat) (released : Nat) : event.answers = true →
      (∀ thread, event ≠ .exit thread) →
      Shift event (.callback .host home natives lent stage :: rest)
        (.release released :: .callback .host home natives lent (.handed result) :: rest)
  | exit {thread : Unit} {kind : CallbackKind} {home : Option Nat} {natives lent : List Nat}
      {result : Option Nat} {rest : List Frame} :
      Shift (.exit thread) (.callback kind home natives lent (.handed result) :: rest) rest
  | closing {thread : Unit} {ctx : Nat} {rest : List Frame} :
      Shift (.closeStep thread) (.close ctx :: rest) (.close ctx :: rest)
  | closed {thread : Unit} {ctx : Nat} {rest : List Frame} : Shift (.closeStep thread) (.close ctx :: rest) rest

@[simp] theorem Machine.frames_setStack (thread : Unit) : (machine.setStack thread stack).frames () = stack :=
  machine.setStack_frames_self thread stack

@[simp] theorem Machine.frames_setWorld (world : World) : (machine.setWorld world).frames = machine.frames := rfl

@[simp] theorem Machine.frames_raise {thread : Unit} {kind : CallbackKind} {ctx error : Option Nat} {natives lent : List Nat} :
    (machine.raise thread kind ctx natives lent error stack).frames () =
      .callback kind ctx natives lent (.handing error) :: stack :=
  frames_setStack thread

theorem Machine.frames_startRelease (machine : Machine Unit) (value : Nat) : (machine.startRelease () value).frames () = machine.frames () ∨
    (machine.startRelease () value).frames () = .release value :: machine.frames () := by
  unfold Machine.startRelease
  split
  · split
    · exact .inl rfl
    split
    · exact .inl rfl
    · exact .inr (frames_setStack ())
  · exact .inl rfl

theorem Machine.shift_step (taken : machine.step threadID event = some next) :
    Shift event (machine.frames ()) (next.frames ()) := by
  cases step_sound taken with
  | newContext ready | registerHostFunction ready | refuse ready | closeAgain ready => exact .same rfl (.inl ready)
  | importLost ready => exact .same rfl (.inr ready)
  | check ready =>
    rw [frames_setStack]
    exact .push _ rfl (.inl ready) trivial nofun
  | callHost ready | imports ready =>
    rw [frames_setStack]
    exact .push _ rfl (.inr ready) (.inl rfl) nofun
  | callLost ready | callMissing ready =>
    rw [frames_setStack]
    exact .push _ rfl (.inr ready) (.inr rfl) nofun
  | hook ready =>
    rw [frames_setStack]
    exact .push _ rfl (.inr ready) trivial nofun
  | close ready =>
    rw [frames_setStack]
    refine .push _ rfl (.inl ready) trivial ?_
    rintro _ ⟨⟩
    exact ⟨_, rfl⟩
  | release ready =>
    rcases machine.frames_startRelease _ with same | pushed
    · rw [same]
      exact .same rfl (.inl ready)
    · rw [pushed]
      exact .push _ rfl (.inl ready) trivial nofun
  | enter stack | load stack | loadNext stack | findNilContext stack | acceptNull stack | begin stack | finishBare stack | finishInContext stack
  | findMethod stack | finishOnReceiver stack | adopt stack | adoptNothing stack =>
    rw [stack, frames_setStack]
    exact .proceed _ _
  | crash stack =>
    change Shift _ _ (machine.frames ())
    rw [stack]
    exact .proceed _ _
  | turnAway stack | leave stack =>
    rw [stack, frames_setStack]
    exact .pop (.inl ⟨_, _, _, _, rfl⟩)
  | mustEnter stack =>
    rw [stack, frames_setStack]
    exact .deletes _
  | mustNotEnter stack | finishRelease stack | releaseNothing stack =>
    rw [stack, frames_setStack]
    exact .released rfl
  | bodyReturn _ stack | bodyError stack | newErrorValue stack | newError stack | newErrorNil stack | startHandoff stack
  | handOver stack =>
    rw [stack, frames_setStack]
    exact .answers _ _ rfl nofun
  | raiseNothing stack | adoptError stack | adoptNoError stack =>
    rw [stack, frames_raise]
    exact .answers _ _ rfl nofun
  | returnHook stack =>
    rw [stack, frames_setStack]
    exact .pop (.inr rfl)
  | retain stack =>
    rcases Machine.frames_startRelease (Machine.setStack _ _ _) _ with same | pushed
    · rw [stack, same, frames_setStack]
      exact .answers _ _ rfl nofun
    · rw [stack, pushed, frames_setStack]
      exact .releases _ _ _ rfl nofun
  | exitHost stack | exitImport stack =>
    rw [stack, frames_setStack]
    exact .exit
  | closeStep stack =>
    rw [frames_setWorld, stack]
    exact .closing
  | closed stack =>
    rw [stack, frames_setStack]
    exact .closed

/-- Below the top all calls are suspended, but for a callback whose result is being released. -/
inductive Shape : List Frame → Prop where
  | empty : Shape []
  | still {top : Frame} {rest : List Frame} : (∀ frame ∈ rest, frame.Suspended) → Shape (top :: rest)
  | releasing {top : Frame} {value : Nat} {home : Option Nat} {natives lent : List Nat} {result : Option Nat}
      {rest : List Frame} : top.Releases value → (∀ frame ∈ rest, frame.Suspended) →
      Shape (top :: .callback .host home natives lent (.handed result) :: rest)

theorem Shape.below {top : Frame} {rest : List Frame} (shape : Shape (top :: rest))
    (other : ∀ value, ¬ top.Releases value) : ∀ frame ∈ rest, frame.Suspended := by
  cases shape with
  | still below => exact below
  | releasing releases => exact absurd releases (other _)

theorem Shape.tail {top : Frame} {rest : List Frame} (shape : Shape (top :: rest)) : Shape rest := by
  cases shape with
  | still below =>
    cases rest with
    | nil => exact .empty
    | cons frame rest => exact .still fun other member => below other (.tail _ member)
  | releasing _ below => exact .still below

/-- The top may change, unless it releases a result. -/
theorem Shape.retop {top frame : Frame} {rest : List Frame} (shape : Shape (top :: rest))
    (releases : ∀ value, top.Releases value → frame.Releases value) : Shape (frame :: rest) := by
  cases shape with
  | still below => exact .still below
  | releasing releases' below => exact .releasing (releases _ releases') below

theorem Shape.suspended (shape : Shape stack) (ready : Runs stack) : ∀ frame ∈ stack, frame.Suspended := by
  cases stack with
  | nil => exact fun _ member => absurd member List.not_mem_nil
  | cons top rest =>
    have above : top.Suspended ∧ ∀ value, ¬ top.Releases value := by
      unfold Runs mayCall mayCallBack at ready
      cases top with
      | op | hook => exact ⟨trivial, fun _ => id⟩
      | callback kind home natives lent stage => cases stage <;> simp_all [Frame.Suspended, Frame.Releases]
      | release | deleting | close => simp at ready
    intro frame member
    rcases List.mem_cons.mp member with rfl | member
    · exact above.1
    · exact shape.below above.2 frame member

theorem Shape.shift (shape : Shape old) (shift : Shift event old new) : Shape new := by
  cases shift with
  | same => exact shape
  | push frame _ ready => exact .still (shape.suspended ready)
  | proceed | deletes | answers => exact shape.retop fun _ => id
  | pop | released | exit | closed => exact shape.tail
  | releases => exact .releasing rfl (shape.below fun _ => id)
  | closing => exact shape

/-- What holds between the steps of the only thread. -/
structure Tidy (machine : Machine Unit) : Prop where
  shape : Shape (machine.frames ())
  prompt : ∀ ctx object, machine.world.contexts.get ctx = some object → object.closed = true →
    object.closing = .done ∨ (machine.frames ()).head? = some (.close ctx)

theorem Shift.of_close {ctx : Nat} {rest : List Frame} (shift : Shift event old new)
    (stack : old = .close ctx :: rest) : ∃ thread, event = .closeStep thread := by
  have still : ¬ Runs (.close ctx :: rest) := by simp [Runs, mayCall, mayCallBack]
  cases shift with
  | same _ ready => exact absurd (stack ▸ ready) still
  | push frame _ ready => exact absurd (stack ▸ ready) still
  | pop kind =>
    cases stack
    rcases kind with ⟨_, _, _, _, same⟩ | same <;> cases same
  | released releases =>
    cases stack
    exact releases.elim
  | proceed | deletes | answers | releases | exit => cases stack
  | closing | closed => exact ⟨_, rfl⟩

theorem Tidy.step (tidy : Tidy machine) (taken : machine.step threadID event = some next) : Tidy next := by
  have shift := Machine.shift_step taken
  refine ⟨tidy.shape.shift shift, fun ctx object' found closed => ?_⟩
  by_cases closes : machine.Closes event ctx
  · cases Machine.step_sound taken with
    | closeAgain => exact tidy.prompt ctx object' found closed
    | close =>
      obtain rfl : ctx = _ := closes
      rw [Machine.frames_setStack]
      exact .inr rfl
    | closeStep =>
      rw [Machine.frames_setWorld]
      exact .inr closes
    | @closed _ other rest world stack closing done =>
      have top : (machine.frames ()).head? = some (.close ctx) := closes
      rw [stack] at top
      cases top
      have here : world.contexts.get ctx = some object' := found
      rw [here] at done
      exact .inl (Option.some.inj done)
    | _ => exact closes.elim
  · obtain ⟨object, was, closed', stage⟩ := (Machine.ages_step taken).closed ctx object' closes found closed
    rcases tidy.prompt ctx object was closed' with done | top
    · exact .inl (stage.trans done)
    · obtain ⟨rest, stack⟩ : ∃ rest, machine.frames () = .close ctx :: rest := by
        cases stack : machine.frames () with
        | nil =>
          rw [stack] at top
          cases top
        | cons frame rest =>
          rw [stack] at top
          cases top
          exact ⟨rest, rfl⟩
      obtain ⟨thread, rfl⟩ := shift.of_close stack
      exact absurd top closes

/-- A context that has not been disposed is open, unless a `Close` is at work. -/
theorem Tidy.isOpen (tidy : Tidy machine) (quiet : ∀ ctx, (machine.frames ()).head? ≠ some (.close ctx))
    {ctx ptr : Nat} (native : machine.world.nativeOf ctx = some ptr) :
    ∃ object, machine.world.contexts.get ctx = some object ∧ object.closed = false ∧ object.ptr = some ptr := by
  obtain ⟨object, known, has⟩ := World.ptr_of_nativeOf native
  refine ⟨object, known, ?_, has⟩
  by_contra closed
  rcases tidy.prompt ctx object known (by simpa using closed) with done | top
  · simp [World.nativeOf, known, Context.native, done] at native
  · exact quiet ctx top

/-- A wrapper that has a handle is valid, unless a `Close` is at work. -/
theorem Tidy.valid {own : Ownership Unit} (tidy : Tidy machine) (inv : Invariant own machine)
    (quiet : ∀ ctx, (machine.frames ()).head? ≠ some (.close ctx)) {value ptr : Nat}
    (holds : machine.world.ptrOf value = some ptr) : machine.world.valid value = true := by
  obtain ⟨object, found, has⟩ := Option.bind_eq_some_iff.mp holds
  obtain ⟨cell, -, native⟩ := inv.handle found has
  obtain ⟨ctx, known, unclosed, has'⟩ := tidy.isOpen quiet native
  simp [World.valid, found, has, World.isClosed, known, has', unclosed]

end Gv8
