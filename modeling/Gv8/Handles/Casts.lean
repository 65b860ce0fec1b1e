import Gv8.Handles.Wrappers

/-! Which casts are sound. The handle of a typed wrapper holds a value of the wrapper's kind for
as long as it is there, so every cast of a receiver is sound; the cast of a method is not. -/

set_option autoImplicit false

namespace Gv8.Casts

open Foundation

namespace Typed

variable {V : Type} {kinds : Kinds V} {state next : Typed V}

/-- What the pointer leads to, if it is there still, is of the kind. -/
def Fits (state : Typed V) (kinds : Kinds V) (ptr : Option Nat) (kind : Kind) : Prop :=
  ∀ name ∈ ptr, ∀ handle, state.handles.get name = some handle → kinds.is handle.value kind = true

/-- Every pointer of Go has come from V8. -/
def Bounded (state : Typed V) : Prop :=
  ∀ name value, state.values.get name = some value → ∀ handle ∈ value.ptr, handle < state.handles.next

structure Invariant (kinds : Kinds V) (state : Typed V) : Prop where
  bounded : state.Bounded
  wrapped : ∀ name wrapper, state.wrappers.get name = some wrapper → ∀ ref ∈ wrapper.value,
    ref < state.values.next ∧
      ∀ value, state.values.get ref = some value → state.Fits kinds value.ptr wrapper.wrap.kind
  called : ∀ name call, state.calls.get name = some call →
    call.handle < state.handles.next ∧ state.Fits kinds (some call.handle) call.op.cast.kind

/-- A value keeps its pointer or loses it. -/
def Loses (values later : Pool Value) : Prop :=
  values.next ≤ later.next ∧ ∀ name < values.next, ∀ value, later.get name = some value →
    ∃ old, values.get name = some old ∧ ∀ handle ∈ value.ptr, handle ∈ old.ptr

/-- What the wrappers and the calls that are there can see of a step. -/
structure Evolves (state next : Typed V) : Prop where
  handles : state.handles.Sheds next.handles
  values : Loses state.values next.values
  bounded : next.Bounded

theorem loses_refl (values : Pool Value) : Loses values values :=
  ⟨Nat.le_refl _, fun _ _ value found => ⟨value, found, fun _ => id⟩⟩

theorem loses_alloc (values : Pool Value) (value : Value) : Loses values (values.alloc value) := by
  refine ⟨Nat.le_succ _, fun name given found there => ?_⟩
  rw [Pool.get_alloc, if_neg (Nat.ne_of_lt given)] at there
  exact ⟨found, there, fun _ => id⟩

theorem loses_of_change {values later : Pool Value} (same : later.next = values.next)
    (change : ∀ name value, later.get name = some value →
      ∃ old, values.get name = some old ∧ ∀ handle ∈ value.ptr, handle ∈ old.ptr) : Loses values later :=
  ⟨Nat.le_of_eq same.symm, fun name _ => change name⟩

theorem Fits.evolve {ptr : Option Nat} {kind : Kind} (fits : state.Fits kinds ptr kind)
    (handles : state.handles.Sheds next.handles) (bounded : ∀ name ∈ ptr, name < state.handles.next) :
    next.Fits kinds ptr kind :=
  fun name member handle found => fits name member handle (handles.stays name (bounded name member) handle found)

/-- The invariant of the wrappers holds of what is left of them. -/
theorem Invariant.evolve (inv : state.Invariant kinds) (evolves : Evolves state next)
    (wrappers : next.wrappers = state.wrappers)
    (calls : ∀ name call, next.calls.get name = some call →
      ∃ old, state.calls.get name = some old ∧ call.op = old.op ∧ call.handle = old.handle) :
    next.Invariant kinds := by
  refine ⟨evolves.bounded, ?_, ?_⟩
  · intro name wrapper found ref member
    rw [wrappers] at found
    obtain ⟨given, fits⟩ := inv.wrapped name wrapper found ref member
    refine ⟨Nat.lt_of_lt_of_le given evolves.values.1, fun value there => ?_⟩
    obtain ⟨old, was, shrinks⟩ := evolves.values.2 ref given value there
    have kept := (fits old was).evolve evolves.handles (inv.bounded ref old was)
    exact fun handle member => kept handle (shrinks handle member)
  · intro name call found
    obtain ⟨old, was, op, handle⟩ := calls name call found
    obtain ⟨given, fits⟩ := inv.called name old was
    rw [op, handle]
    refine ⟨Nat.lt_of_lt_of_le given evolves.handles.next_le, ?_⟩
    apply fits.evolve evolves.handles
    intro other member
    cases member
    exact given

theorem bounded_of_loses (bounded : state.Bounded) (values : Loses state.values next.values)
    (same : next.values.next = state.values.next) (handles : state.handles.next ≤ next.handles.next) :
    next.Bounded := by
  intro name value found handle member
  have given : name < state.values.next := by
    rw [← same]
    exact Pool.lt_next_of_get _ found
  obtain ⟨old, was, shrinks⟩ := values.2 name given value found
  exact Nat.lt_of_lt_of_le (bounded name old was handle (shrinks handle member)) handles

theorem evolves_alloc (bounded : state.Bounded) (handle : Handle V) (value : Value)
    (made : ∀ name ∈ value.ptr, name = state.handles.next) :
    Evolves state { state with handles := state.handles.alloc handle, values := state.values.alloc value } := by
  refine ⟨state.handles.sheds_alloc handle, loses_alloc state.values value, ?_⟩
  intro name other found pointer member
  change (state.values.alloc value).get name = some other at found
  change pointer < state.handles.next + 1
  rw [Pool.get_alloc] at found
  split at found
  · cases found
    rw [made pointer member]
    exact Nat.lt_succ_self _
  · exact Nat.lt_succ_of_lt (bounded name other found pointer member)

theorem evolves_values (bounded : state.Bounded) {later : Pool Value} (loses : Loses state.values later)
    (same : later.next = state.values.next) : Evolves state { state with values := later } :=
  ⟨.refl _, loses, bounded_of_loses bounded loses same (Nat.le_refl _)⟩

theorem evolves_handles (bounded : state.Bounded) {later : Pool (Handle V)} (sheds : state.handles.Sheds later) :
    Evolves state { state with handles := later } :=
  ⟨sheds, loses_refl _, bounded_of_loses bounded (loses_refl _) rfl sheds.next_le⟩

theorem loses_modify (values : Pool Value) (name : Nat) {change : Value → Value}
    (shrinks : ∀ value, ∀ handle ∈ (change value).ptr, handle ∈ value.ptr) : Loses values (values.modify name change) := by
  apply loses_of_change
  · rfl
  · intro other value found
    obtain ⟨old, was, ⟨_, rfl⟩ | ⟨_, rfl⟩⟩ := Pool.get_modify_some found
    · exact ⟨old, was, shrinks old⟩
    · exact ⟨value, was, fun _ => id⟩

theorem enter_cases {call : Nat} (taken : state.enter call = some next) :
    ∃ found, state.calls.get call = some found ∧
      next = (state.addCast found.op.cast ((state.handles.get found.handle).map Handle.value)).setStage call .inside := by
  obtain ⟨found, there, taken⟩ := Option.bind_eq_some_iff.mp taken
  rw [Option.ite_none_right_eq_some] at taken
  exact ⟨found, there, (Option.some.inj taken.2).symm⟩

theorem lookup_cases {call : Nat} {method : Option V} (taken : state.lookup call method = some next) :
    ∃ found, state.calls.get call = some found ∧
      (method = none ∧ next = state.finish call ∨
        ∃ v, method = some v ∧ next = (({ state with handles := state.handles.alloc ⟨v, found.ctx, true⟩ } :
          Typed V).addCast .function (some v)).setStage call .calling) := by
  obtain ⟨found, there, taken⟩ := Option.bind_eq_some_iff.mp taken
  rw [Option.ite_none_right_eq_some] at taken
  refine ⟨found, there, ?_⟩
  cases method with
  | none => exact .inl ⟨rfl, (Option.some.inj taken.2).symm⟩
  | some v => exact .inr ⟨v, rfl, (Option.some.inj taken.2).symm⟩

theorem answer_cases {call : Nat} {v : Option V} (taken : state.answer kinds call v = some next) :
    next = state.finish call ∨ (∃ ctx v, next = (state.finish call).newValue ctx v) ∨
      ∃ ctx v, kinds.is v .promise = true ∧ next = (state.finish call).wrapNew .promise ctx v := by
  obtain ⟨found, _, taken⟩ := Option.bind_eq_some_iff.mp taken
  rw [Option.ite_none_right_eq_some] at taken
  obtain ⟨_, taken⟩ := taken
  cases v with
  | none => exact .inl (Option.some.inj taken).symm
  | some v =>
    dsimp only at taken
    split at taken
    · exact .inr (.inl ⟨found.ctx, v, (Option.some.inj taken).symm⟩)
    · split at taken
      · obtain ⟨isKind, taken⟩ := Option.ite_none_right_eq_some.mp taken
        exact .inr (.inr ⟨found.ctx, v, isKind, (Option.some.inj taken).symm⟩)
      · exact .inl (Option.some.inj taken).symm

theorem convert_cases {kind : Wrap} {value : Nat} (taken : state.convert kinds kind value = some next) :
    next = state ∨ next = state.wrap kind value ∧
      ∃ found, state.values.get value = some found ∧ state.Fits kinds found.ptr kind.kind := by
  obtain ⟨found, there, done⟩ := Option.bind_eq_some_iff.mp taken
  obtain rfl := Option.some.inj done
  split
  · next asked =>
    refine .inr ⟨rfl, found, there, ?_⟩
    intro name member handle atName
    rw [Bool.and_eq_true, read, member, Option.bind_some, atName] at asked
    exact asked.2
  · exact .inl rfl

/-- The checks of an operation pass, and its receiver fits; or they do not. -/
theorem start_cases {op : Operation} {wrapper : Nat} (taken : state.start op wrapper = some next) :
    next = state ∨ ∃ receiver ref value handle, state.wrappers.get wrapper = some receiver ∧
      op.receives receiver.wrap = true ∧ ref ∈ receiver.value ∧ state.values.get ref = some value ∧
        handle ∈ value.ptr ∧ next = { state with calls := state.calls.alloc ⟨op, handle, value.ctx, .loaded⟩ } := by
  -- A nil wrapper, an invalid value or one without a pointer is refused in Go.
  obtain ⟨receiver, found, taken⟩ := Option.bind_eq_some_iff.mp taken
  rw [Option.ite_none_right_eq_some] at taken
  obtain ⟨receives, taken⟩ := taken
  cases embedded : receiver.value.bind state.values.get with
  | none =>
    rw [embedded] at taken
    exact .inl (Option.some.inj taken).symm
  | some value =>
    simp only [embedded] at taken
    split at taken
    · exact .inl (Option.some.inj taken).symm
    · obtain ⟨ref, member, there⟩ := Option.bind_eq_some_iff.mp embedded
      cases passed : value.ptr with
      | none =>
        rw [passed] at taken
        exact .inl (Option.some.inj taken).symm
      | some handle =>
        rw [passed] at taken
        exact .inr ⟨receiver, ref, value, handle, found, receives, member, there, passed, (Option.some.inj taken).symm⟩

theorem inspect_cases {cast : V → Option Cast} {value : Nat} (taken : state.inspect cast value = some next) :
    next = state ∨ ∃ v, next = state.ask cast v := by
  obtain ⟨found, there, taken⟩ := Option.bind_eq_some_iff.mp taken
  split at taken
  · obtain rfl := Option.some.inj taken
    cases state.read found with
    | none => exact .inl rfl
    | some v => exact .inr ⟨v, rfl⟩
  · exact .inl (Option.some.inj taken).symm

section steps

variable (inv : state.Invariant kinds)
include inv

theorem Invariant.of_evolves (evolves : Evolves state next) (wrappers : next.wrappers = state.wrappers)
    (calls : next.calls = state.calls) : next.Invariant kinds :=
  inv.evolve evolves wrappers fun _ call found => ⟨call, calls ▸ found, rfl, rfl⟩

theorem Invariant.newValue (ctx : Nat) (v : V) : (state.newValue ctx v).Invariant kinds := by
  apply inv.of_evolves (evolves_alloc inv.bounded _ _ _) rfl rfl
  intro name member
  simp only [Option.mem_def, Option.ite_none_left_eq_some, Option.some.injEq] at member
  exact member.2.symm

theorem Invariant.newBorrowedValue (ctx : Nat) (v : V) : (state.newBorrowedValue ctx v).Invariant kinds :=
  inv.of_evolves (evolves_alloc inv.bounded _ _ fun _ same => (Option.some.inj same).symm) rfl rfl

theorem Invariant.invalidate (value : Nat) : (state.invalidate value).Invariant kinds :=
  inv.of_evolves (evolves_values inv.bounded (loses_modify _ _ nofun) rfl) rfl rfl

theorem Invariant.untrack (value : Nat) : (state.untrack value).Invariant kinds :=
  inv.of_evolves (evolves_values inv.bounded (loses_modify _ _ fun _ _ => id) rfl) rfl rfl

theorem Invariant.delete (ptr : Option Nat) : (state.delete ptr).Invariant kinds := by
  cases ptr with
  | none => exact inv
  | some handle => exact inv.of_evolves (evolves_handles inv.bounded (state.handles.sheds_free handle)) rfl rfl

theorem Invariant.close (ctx : Nat) : (state.close ctx).Invariant kinds := by
  have loses : Loses state.values (state.close ctx).values := by
    apply loses_of_change
    · rfl
    · intro name value found
      obtain ⟨old, was, rfl⟩ := Option.map_eq_some_iff.mp found
      refine ⟨old, was, ?_⟩
      split
      · exact nofun
      · exact fun _ => id
  exact inv.of_evolves ⟨.refl _, loses, bounded_of_loses inv.bounded loses rfl (Nat.le_refl _)⟩ rfl rfl

theorem Invariant.wrap {value : Nat} {kind : Wrap} (given : value < state.values.next)
    (fits : ∀ found, state.values.get value = some found → state.Fits kinds found.ptr kind.kind) :
    (state.wrap kind value).Invariant kinds := by
  refine { inv with wrapped := ?_ }
  intro name wrapper found ref member
  change (state.wrappers.alloc ⟨kind, some value⟩).get name = some wrapper at found
  rw [Pool.get_alloc] at found
  split at found
  · cases found
    cases member
    exact ⟨given, fits⟩
  · exact inv.wrapped name wrapper found ref member

theorem Invariant.wrapNew {kind : Wrap} {v : V} (isKind : kinds.is v kind.kind = true) (ctx : Nat) :
    (state.wrapNew kind ctx v).Invariant kinds := by
  apply (inv.newValue ctx v).wrap (Nat.lt_succ_self _)
  intro found same name member handle there
  change (state.values.alloc _).get state.values.next = some found at same
  change (state.handles.alloc ⟨v, ctx, true⟩).get name = some handle at there
  rw [Pool.get_alloc_next] at same
  cases same
  simp only [Option.mem_def, Option.ite_none_left_eq_some, Option.some.injEq] at member
  obtain ⟨_, rfl⟩ := member
  rw [Pool.get_alloc_next] at there
  cases there
  exact isKind

theorem Invariant.convert {kind : Wrap} {value : Nat} (taken : state.convert kinds kind value = some next) :
    next.Invariant kinds := by
  rcases convert_cases taken with rfl | ⟨rfl, found, there, fits⟩
  · exact inv
  · apply inv.wrap (Pool.lt_next_of_get _ there)
    intro other same
    cases there.symm.trans same
    exact fits

omit inv in
theorem fits_cast {op : Operation} {wrap : Wrap} (receives : op.receives wrap = true) {v : V}
    (isKind : kinds.is v wrap.kind = true) : kinds.is v op.cast.kind = true := by
  have object : wrap = .object ∨ wrap = .function → kinds.is v .object = true := by
    rintro (rfl | rfl)
    · exact isKind
    · exact kinds.object_of_function v isKind
  cases op with
  | get | getIdx | has | set | setIdx | callMethod => exact object (of_decide_eq_true receives)
  | call | state | result | dynamicImport | promise | resolve | reject =>
    cases of_decide_eq_true receives
    exact isKind

theorem Invariant.start {op : Operation} {wrapper : Nat} (taken : state.start op wrapper = some next) :
    next.Invariant kinds := by
  rcases start_cases taken with rfl | ⟨receiver, ref, value, handle, found, receives, member, there, passed, rfl⟩
  · exact inv
  · have fits := (inv.wrapped wrapper receiver found ref member).2 value there
    refine { inv with called := ?_ }
    intro name call atName
    rw [Pool.get_alloc] at atName
    split at atName
    · cases atName
      refine ⟨inv.bounded ref value there handle passed, ?_⟩
      intro other same held atOther
      cases same
      exact fits_cast receives (fits handle passed held atOther)
    · exact inv.called name call atName

theorem Invariant.of_calls {later : Pool Call} (calls : ∀ name call, later.get name = some call →
      ∃ old, state.calls.get name = some old ∧ call.op = old.op ∧ call.handle = old.handle) :
    ({ state with calls := later } : Typed V).Invariant kinds := by
  refine { inv with called := ?_ }
  intro name call found
  obtain ⟨old, was, op, handle⟩ := calls name call found
  rw [op, handle]
  exact inv.called name old was

theorem Invariant.setStage (call : Nat) (stage : Stage) : (state.setStage call stage).Invariant kinds := by
  apply inv.of_calls
  intro name changed found
  obtain ⟨old, was, ⟨_, rfl⟩ | ⟨_, rfl⟩⟩ := Pool.get_modify_some found
  · exact ⟨old, was, rfl, rfl⟩
  · exact ⟨changed, was, rfl, rfl⟩

theorem Invariant.finish (call : Nat) : (state.finish call).Invariant kinds := by
  apply inv.of_calls
  intro name other found
  rw [Pool.get_free] at found
  split at found
  · cases found
  · exact ⟨other, found, rfl, rfl⟩

theorem Invariant.addCast (cast : Cast) (v : Option V) : (state.addCast cast v).Invariant kinds := { inv with }

theorem Invariant.ask (cast : V → Option Cast) (v : V) : (state.ask cast v).Invariant kinds := by
  unfold Typed.ask
  split
  · exact inv
  · exact inv.addCast _ _

theorem Invariant.inspect {cast : V → Option Cast} {value : Nat} (taken : state.inspect cast value = some next) :
    next.Invariant kinds := by
  rcases inspect_cases taken with rfl | ⟨v, rfl⟩
  · exact inv
  · exact inv.ask cast v

theorem Invariant.enter {call : Nat} (taken : state.enter call = some next) : next.Invariant kinds := by
  obtain ⟨found, _, rfl⟩ := enter_cases taken
  exact (inv.addCast _ _).setStage call .inside

theorem Invariant.lookup {call : Nat} {method : Option V} (taken : state.lookup call method = some next) :
    next.Invariant kinds := by
  obtain ⟨found, _, ⟨_, rfl⟩ | ⟨v, _, rfl⟩⟩ := lookup_cases taken
  · exact inv.finish call
  · have alloc := inv.of_evolves
      (evolves_handles inv.bounded (state.handles.sheds_alloc ⟨v, found.ctx, true⟩)) rfl rfl
    exact (alloc.addCast _ _).setStage call .calling

theorem Invariant.answer {call : Nat} {v : Option V} (taken : state.answer kinds call v = some next) :
    next.Invariant kinds := by
  have ended := inv.finish call
  rcases answer_cases taken with rfl | ⟨ctx, v, rfl⟩ | ⟨ctx, v, isKind, rfl⟩
  · exact ended
  · exact ended.newValue ctx v
  · exact ended.wrapNew isKind ctx

end steps

theorem Invariant.step (inv : state.Invariant kinds) {event : Event V} (taken : state.step kinds event = some next) :
    next.Invariant kinds := by
  cases event with
  | newValue ctx v =>
    cases taken
    exact inv.newValue ctx v
  | global ctx v | moduleNamespace ctx v =>
    obtain ⟨isKind, ⟨⟩⟩ := Option.ite_none_right_eq_some.mp taken
    exact inv.wrapNew isKind ctx
  | newPromiseResolver ctx v =>
    obtain ⟨isKind, ⟨⟩⟩ := Option.ite_none_right_eq_some.mp taken
    exact inv.wrapNew isKind ctx
  | newObject ctx v | newArray ctx v => exact (inv.newValue ctx v).convert taken
  | newFunction ctx v => exact (inv.newValue ctx v).convert taken
  | toObject value => exact inv.convert taken
  | toFunction value => exact inv.convert taken
  | toPromise value => exact inv.convert taken
  | newBorrowedValue ctx v =>
    cases taken
    exact inv.newBorrowedValue ctx v
  | invalidate value =>
    cases taken
    exact inv.invalidate value
  | dropBorrowed handle =>
    obtain ⟨found, _, taken⟩ := Option.bind_eq_some_iff.mp taken
    obtain ⟨_, ⟨⟩⟩ := Option.ite_none_left_eq_some.mp taken
    exact inv.delete _
  | release value =>
    obtain ⟨found, _, taken⟩ := Option.bind_eq_some_iff.mp taken
    obtain rfl := Option.some.inj taken
    split
    · exact inv.invalidate value
    · exact ((inv.untrack value).delete found.ptr).invalidate value
  | releaseFails value =>
    obtain ⟨found, _, taken⟩ := Option.bind_eq_some_iff.mp taken
    obtain ⟨_, ⟨⟩⟩ := Option.ite_none_right_eq_some.mp taken
    exact inv.untrack value
  | close ctx =>
    cases taken
    exact inv.close ctx
  | contextDispose ctx =>
    obtain ⟨_, ⟨⟩⟩ := Option.ite_none_right_eq_some.mp taken
    exact inv.of_evolves (evolves_handles inv.bounded (state.handles.sheds_filter _)) rfl rfl
  | start op wrapper => exact inv.start taken
  | enter call => exact inv.enter taken
  | lookup call method => exact inv.lookup taken
  | answer call v => exact inv.answer taken
  | bytes value => exact inv.inspect taken
  | len value => exact inv.inspect taken
  | errorFromMessage v =>
    cases taken
    exact inv.ask _ v

theorem initial_invariant : (initial : Typed V).Invariant kinds := ⟨nofun, nofun, nofun⟩

def SoundCast (kinds : Kinds V) (cast : Cast × Option V) : Prop :=
  ∃ v, cast.2 = some v ∧ kinds.is v cast.1.kind = true

def Sound (kinds : Kinds V) (state : Typed V) : Prop := ∀ cast ∈ state.casts, SoundCast kinds cast

/-- The handle that has been passed to a native function is still there when it begins, and
the lookup of CallMethod throws or gives what can be called. -/
def Proper (kinds : Kinds V) (state : Typed V) : Event V → Prop
  | .enter call => ∀ found ∈ state.calls.get call, (state.handles.get found.handle).isSome = true
  | .lookup _ (some method) => kinds.is method .function = true
  | _ => True

instance Proper.decidable (kinds : Kinds V) (state : Typed V) (event : Event V) : Decidable (state.Proper kinds event) := by
  unfold Proper
  split <;> infer_instance

theorem sound_of_cast {cast : Cast} {v : Option V} (same : next.casts = state.casts ++ [(cast, v)]) :
    next.Sound kinds ↔ state.Sound kinds ∧ SoundCast kinds (cast, v) := by
  rw [Sound, same, List.forall_mem_append, List.forall_mem_singleton, Sound]

/-- A native function that asks first makes sound casts only. -/
def Asks (kinds : Kinds V) (cast : V → Option Cast) : Prop :=
  ∀ v made, cast v = some made → kinds.is v made.kind = true

theorem asks_bytesCast : Asks kinds (bytesCast kinds) := by
  intro v made same
  unfold bytesCast at same
  split_ifs at same <;> cases same <;> assumption

theorem asks_lenCast : Asks kinds (lenCast kinds) := by
  intro v made same
  unfold lenCast at same
  split_ifs at same <;> cases same <;> assumption

theorem asks_errorCast : Asks kinds (errorCast kinds) := by
  intro v made same
  unfold errorCast at same
  split_ifs at same
  cases same
  assumption

theorem sound_ask_iff {cast : V → Option Cast} (asks : Asks kinds cast) (v : V) :
    (state.ask cast v).Sound kinds ↔ state.Sound kinds := by
  unfold ask
  split
  · rfl
  · next made found =>
    exact (sound_of_cast rfl).trans (and_iff_left ⟨v, rfl, asks v made found⟩)

theorem sound_inspect_iff {cast : V → Option Cast} (asks : Asks kinds cast) {value : Nat}
    (taken : state.inspect cast value = some next) : next.Sound kinds ↔ state.Sound kinds := by
  rcases inspect_cases taken with rfl | ⟨v, rfl⟩
  · rfl
  · exact sound_ask_iff asks v

theorem casts_convert {kind : Wrap} {value : Nat} (taken : state.convert kinds kind value = some next) :
    next.casts = state.casts := by
  rcases convert_cases taken with rfl | ⟨rfl, _⟩
  · rfl
  · rfl

theorem sound_of_casts (same : next.casts = state.casts) : next.Sound kinds ↔ state.Sound kinds := by
  rw [Sound, Sound, same]

/-- After one more step every cast is sound if it was before and the step is proper. -/
theorem Invariant.sound_step_iff (inv : state.Invariant kinds) {event : Event V}
    (taken : state.step kinds event = some next) :
    next.Sound kinds ↔ state.Sound kinds ∧ state.Proper kinds event := by
  have quiet (same : next.casts = state.casts) : next.Sound kinds ↔ state.Sound kinds ∧ True :=
    (sound_of_casts same).trans (and_iff_left trivial).symm
  cases event with
  | newValue | newBorrowedValue | invalidate | close =>
    cases taken
    exact quiet rfl
  | global | moduleNamespace | newPromiseResolver | contextDispose =>
    obtain ⟨_, ⟨⟩⟩ := Option.ite_none_right_eq_some.mp taken
    exact quiet rfl
  | newObject ctx v | newArray ctx v =>
    have taken : (state.newValue ctx v).convert kinds .object state.values.next = some next := taken
    have same := casts_convert taken
    exact quiet same
  | newFunction ctx v =>
    have taken : (state.newValue ctx v).convert kinds .function state.values.next = some next := taken
    have same := casts_convert taken
    exact quiet same
  | toObject | toFunction | toPromise => exact quiet (casts_convert taken)
  | dropBorrowed handle =>
    obtain ⟨found, _, taken⟩ := Option.bind_eq_some_iff.mp taken
    obtain ⟨_, ⟨⟩⟩ := Option.ite_none_left_eq_some.mp taken
    exact quiet rfl
  | release value =>
    obtain ⟨found, _, taken⟩ := Option.bind_eq_some_iff.mp taken
    obtain rfl := Option.some.inj taken
    apply quiet
    cases found.borrowed <;> cases found.ptr <;> rfl
  | releaseFails value =>
    obtain ⟨found, _, taken⟩ := Option.bind_eq_some_iff.mp taken
    obtain ⟨_, ⟨⟩⟩ := Option.ite_none_right_eq_some.mp taken
    exact quiet rfl
  | start op wrapper =>
    rcases start_cases taken with rfl | ⟨_, _, _, _, _, _, _, _, _, rfl⟩
    · exact quiet rfl
    · exact quiet rfl
  | enter call =>
    obtain ⟨found, there, rfl⟩ := enter_cases taken
    -- The handle fitted when the call began; what is open is whether it is still there.
    have fits := (inv.called call found there).2
    refine (sound_of_cast rfl).trans (and_congr_right fun _ => ?_)
    constructor
    · rintro ⟨v, same, _⟩ other same'
      cases there.symm.trans same'
      obtain ⟨handle, held, _⟩ := Option.map_eq_some_iff.mp same
      rw [held]
      rfl
    · intro proper
      obtain ⟨handle, held⟩ := Option.isSome_iff_exists.mp (proper found there)
      exact ⟨handle.value, by rw [held]; rfl, fits found.handle rfl handle held⟩
  | lookup call method =>
    obtain ⟨found, _, ⟨rfl, rfl⟩ | ⟨v, rfl, rfl⟩⟩ := lookup_cases taken
    · exact quiet rfl
    · refine (sound_of_cast rfl).trans (and_congr_right fun _ => ?_)
      constructor
      · rintro ⟨_, same, isKind⟩
        cases same
        exact isKind
      · exact fun isKind => ⟨v, rfl, isKind⟩
  | answer call v =>
    rcases answer_cases taken with rfl | ⟨ctx, v, rfl⟩ | ⟨ctx, v, _, rfl⟩
    · exact quiet rfl
    · exact quiet rfl
    · exact quiet rfl
  | bytes value => exact (sound_inspect_iff asks_bytesCast taken).trans (and_iff_left trivial).symm
  | len value => exact (sound_inspect_iff asks_lenCast taken).trans (and_iff_left trivial).symm
  | errorFromMessage v =>
    cases taken
    exact (sound_ask_iff asks_errorCast v).trans (and_iff_left trivial).symm

/-- Every cast is applied to a value of its kind: this holds of a run just when every native
function finds its handle, and every method that is looked up can be called. -/
theorem casts_sound_iff {events : List (Event V)} {final : Typed V}
    (run : Run (step kinds) (fun _ _ => True) initial events final) :
    final.Sound kinds ↔ Run (step kinds) (Proper kinds) initial events final := by
  have keeps : ∀ (state : Typed V) event next, state.Invariant kinds → True →
      state.step kinds event = some next → next.Invariant kinds := fun _ _ _ inv _ taken => inv.step taken
  have exact : ∀ (state : Typed V) event next, state.Invariant kinds → True →
      state.step kinds event = some next → (next.Sound kinds ↔ state.Sound kinds ∧ state.Proper kinds event) :=
    fun _ _ _ inv _ taken => inv.sound_step_iff taken
  exact (Run.kept_iff _ _ keeps exact run initial_invariant).trans (and_iff_right nofun)

/-- Values that are of one kind, and objects besides unless they are strings; `none` is undefined. -/
def plain : Kinds (Option Kind) where
  is v kind := v = some kind ∨ kind = .object ∧ v ≠ none ∧ v ≠ some .string
  object_of_function := by
    intro v isFunction
    have isFunction := of_decide_eq_true isFunction
    rcases isFunction with rfl | ⟨wrong, _⟩
    · rfl
    · cases wrong

/-- A method is called, and the promise that it gives is asked for its state. -/
def calledMethod : List (Event (Option Kind)) :=
  [.global 1 (some .object), .start .callMethod 0, .enter 0, .lookup 0 (some (some .function)),
    .answer 0 (some (some .promise)), .toPromise 1, .start .state 1, .enter 1]

theorem casts_sound_iff_called : ∃ final : Typed (Option Kind),
    Run (step plain) (fun _ _ => True) initial calledMethod final ∧ final.casts.length = 3 ∧ final.Sound plain := by
  have admitted : Admitted (step plain) (Proper plain) initial calledMethod := by decide +kernel
  obtain ⟨final, run, casts⟩ := Run.exists_of_execute
    (fun final : Typed (Option Kind) => final.casts.length = 3) admitted (by decide +kernel)
  have free : Run (step plain) (fun _ _ => True) initial calledMethod final := .of_execute (.free _ _ _) run.execute_eq
  exact ⟨final, free, casts, (casts_sound_iff free).mpr run⟩

/-- CallMethod of a property that is not there. -/
def missingMethod : List (Event (Option Kind)) :=
  [.global 1 (some .object), .start .callMethod 0, .enter 0, .lookup 0 (some none)]

theorem undefined_cast : ∃ final : Typed (Option Kind),
    Run (step plain) (fun _ _ => True) initial missingMethod final ∧
      (.function, some none) ∈ final.casts ∧ ¬ final.Sound plain := by
  obtain ⟨final, run, cast⟩ := Run.exists_of_execute
    (fun final : Typed (Option Kind) => (Cast.function, some none) ∈ final.casts)
    (.free (step plain) initial missingMethod) (by decide +kernel)
  refine ⟨final, run, cast, fun sound => ?_⟩
  obtain ⟨v, same, isFunction⟩ := sound _ cast
  cases same
  cases isFunction

end Typed

end Gv8.Casts
