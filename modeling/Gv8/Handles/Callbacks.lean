import Gv8.Handles.Calls

/-! The steps of callbacks keep the invariant: a host function or resolver starts, returns
a value or an error, and its result is handed to C++; and the first half of a release. -/

set_option autoImplicit false

namespace Gv8

open Foundation

variable {Thread : Type} {own : Ownership Thread} {machine next : Machine Thread} {thread : Thread}

theorem Native.wrapBorrowedValues_spec (native : Native) (ctx count : Nat) :
    Native.Grows native (native.wrapBorrowedValues ctx count).1 ∧
    (native.WellFormed → (native.wrapBorrowedValues ctx count).1.WellFormed) ∧
    (native.wrapBorrowedValues ctx count).2.Nodup ∧
    ∀ ptr ∈ (native.wrapBorrowedValues ctx count).2,
      (native.wrapBorrowedValues ctx count).1.values.get ptr = some ⟨0, ctx⟩ ∧
      native.values.get ptr = none := by
  induction count generalizing native with
  | zero => exact ⟨.refl _, id, List.nodup_nil, nofun⟩
  | succ count ih =>
    obtain ⟨grows, wellFormed, nodup, cells⟩ := ih (native.wrapBorrowedValue ctx).1
    have first : Native.Grows native (native.wrapBorrowedValue ctx).1 := Native.wrapBorrowedValue_grows
    have here : (native.wrapBorrowedValue ctx).1.values.get native.values.next = some ⟨0, ctx⟩ := by
      simp [Native.get_wrapBorrowedValue]
    refine ⟨first.trans grows, fun before => wellFormed before.wrapBorrowedValue,
      List.nodup_cons.mpr ⟨fun member => ?_, nodup⟩, fun ptr member => ?_⟩
    · have absent := (cells native.values.next member).2
      rw [here] at absent
      cases absent
    · rcases List.mem_cons.mp member with rfl | member
      · exact ⟨grows.values _ _ not_false here, native.values.get_next⟩
      · obtain ⟨alive, absent⟩ := cells ptr member
        refine ⟨alive, ?_⟩
        rw [Native.get_wrapBorrowedValue] at absent
        split at absent
        · cases absent
        · exact absent

variable [DecidableEq Thread] {threadID : Thread → Nat}

/-- The rule for a step that starts a call and deletes nothing. -/
theorem Invariant.start (inv : Invariant own machine) (own' : Ownership Thread) {frame : Frame}
    (keeps : World.Keeps (fun _ => False) machine.world next.world)
    (wellFormed : next.world.native.WellFormed)
    (frames : next.frames = Function.update machine.frames thread (frame :: machine.frames thread))
    (agrees : ∀ ptr cell, machine.world.native.values.get ptr = some cell → own' ptr = own ptr)
    (ok : Frame.Ok next.world own' thread (machine.frames thread).length frame)
    (fresh : ∀ value object, machine.world.values.get value = none →
      next.world.values.get value = some object → next.Held own' value object) :
    Invariant own' next := by
  have before : machine.frames thread = [] ++ machine.frames thread := rfl
  have after : next.frames thread = [frame] ++ machine.frames thread := by
    rw [frames, Function.update_self]
    rfl
  exact inv.keeps keeps wellFormed (fun ptr cell holder found mine _ => (agrees ptr cell found).trans mine)
    before after (fun other differ => by rw [frames, Function.update_of_ne differ])
    (fun below => ⟨ok, below⟩) (fun _ member => absurd member List.not_mem_nil)
    (fun _ acting => by simp at acting) fresh

omit [DecidableEq Thread] in
theorem Frame.Ok.stage {world next : World} {own own' : Ownership Thread} {position : Nat}
    {kind : CallbackKind} {home : Option Nat} {natives lent : List Nat} {stage stage' : CallbackStage}
    (untracked : Nat → Prop) (keeps : World.Keeps untracked world next) (agrees : ∀ ptr ∈ natives, own' ptr = own ptr)
    (ok : Frame.Ok world own thread position (.callback kind home natives lent stage))
    (handled : Frame.CallbackOk next own' thread position kind home stage') :
    Frame.Ok next own' thread position (.callback kind home natives lent stage') := by
  obtain ⟨nodup, owned, native, wrappers, -⟩ := ok
  refine ⟨nodup, fun ptr member => ?_, fun name same => ⟨?_, fun missing after => ?_⟩,
    fun value member => ?_, handled⟩
  · obtain ⟨mine, ctx, found, here⟩ := owned ptr member
    exact ⟨(agrees ptr member).trans mine, ctx, keeps.native.values ptr _ not_false found,
      fun name same => (keeps.nativeOf name).trans (here name same)⟩
  · obtain ⟨⟨ptr, found⟩, -⟩ := native name same
    exact ⟨ptr, (keeps.nativeOf name).trans found⟩
  · exact (native name same).2 missing (keeps.open after)
  · obtain ⟨object, found, borrowed, internal⟩ := wrappers value member
    obtain ⟨object', found', -, borrowed', internal', -⟩ := keeps.values value object found
    exact ⟨object', found', borrowed'.trans borrowed, internal'.trans internal⟩

theorem Invariant.restage (inv : Invariant own machine) {kind : CallbackKind} {home : Option Nat} {natives lent : List Nat}
    {stage stage' : CallbackStage} {rest : List Frame}
    (stack : machine.frames thread = .callback kind home natives lent stage :: rest) (world : next.world = machine.world)
    (frames : next.frames = Function.update machine.frames thread (.callback kind home natives lent stage' :: rest))
    (handled : Frame.CallbackOk machine.world own thread rest.length kind home stage') : Invariant own next :=
  inv.retop stack world frames (fun ok => ok.stage (fun _ => False) (.refl _) (fun _ _ => rfl) handled)
    (fun _ _ _ lends => by cases kind <;> exact lends) fun _ => id

theorem Invariant.raise (inv : Invariant own machine) {kind : CallbackKind} {home : Option Nat} {natives lent : List Nat}
    {stage : CallbackStage} {rest : List Frame} (entry : Entry)
    (stack : machine.frames thread = .callback kind home natives lent stage :: rest) :
    Invariant own ({ machine with entry }.raise thread kind home natives lent none rest) := by
  have handing : Invariant own ({ machine with entry }.setStack thread
      (.callback kind home natives lent (.handing none) :: rest)) := inv.restage stack rfl rfl nofun
  exact handing.invalidateAll thread lent

theorem Invariant.imports (inv : Invariant own machine) {ctx : Nat} {stale : Int}
    (live : machine.world.native.Live ctx) (step : machine.Step threadID (.imports thread ctx stale) next) :
    Invariant own next := by
  have read : machine.contextRead ctx = machine := by
    rw [Machine.contextRead, Native.readCtx_of_live live, World.setNative_self, Machine.setWorld_self]
  cases step with
  | importLost =>
    rw [read]
    exact inv
  | imports ready registry =>
    rw [read]
    exact inv.push ⟨List.nodup_nil, nofun,
      fun name same => ⟨⟨ctx, Option.some.inj same ▸ inv.refs.resolves live registry⟩, nofun⟩, nofun, nofun⟩

theorem Invariant.bodyReturn (inv : Invariant own machine) {value : Option Nat}
    (step : machine.Step threadID (.bodyReturn thread value) next) : Invariant own next := by
  cases step with
  | returnHook stack => exact inv.pop stack rfl rfl (fun _ _ _ => id) fun _ => False.elim
  | bodyReturn named stack =>
    refine inv.restage stack rfl rfl fun name same => ?_
    obtain ⟨object, found, -⟩ := named name same
    exact ⟨⟨object, found⟩, fun missing => absurd missing (inv.top stack).2.2.2.2⟩

theorem Invariant.bodyError (inv : Invariant own machine) (step : machine.Step threadID (.bodyError thread) next) :
    Invariant own next := by
  cases step with
  | bodyError stack => exact inv.restage stack rfl rfl trivial

theorem Invariant.newErrorValue (inv : Invariant own machine)
    (step : machine.Step threadID (.newErrorValue thread) next) : Invariant own next := by
  cases step with
  | raiseNothing stack => exact inv.raise machine.entry stack
  | newErrorValue stack =>
    obtain ⟨-, -, native, -⟩ := inv.top stack
    obtain ⟨⟨ptr, found⟩, -⟩ := native _ rfl
    exact inv.restage stack rfl rfl ⟨_, ptr, rfl, Machine.ctxPtr_of_nativeOf found, found⟩

theorem Invariant.newError (inv : Invariant own machine) (step : machine.Step threadID (.newError thread) next) :
    ∃ own', Invariant own' next := by
  cases step with
  | newErrorNil stack =>
    obtain ⟨-, -, -, -, _, _, -, ⟨⟩, -⟩ := inv.top stack
  | @newError _ kind ptr home natives lent rest stack =>
    have ok := inv.top stack
    obtain ⟨ctx, _, same, ⟨⟩, native⟩ := ok.2.2.2.2
    have live := inv.contexts.live ctx ptr native
    let result := machine.world.native.values.next
    -- The callback owns the handle until a wrapper takes it.
    let mine : Ownership Thread := Function.update own result (some (.frame thread rest.length))
    have agrees : ∀ other, other ≠ result → mine other = own other :=
      fun other differ => Function.update_of_ne differ _ _
    rw [Native.readCtx_of_live live]
    have keeps : World.Keeps (fun _ => False) machine.world
        (machine.world.setNative (machine.world.native.wrapValue ptr).1) :=
      World.keeps_setNative (Native.wrapValue_grows live)
    refine ⟨mine, inv.wrapped mine live stack rfl rfl agrees (fun _ _ _ lends => by cases kind <;> exact lends)
      (fun _ => id) (ok.stage _ keeps (fun other member => ?_) fun pointer made => ?_)⟩
    · obtain ⟨-, _, present, -⟩ := ok.2.1 other member
      exact agrees other (machine.world.native.values.ne_next_of_get present)
    · cases made
      exact ⟨Function.update_self _ _ _, ctx, ptr, same, native, Native.wrapValue_registered live⟩

theorem Invariant.adoptError (inv : Invariant own machine)
    (step : machine.Step threadID (.adoptError thread) next) : ∃ own', Invariant own' next := by
  cases step with
  | adoptNoError stack => exact ⟨own, inv.raise _ stack⟩
  | @adoptError _ kind home ptr natives lent rest stack =>
    have ok := inv.top stack
    obtain ⟨mine, ctx, native, ⟨⟩, found, registered⟩ := ok.2.2.2.2 ptr rfl
    obtain ⟨object, table, -⟩ := World.ptr_of_nativeOf found
    obtain ⟨held, spec⟩ := World.newValue_spec ptr table (inv.contexts.consistent home object table) true
    let name := machine.world.values.next
    -- The wrapper takes the handle over from the callback, unless the context is closed.
    let own' : Ownership Thread := fun other => if held = some other then some (.wrapper name) else own other
    have still : ∀ other, own other ≠ some (.frame thread rest.length) → own' other = own other := by
      refine fun other differ => if_neg fun holds => ?_
      obtain ⟨rfl, -, -⟩ := spec.holds other holds
      exact differ mine
    have there : (machine.world.newValue home ptr true).1.values.get name = some ⟨held, home, false, true⟩ :=
      (spec.values name).trans (if_pos rfl)
    have handing : Invariant own' (({ machine with
        world := (machine.world.newValue home ptr true).1
        entry := Machine.leaveEntry machine.entry (threadID thread) } : Machine Thread).setStack thread
          (.callback kind (some home) natives lent (.handing (some name)) :: rest)) := by
      refine inv.act own' stack spec.keeps (spec.native ▸ inv.wellFormed) rfl
        (fun other cell holder alive owned position => (still other fun same => ?_).trans owned)
        (fun _ _ _ lends => by cases kind <;> exact lends) (fun _ => id)
        (ok.stage _ spec.keeps (fun other member => if_neg fun holds => ?_) ?_) fun value after absent present => ?_
      · rw [same, Option.some.injEq] at owned
        exact absurd (position _ owned.symm) (Nat.lt_irrefl _)
      -- What C++ wrapped is not registered anywhere.
      · obtain ⟨rfl, -, -⟩ := spec.holds other holds
        obtain ⟨-, _, borrowed, -⟩ := ok.2.1 other member
        obtain ⟨id, tracked, cell⟩ := registered
        rw [borrowed, Option.some.injEq, GV8Value.mk.injEq] at cell
        exact tracked cell.1.symm
      · rintro _ ⟨⟩
        refine ⟨⟨_, there⟩, fun missing => Option.eq_none_iff_forall_ne_some.mpr fun pointer holds => ?_⟩
        have pointer' : held = some pointer := by
          obtain ⟨object, present, has⟩ := Option.bind_eq_some_iff.mp holds
          obtain rfl := Option.some.inj (there.symm.trans present)
          exact has
        exact (ok.2.2.1 home rfl).2 missing (spec.holds pointer pointer').2.1
      · change (machine.world.newValue home ptr true).1.values.get value = some after at present
        rw [spec.values] at present
        split at present
        · next same =>
          cases present
          intro pointer holds
          obtain ⟨rfl, -, known⟩ := spec.holds pointer holds
          refine ⟨(if_pos holds).trans (by rw [same]), ⟨native, (spec.keeps.nativeOf home).trans found, ?_⟩,
            .inl (same ▸ known)⟩
          change (machine.world.newValue home pointer true).1.native.Registered native pointer
          rw [spec.native]
          exact registered
        · rw [absent] at present
          cases present
    exact ⟨own', handing.invalidateAll thread lent⟩

omit [DecidableEq Thread] in
/-- What the C++ part of a callback leaves: new handles that belong to no context. -/
theorem Machine.wrapped_spec {ctx : Nat} (argc : Nat) (live : machine.world.native.Live ctx) :
    World.Keeps (fun _ => False) machine.world (machine.wrapped ctx argc).world ∧
    (machine.world.native.WellFormed → (machine.wrapped ctx argc).world.native.WellFormed) ∧
    (machine.borrowed ctx argc).Nodup ∧
    ∀ ptr ∈ machine.borrowed ctx argc, (machine.wrapped ctx argc).world.native.values.get ptr = some ⟨0, ctx⟩ ∧
      machine.world.native.values.get ptr = none := by
  obtain ⟨grows, wellFormed, nodup, cells⟩ := machine.world.native.wrapBorrowedValues_spec ctx (argc + 1)
  have same : (machine.wrapped ctx argc).world =
      machine.world.setNative (machine.world.native.wrapBorrowedValues ctx (argc + 1)).1 := by
    simp only [Machine.wrapped, Native.readCtx_of_live (grows.live ctx not_false live)]
    rfl
  rw [same]
  exact ⟨World.keeps_setNative grows, wellFormed, nodup, cells⟩

theorem World.not_open_of_isClosed {world : World} {ctx : Nat} (ok : ContextsOk world)
    (closed : world.isClosed ctx = true) : ¬ world.Open ctx := by
  rintro ⟨object, table, unclosed⟩
  obtain ⟨ptr, native⟩ := ok.open table unclosed
  obtain ⟨same, table', has⟩ := World.ptr_of_nativeOf native
  rw [table, Option.some.injEq] at table'
  simp [World.isClosed, table, unclosed, table' ▸ has] at closed

theorem Invariant.callback (inv : Invariant own machine) {ctx argc : Nat} {stale : Int} {found : Bool}
    (live : machine.world.native.Live ctx) (numbered : found = true ∨ machine.hostFnSeq < 2 ^ 31)
    (step : machine.Step threadID (.callback thread ctx argc stale found) next) : ∃ own', Invariant own' next := by
  obtain ⟨wraps, wellFormed, nodup, cells⟩ := Machine.wrapped_spec argc live
  let natives := machine.borrowed ctx argc
  let position := (machine.frames thread).length
  -- The new handles belong to the callback.
  let lends : Ownership Thread := fun ptr => if ptr ∈ natives then some (.frame thread position) else own ptr
  have agrees : ∀ ptr cell, machine.world.native.values.get ptr = some cell → lends ptr = own ptr := by
    intro ptr cell old
    refine if_neg fun member => ?_
    rw [(cells ptr member).2] at old
    cases old
  -- A callback that lends no wrappers.
  have bare : ∀ (home : Option Nat) stage, (∀ name, home = some name → machine.world.nativeOf name = some ctx ∧
      ¬ machine.world.Open name) →
      Frame.CallbackOk (machine.wrapped ctx argc).world lends thread position .missing home stage →
      Invariant lends ((machine.wrapped ctx argc).setStack thread
        (.callback .missing home natives [] stage :: machine.frames thread)) := by
    intro home stage here handled
    refine inv.start lends wraps (wellFormed inv.wellFormed) rfl agrees
      ⟨nodup, fun ptr member => ⟨if_pos member, ctx, (cells ptr member).1, fun name same => (here name same).1⟩,
        fun name same => ⟨⟨ctx, (here name same).1⟩, fun _ => (here name same).2⟩, nofun, handled⟩
      fun value object absent present => ?_
    change machine.world.values.get value = some object at present
    rw [absent] at present
    cases present
  cases step with
  | callLost => exact ⟨lends, bare none (.handed none) nofun nofun⟩
  | @callHost _ _ _ home _ ready registry =>
    have here : machine.world.nativeOf home = some ctx := inv.refs.resolves live registry
    let world := (machine.wrapped ctx argc).world
    have borrows : World.Keeps (fun _ => False) world (world.newBorrowedValues home natives).1 :=
      World.keeps_newBorrowedValues natives
    have same := world.native_newBorrowedValues home natives
    obtain ⟨lent, fresh⟩ := world.newBorrowedValues_spec home natives
    have keeps := wraps.trans borrows
    refine ⟨lends, inv.start lends keeps (by exact same ▸ wellFormed inv.wellFormed) rfl agrees
      ⟨nodup, fun ptr member => ⟨if_pos member, ctx, ?_, fun name same' => ?_⟩,
        fun name same' => ⟨⟨ctx, ?_⟩, nofun⟩, fun value member => ?_, nofun⟩
      fun value object absent present => ?_⟩
    · change (world.newBorrowedValues home natives).1.native.values.get ptr = _
      rw [same]
      exact (cells ptr member).1
    · exact (keeps.nativeOf name).trans (Option.some.inj same' ▸ here)
    · exact (keeps.nativeOf name).trans (Option.some.inj same' ▸ here)
    · obtain ⟨ptr, present⟩ := lent value member
      exact ⟨_, present, rfl, rfl⟩
    · obtain ⟨ptr, inside, rfl⟩ := fresh value object absent present
      intro pointer holds
      cases holds
      refine ⟨thread, .callback .host (some home) natives _ .body, ?_, rfl, inside⟩
      rw [Machine.setStack_frames_self]
      exact .head _
  | @callMissing _ _ _ home _ ready registry unregistered =>
    have closed := unregistered.resolve_right (Nat.not_le.mpr (numbered.resolve_left nofun))
    refine ⟨lends, bare (some home) .raising (fun name same => ?_) trivial⟩
    cases same
    exact ⟨inv.refs.resolves live registry, World.not_open_of_isClosed inv.contexts closed⟩

theorem Machine.startRelease_eq {value ptr : Nat} {object : Value}
    (found : machine.world.values.get value = some object) (has : object.ptr = some ptr) :
    machine.startRelease thread value =
      if object.borrowed then machine.setWorld (machine.world.invalidate value)
      else (machine.setWorld (machine.world.untrackValue value)).setStack thread
        (.release value :: machine.frames thread) := by
  simp [Machine.startRelease, found, has]

theorem Invariant.release (inv : Invariant own machine) {value : Nat} {object : Value}
    (found : machine.world.values.get value = some object) :
    Invariant own (machine.startRelease thread value) := by
  cases has : object.ptr with
  | none => simpa [Machine.startRelease, found, has] using inv
  | some ptr =>
    rw [Machine.startRelease_eq found has]
    have before : machine.frames thread = [] ++ machine.frames thread := rfl
    split
    · exact inv.invalidateAll thread [value]
    · next borrowed =>
      have values := machine.world.values_untrackValue value
      have native := machine.world.native_untrackValue value
      have after : ((machine.setWorld (machine.world.untrackValue value)).setStack thread
          (.release value :: machine.frames thread)).frames thread =
          [.release value] ++ machine.frames thread := Machine.setStack_frames_self _ _ _
      refine inv.keeps World.keeps_untrackValue (native.symm ▸ inv.wellFormed)
        (fun _ _ _ _ mine _ => mine) before after
        (fun _ differ => Machine.setStack_frames_of_ne _ _ differ)
        (fun below => ⟨⟨object, values.symm ▸ found, by simpa using borrowed⟩, below⟩)
        (fun _ member => absurd member List.not_mem_nil) (fun name acting _ => ⟨_, .head _, ?_⟩)
        fun name after absent present => ?_
      · rcases acting with rfl | ⟨_, member, -⟩
        · rfl
        · exact absurd member List.not_mem_nil
      · change (machine.world.untrackValue value).values.get name = some after at present
        rw [values, absent] at present
        cases present

theorem Invariant.handoff (inv : Invariant own machine) (step : machine.Step threadID (.handoff thread) next) :
    Invariant own next := by
  cases step with
  | startHandoff stack holds =>
    obtain ⟨⟨object, found⟩, -⟩ := (inv.top stack).2.2.2.2 _ rfl
    exact inv.restage stack rfl rfl ⟨⟨object, found⟩, inv.usable holds⟩
  | @handOver _ kind value home natives lent rest stack bare =>
    refine inv.restage stack rfl rfl fun ptr same => ?_
    obtain ⟨name, rfl, holds⟩ := Option.bind_eq_some_iff.mp same
    obtain ⟨cell, alive, -⟩ := inv.readable holds
    refine ⟨⟨cell, alive⟩, fun deleted => ?_⟩
    -- C++ deletes what a host function returns, and that is retained; without one there is nothing.
    cases kind with
    | host => cases same.symm.trans (bare rfl)
    | missing => cases holds.symm.trans (((inv.top stack).2.2.2.2 name rfl).2 rfl)
    | imports => exact absurd rfl deleted

theorem Invariant.retain (inv : Invariant own machine) {stale : Nat}
    (step : machine.Step threadID (.retain thread stale) next) : ∃ own', Invariant own' next := by
  cases step with
  | @retain _ value ptr _ home natives lent rest stack =>
    have ok := inv.top stack
    obtain ⟨⟨object, found⟩, usable⟩ := ok.2.2.2.2
    obtain ⟨cell, alive, live⟩ := usable.readable inv.contexts
    rw [Native.readValue_of_readable ⟨cell, alive, live⟩, Native.ctxOf_of_get alive, Native.wrapValue_snd]
    let result := machine.world.native.values.next
    have keeps : World.Keeps (fun _ => False) machine.world
        (machine.world.setNative (machine.world.native.wrapValue cell.ctx).1) :=
      World.keeps_setNative (Native.wrapValue_grows live)
    let mine : Ownership Thread := Function.update own result (some (.frame thread rest.length))
    have agrees : ∀ other, other ≠ result → mine other = own other :=
      fun other differ => Function.update_of_ne differ _ _
    have wrapped : Invariant mine ((machine.setWorld (machine.world.setNative
        (machine.world.native.wrapValue cell.ctx).1)).setStack thread
          (.callback .host home natives lent (.handed (some result)) :: rest)) := by
      refine inv.wrapped mine live stack rfl rfl agrees (fun _ _ _ => id) (fun _ => id)
        (ok.stage _ keeps (fun other member => ?_) fun pointer same => ?_)
      · obtain ⟨-, home, present, -⟩ := ok.2.1 other member
        exact agrees other (machine.world.native.values.ne_next_of_get present)
      · cases same
        have registered := Native.wrapValue_registered live
        obtain ⟨id, -, present⟩ := id registered
        exact ⟨⟨_, present⟩, fun _ => ⟨Function.update_self _ _ _, _, registered⟩⟩
    exact ⟨mine, wrapped.release found⟩

end Gv8
