import Gv8.Handles.Callbacks

/-! The steps that delete handles or contexts, and the condition under which they keep the
invariant: nothing is deleted that a call in progress has still to use. -/

set_option autoImplicit false

namespace Gv8

open Foundation

variable {Thread : Type} {own : Ownership Thread} {machine next : Machine Thread} {thread : Thread}

/-- Releasing distinct live handles one after another. -/
theorem Native.foldl_valueRelease {native : Native} (ptrs : List Nat) (wellFormed : native.WellFormed)
    (distinct : ptrs.Nodup) (alive : ∀ ptr ∈ ptrs, ∃ cell, native.values.get ptr = some cell) :
    (ptrs.foldl Native.valueRelease native).WellFormed ∧
    Changes (fun ptr => ptr ∈ ptrs) (fun _ => False) native (ptrs.foldl Native.valueRelease native) ∧
    SameRefs native (ptrs.foldl Native.valueRelease native) := by
  induction ptrs generalizing native with
  | nil => exact ⟨wellFormed, ⟨fun _ _ _ => id, fun _ _ => id, rfl⟩, .refl native⟩
  | cons ptr ptrs ih =>
    obtain ⟨cell, found⟩ := alive ptr (.head _)
    obtain ⟨new, distinct⟩ := List.nodup_cons.mp distinct
    have first := wellFormed.valueRelease_changes found
    have rest : ∀ other ∈ ptrs, ∃ cell, (native.valueRelease ptr).values.get other = some cell := by
      intro other member
      obtain ⟨object, present⟩ := alive other (.tail _ member)
      exact ⟨object, first.values other object (fun same => new (same ▸ member)) present⟩
    obtain ⟨wellFormed', second, refs⟩ := ih (wellFormed.valueRelease found) distinct rest
    have both := first.trans second
    refine ⟨wellFormed', ⟨fun other object spared => both.values other object fun hit => spared ?_,
      fun other _ => both.live other (fun hit => hit.elim id id), both.faults⟩,
      (wellFormed.valueRelease_refs found).trans refs⟩
    rcases hit with rfl | member
    · exact .head _
    · exact .tail _ member

theorem World.contexts_invalidateAll (world : World) (values : List Nat) :
    (world.invalidateAll values).contexts = world.contexts := by
  induction values generalizing world with
  | nil => rfl
  | cons value values ih => exact ih (world.invalidate value)

variable [DecidableEq Thread]

/-- No other call has loaded one of these handles to read it again. -/
def Machine.Unpinned (machine : Machine Thread) (thread : Thread) (rest : List Frame) (ptrs : List Nat) : Prop :=
  ∀ other, ∀ frame ∈ Function.update machine.frames thread rest other, ∀ ptr ∈ ptrs, ptr ∉ frame.pins

/-- The rule for a call that deletes handles of its own, or of wrappers it invalidates,
and returns. -/
theorem Invariant.delete (inv : Invariant own machine) {top : Frame} {rest : List Frame}
    {native : Native} (ptrs values : List Nat) (stack : machine.frames thread = top :: rest)
    (world : next.world = (machine.world.setNative native).invalidateAll values)
    (frames : next.frames = Function.update machine.frames thread rest)
    (wellFormed : native.WellFormed)
    (changes : Native.Changes (fun ptr => ptr ∈ ptrs) (fun _ => False) machine.world.native native)
    (refs : Native.SameRefs machine.world.native native)
    (mine : ∀ ptr ∈ ptrs, own ptr = some (.frame thread rest.length) ∨
      ∃ value ∈ values, own ptr = some (.wrapper value))
    (unpinned : machine.Unpinned thread rest ptrs)
    (lends : ∀ value ptr ctx, top.Lends value ptr ctx → value ∈ values)
    (released : ∀ value, top.Releases value → value ∈ values) : Invariant own next := by
  have native' : next.world.native = native := by rw [world, World.native_invalidateAll]; rfl
  have contexts' : next.world.contexts = machine.world.contexts := by
    rw [world, World.contexts_invalidateAll]
    rfl
  have nativeOf' : ∀ ctx, next.world.nativeOf ctx = machine.world.nativeOf ctx := by
    intro ctx
    rw [World.nativeOf, contexts']
    rfl
  have gone : ∀ value ∈ values, next.world.ptrOf value = none := by
    intro value member
    rw [world, World.ptrOf_invalidateAll, if_pos member]
  have kept : World.Keeps (fun _ => False) (machine.world.setNative native) next.world :=
    world ▸ World.keeps_invalidateAll values
  have before : machine.frames thread = [top] ++ rest := stack
  have after : next.frames thread = [] ++ rest := by rw [frames, Function.update_self]; rfl
  have others : ∀ other, other ≠ thread → next.frames other = machine.frames other :=
    fun other differ => by rw [frames, Function.update_of_ne differ]
  have evolves : Evolves (fun ptr => ptr ∈ ptrs) (fun _ => False) own own thread rest.length
      machine.world next.world :=
    ⟨⟨fun ptr cell spared found => native'.symm ▸ changes.values ptr cell spared found,
        fun ctx _ live => native'.symm ▸ changes.live ctx not_false live, native'.symm ▸ changes.faults⟩,
      fun ctx ptr _ found => (nativeOf' ctx).trans found,
      fun ctx object found => ⟨object, contexts' ▸ found, id⟩, fun _ => False.elim, kept.values,
      fun _ _ _ _ _ owned _ => owned⟩
  have contexts : ContextsOk next.world :=
    ⟨fun ctx ptr found => native'.symm ▸
        changes.live ptr not_false (inv.contexts.live ctx ptr ((nativeOf' ctx).symm.trans found)),
      fun left right ptr first second => inv.contexts.distinct left right ptr
        ((nativeOf' left).symm.trans first) ((nativeOf' right).symm.trans second),
      fun ctx object found => inv.contexts.consistent ctx object (contexts' ▸ found)⟩
  have same : World.SameRefs machine.world (machine.world.setNative native) :=
    ⟨refs, fun _ => rfl, fun _ _ => id, rfl⟩
  have refs' : RefsOk next.world :=
    inv.refs.step (same.trans kept.refs) fun ctx ptr _ found => (nativeOf' ctx).trans found
  have known : KnownOk (machine.world.setNative native) := inv.known
  refine inv.advance ⟨evolves, native'.symm ▸ wellFormed, contexts, refs', kept.known known, before, after,
    others, ?_, fun below => below, ?_, ?_, ?_⟩
  · intro other frame place elsewhere here position ok
    refine ⟨fun ptr needs member => ?_, fun _ _ hit => hit.elim⟩
    have inside : frame ∈ Function.update machine.frames thread rest other := by
      by_cases same : other = thread
      · subst same
        rw [Function.update_self]
        exact here rfl
      · rw [Function.update_of_ne same]
        exact elsewhere same
    -- A deleted handle belongs to the call that returns or to a wrapper it invalidates.
    rcases ok.needs needs with pinned | owned
    · exact unpinned other frame inside ptr member pinned
    · rcases mine ptr member with top | ⟨value, -, wrapper⟩
      · rw [owned] at top
        cases top
        exact position.elim (fun differ => differ rfl) (Nat.lt_irrefl _)
      · rw [owned] at wrapper
        cases wrapper
  · intro value object ptr home found held owned native registered tracked
    have holds : next.world.ptrOf value = some ptr := by simp [World.ptrOf, found, held]
    have spared : value ∉ values := by
      intro member
      rw [gone value member] at holds
      cases holds
    refine ⟨fun member => ?_, id, owned, ?_⟩
    · rcases mine ptr member with top | ⟨other, member, wrapper⟩
      · rw [owned] at top
        cases top
      · rw [owned] at wrapper
        cases wrapper
        exact spared member
    · rcases tracked with ⟨context, table, knows⟩ | ⟨other, frame, member, releases⟩
      · exact .inl ⟨context, contexts' ▸ table, knows⟩
      · by_cases same : other = thread
        · rw [same, stack] at member
          rcases List.mem_cons.mp member with acting | below
          · exact absurd (released value (acting ▸ releases)) spared
          · exact .inr ⟨thread, frame, by rw [after]; exact below, releases⟩
        · exact .inr ⟨other, frame, by rw [others other same]; exact member, releases⟩
  · intro frame member value ptr ctx lent holds
    rw [List.mem_singleton.mp member] at lent
    rw [gone value (lends value ptr ctx lent)] at holds
    cases holds
  · intro value object absent found
    rw [world] at found
    obtain ⟨before, found', -⟩ := World.get_invalidateAll values found
    change machine.world.values.get value = some before at found'
    rw [absent] at found'
    cases found'

theorem Invariant.mustEnter (inv : Invariant own machine) {threadID : Thread → Nat}
    (entered : ∀ value rest ptr, machine.frames thread = .release value :: rest → machine.world.ptrOf value = some ptr →
      ∃ entry, machine.entry.enter (threadID thread) = .ok entry)
    (step : machine.Step threadID (.mustEnter thread) next) : Invariant own next := by
  cases step with
  | @mustNotEnter _ value rest message stack refused =>
    refine inv.pop stack rfl rfl (fun _ _ _ => id) fun name same => ?_
    obtain rfl : value = name := same
    by_contra holds
    obtain ⟨ptr, holds⟩ := Option.ne_none_iff_exists'.mp holds
    obtain ⟨entry, admitted⟩ := entered value rest ptr stack holds
    rw [refused] at admitted
    cases admitted
  | @mustEnter _ value rest entry stack =>
    obtain ⟨object, found, borrowed⟩ := inv.top stack
    refine inv.retop stack rfl rfl (fun _ => ⟨⟨object, found, fun ptr has => ?_⟩, fun ptr holds => ?_⟩)
      (fun _ _ _ => id) fun _ => id
    · simp [World.ptrOf, found, has]
    have has : object.ptr = some ptr := by simpa [World.ptrOf, found] using holds
    have held := inv.held value object found ptr has
    simp only [borrowed, Bool.false_eq_true, if_false] at held
    obtain ⟨owned, ⟨home, -, id, -, alive⟩, -⟩ := held
    exact ⟨owned, _, alive⟩

theorem Invariant.finishRelease (inv : Invariant own machine) {threadID : Thread → Nat}
    (unpinned : ∀ value ptr rest, machine.frames thread = .deleting value (some ptr) :: rest →
      machine.Unpinned thread rest [ptr])
    (step : machine.Step threadID (.finishRelease thread) next) : Invariant own next := by
  cases step with
  | @releaseNothing _ value rest stack =>
    refine inv.delete [] [value] stack rfl rfl inv.wellFormed ⟨fun _ _ _ => id, fun _ _ => id, rfl⟩ (.refl _)
      (fun _ member => absurd member List.not_mem_nil) (fun _ _ _ _ member => absurd member List.not_mem_nil)
      (fun _ _ _ => False.elim) fun name same => ?_
    obtain rfl : value = name := same
    exact .head _
  | @finishRelease _ value ptr rest stack =>
    obtain ⟨owned, cell, alive⟩ := (inv.top stack).2 ptr rfl
    obtain ⟨wellFormed, changes, refs⟩ := Native.foldl_valueRelease [ptr] inv.wellFormed
      (List.nodup_singleton ptr) fun other member => ⟨_, List.mem_singleton.mp member ▸ alive⟩
    refine inv.delete [ptr] [value] stack rfl rfl wellFormed changes refs
      (fun other member => .inr ⟨value, .head _, List.mem_singleton.mp member ▸ owned⟩)
      (unpinned value ptr rest stack) (fun _ _ _ => False.elim) fun name same => ?_
    obtain rfl : value = name := same
    exact .head _

omit [DecidableEq Thread] in
theorem Invariant.readResult (inv : Invariant own machine) {kind : CallbackKind} {home result : Option Nat}
    {natives lent : List Nat} {rest : List Frame}
    (stack : machine.frames thread = .callback kind home natives lent (.handed result) :: rest) :
    machine.world.native.readResult result = machine.world.native := by
  obtain ⟨-, -, -, -, handed⟩ := inv.top stack
  cases result with
  | none => rfl
  | some ptr =>
    obtain ⟨⟨cell, alive⟩, -⟩ := handed ptr rfl
    exact Native.readHandle_of_get alive

/-- The callback returns; of a host function C++ deletes the receiver, the arguments and
the result. -/
theorem Invariant.exit (inv : Invariant own machine) {threadID : Thread → Nat}
    (unpinned : ∀ kind ctx natives lent result rest, machine.frames thread =
      .callback kind ctx natives lent (.handed result) :: rest → kind ≠ .imports →
      machine.Unpinned thread rest (natives ++ result.toList))
    (step : machine.Step threadID (.exit thread) next) : Invariant own next := by
  cases step with
  | exitImport stack =>
    rw [inv.readResult stack]
    exact inv.pop stack rfl rfl (fun _ _ _ => id) fun _ => False.elim
  | @exitHost _ kind home result natives lent rest stack deletes =>
    rw [inv.readResult stack]
    obtain ⟨nodup, owned, -, -, handed⟩ := inv.top stack
    -- The result is registered in its context, the receiver and the arguments are not.
    have apart : ∀ ptr ∈ natives, ptr ∉ result.toList := by
      intro ptr member returned
      obtain ⟨-, home, cell, -⟩ := owned ptr member
      obtain ⟨-, mine⟩ := handed ptr (Option.mem_toList.mp returned)
      obtain ⟨-, _, id, tracked, cell'⟩ := mine deletes
      rw [cell, Option.some.injEq, GV8Value.mk.injEq] at cell'
      exact tracked cell'.1.symm
    have mine : ∀ ptr ∈ natives ++ result.toList, own ptr = some (.frame thread rest.length) ∧
        ∃ cell, machine.world.native.values.get ptr = some cell := by
      intro ptr member
      rcases List.mem_append.mp member with borrowed | returned
      · obtain ⟨held, _, cell, -⟩ := owned ptr borrowed
        exact ⟨held, _, cell⟩
      · obtain ⟨cell, held⟩ := handed ptr (Option.mem_toList.mp returned)
        exact ⟨(held deletes).1, cell⟩
    have distinct : (natives ++ result.toList).Nodup :=
      List.nodup_append.mpr ⟨nodup, by cases result <;> simp, fun ptr member other returned same =>
        apart ptr member (same ▸ returned)⟩
    obtain ⟨wellFormed, changes, refs⟩ := Native.foldl_valueRelease _ inv.wellFormed distinct
      fun ptr member => (mine ptr member).2
    refine inv.delete (natives ++ result.toList) lent stack rfl rfl wellFormed changes refs
      (fun ptr member => .inl (mine ptr member).1) (unpinned kind home natives lent result rest stack deletes)
      (fun value ptr ctx lends => ?_) fun _ => False.elim
    cases kind with
    | host => exact (List.of_mem_zip lends.2).1
    | missing | imports => exact lends.elim

end Gv8
