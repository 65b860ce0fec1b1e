import Gv8.Isolate.Entry

/-! Who waits for whom in native code. Most native functions take V8's Locker of an isolate for as
long as they run, callbacks included, and the thread that has it takes it again at once.

The operations enter the isolate first, so another thread's operation on it fails and does not
wait. NewContext, HeapStatistics, LowMemoryNotification and MemoryPressureNotification do not
enter, nor does the callback that hands a result to V8; their native functions call nothing back. -/

set_option autoImplicit false

namespace Gv8.Lockers

inductive Frame (Iso : Type) where
  | entered (iso : Iso)
  /-- The native function of an operation; `took` is whether this Locker unlocks at the end. -/
  | native (iso : Iso) (took : Bool)
  /-- A native function that was called without `enter`. -/
  | outside (iso : Iso) (took : Bool)
  deriving DecidableEq

def Frame.calling {Iso : Type} (entered : Bool) (iso : Iso) (took : Bool) : Frame Iso :=
  if entered then .native iso took else .outside iso took

structure Thread (Iso : Type) where
  frames : List (Frame Iso)
  /-- The Locker that it waits for, and whether it is in an operation that has entered. -/
  waiting : Option (Iso × Bool)
  deriving DecidableEq

/-- Threads are known by their ids. -/
structure World (Iso : Type) where
  threads : Nat → Thread Iso
  entry : Iso → Entry
  locked : Iso → Option Nat

inductive Event (Iso : Type) where
  | enter (thread : Nat) (iso : Iso)
  | leave (thread : Nat)
  | call (thread : Nat)
  | callOutside (thread : Nat) (iso : Iso)
  | lock (thread : Nat)
  | exit (thread : Nat)

variable {Iso : Type} [DecidableEq Iso]

/-- Go code runs: that of the caller, or of a callback. -/
def Thread.inGo (own : Thread Iso) : Bool :=
  match own.waiting, own.frames with
  | some _, _ => false
  | none, .outside _ _ :: _ => false
  | none, _ => true

namespace World

def initial : World Iso := ⟨fun _ => ⟨[], none⟩, fun _ => .idle, fun _ => none⟩

def setThread (world : World Iso) (thread : Nat) (own : Thread Iso) : World Iso :=
  { world with threads := Function.update world.threads thread own }

def step (world : World Iso) : Event Iso → Option (World Iso)
  | .enter thread iso =>
    let own := world.threads thread
    if own.inGo then
      match (world.entry iso).enter thread with
      | .ok entry => some { world.setThread thread { own with frames := .entered iso :: own.frames } with
          entry := Function.update world.entry iso entry }
      | .error _ => some world
    else none
  | .leave thread =>
    let own := world.threads thread
    match own.waiting, own.frames with
    | none, .entered iso :: below =>
      match (world.entry iso).leave thread with
      | .ok entry => some { world.setThread thread { own with frames := below } with
          entry := Function.update world.entry iso entry }
      | .error _ => none
    | _, _ => none
  | .call thread =>
    let own := world.threads thread
    match own.waiting, own.frames with
    | none, .entered iso :: _ => some (world.setThread thread { own with waiting := some (iso, true) })
    | _, _ => none
  | .callOutside thread iso =>
    let own := world.threads thread
    if own.inGo then some (world.setThread thread { own with waiting := some (iso, false) }) else none
  | .lock thread =>
    let own := world.threads thread
    match own.waiting with
    | none => none
    | some (iso, entered) =>
      if world.locked iso = none ∨ world.locked iso = some thread then
        let took := (world.locked iso).isNone
        some { world.setThread thread ⟨.calling entered iso took :: own.frames, none⟩ with
          locked := Function.update world.locked iso (some thread) }
      else none
  | .exit thread =>
    let own := world.threads thread
    match own.waiting, own.frames with
    | none, .native iso took :: below | none, .outside iso took :: below =>
      some { world.setThread thread { own with frames := below } with
        locked := if took then Function.update world.locked iso none else world.locked }
    | _, _ => none

end World

def Frame.locks : Frame Iso → Option Iso
  | .entered _ => none
  | .native iso _ | .outside iso _ => some iso

def lockedIn (frames : List (Frame Iso)) : List Iso := frames.filterMap Frame.locks

/-- The innermost frame is none that calls nothing. -/
def Quiet (frames : List (Frame Iso)) : Prop := ∀ iso took below, frames ≠ .outside iso took :: below

/-- A frame over those that it is in. -/
def Frame.Fits (below : List (Frame Iso)) : Frame Iso → Prop
  | .entered _ => True
  | .native iso took => (∃ rest, below = .entered iso :: rest) ∧ (took = true ↔ iso ∉ lockedIn below)
  | .outside iso took => took = true ↔ iso ∉ lockedIn below

def Nested : List (Frame Iso) → Prop
  | [] => True
  | frame :: below => Quiet below ∧ frame.Fits below ∧ Nested below

def entersOf (entry : Entry) (thread : Nat) : Nat := if entry.ownerThread = thread then entry.depth else 0

theorem entersOf_enter {entry after : Entry} {thread : Nat} (entered : entry.enter thread = .ok after) :
    entersOf after thread = entersOf entry thread + 1 ∧ ∀ other ≠ thread, entersOf after other = entersOf entry other := by
  obtain ⟨free, rfl⟩ := (Entry.enter_ok_iff _ _ _).mp entered
  unfold entersOf
  rw [if_pos rfl]
  constructor
  · rcases free with empty | mine
    · simp [empty]
    · simp [mine]
  · intro other differ
    rw [if_neg differ.symm]
    rcases free with empty | mine
    · rw [empty, ite_self]
    · rw [if_neg (mine ▸ differ.symm)]

theorem entersOf_leave {entry after : Entry} {thread : Nat} (inside : 0 < entersOf entry thread)
    (left : entry.leave thread = .ok after) :
    entersOf entry thread = entersOf after thread + 1 ∧ ∀ other ≠ thread, entersOf after other = entersOf entry other := by
  unfold entersOf at *
  have owner : entry.ownerThread = thread := by
    by_contra other
    rw [if_neg other] at inside
    cases inside
  rw [if_pos owner] at inside ⊢
  rw [Entry.leave_ok inside owner] at left
  cases left
  simp only [owner]
  constructor
  · by_cases last : entry.depth - 1 = 0
    · rw [last, ite_self]
      omega
    · rw [if_neg last, if_pos rfl]
      omega
  · intro other differ
    rw [if_neg differ.symm]
    by_cases last : entry.depth - 1 = 0
    · rw [last, ite_self]
    · rw [if_neg last, if_neg differ.symm]

theorem entersOf_update {entry : Iso → Entry} {iso : Iso} {after : Entry} {thread : Nat}
    (same : entersOf after thread = entersOf (entry iso) thread) (into : Iso) :
    entersOf (Function.update entry iso after into) thread = entersOf (entry into) thread := by
  by_cases here : into = iso
  · rw [here, Function.update_self, same]
  · rw [Function.update_of_ne here]

omit [DecidableEq Iso] in
theorem inGo_iff {own : Thread Iso} : own.inGo = true ↔ own.waiting = none ∧ Quiet own.frames := by
  obtain ⟨frames, waiting⟩ := own
  cases waiting with
  | some => simp [Thread.inGo]
  | none =>
    match frames with
    | [] | .entered _ :: _ | .native _ _ :: _ => simp [Thread.inGo, Quiet]
    | .outside _ _ :: _ => simp [Thread.inGo, Quiet]

omit [DecidableEq Iso] in
theorem lockedIn_calling (entered : Bool) (iso : Iso) (took : Bool) (below : List (Frame Iso)) :
    lockedIn (.calling entered iso took :: below) = iso :: lockedIn below := by
  cases entered <;> rfl

omit [DecidableEq Iso] in
theorem calling_ne_entered (entered : Bool) (iso : Iso) (took : Bool) (into : Iso) :
    Frame.calling entered iso took ≠ .entered into := by
  cases entered <;> nofun

omit [DecidableEq Iso] in
theorem fits_calling {entered : Bool} {iso : Iso} {took : Bool} {below : List (Frame Iso)}
    (first : took = true ↔ iso ∉ lockedIn below) (enters : entered = true → ∃ rest, below = .entered iso :: rest) :
    (Frame.calling entered iso took).Fits below := by
  cases entered with
  | true => exact ⟨enters rfl, first⟩
  | false => exact first

structure World.Invariant (world : World Iso) : Prop where
  nested : ∀ thread, Nested (world.threads thread).frames
  locked : ∀ iso thread, world.locked iso = some thread ↔ iso ∈ lockedIn (world.threads thread).frames
  counted : ∀ iso thread, (world.threads thread).frames.count (.entered iso) = entersOf (world.entry iso) thread
  waits : ∀ thread iso entered, (world.threads thread).waiting = some (iso, entered) →
    Quiet (world.threads thread).frames ∧ (entered = true → ∃ rest, (world.threads thread).frames = .entered iso :: rest)

namespace World.Invariant

variable {world next : World Iso} {thread : Nat}

theorem initial : (World.initial : World Iso).Invariant where
  nested _ := trivial
  locked := by simp [World.initial, lockedIn]
  counted iso thread := (ite_self 0).symm
  waits := nofun

theorem change (inv : world.Invariant) {own : Thread Iso} {entry : Iso → Entry} {locked : Iso → Option Nat}
    (nested : Nested own.frames) (mine : ∀ iso, locked iso = some thread ↔ iso ∈ lockedIn own.frames)
    (others : ∀ iso, ∀ other ≠ thread, (locked iso = some other ↔ world.locked iso = some other))
    (counted : ∀ iso, own.frames.count (.entered iso) = entersOf (entry iso) thread)
    (same : ∀ iso, ∀ other ≠ thread, entersOf (entry iso) other = entersOf (world.entry iso) other)
    (waits : ∀ iso entered, own.waiting = some (iso, entered) →
      Quiet own.frames ∧ (entered = true → ∃ rest, own.frames = .entered iso :: rest)) :
    World.Invariant ⟨Function.update world.threads thread own, entry, locked⟩ := by
  refine ⟨?_, ?_, ?_, ?_⟩
  · exact (Function.forall_update_iff _ fun _ (own : Thread Iso) => Nested own.frames).mpr
      ⟨nested, fun other _ => inv.nested other⟩
  · intro iso
    refine (Function.forall_update_iff _ fun other (own : Thread Iso) => locked iso = some other ↔
      iso ∈ lockedIn own.frames).mpr ⟨mine iso, fun other differ => ?_⟩
    rw [others iso other differ]
    exact inv.locked iso other
  · intro iso
    refine (Function.forall_update_iff _ fun other (own : Thread Iso) => own.frames.count (.entered iso) =
      entersOf (entry iso) other).mpr ⟨counted iso, fun other differ => ?_⟩
    rw [same iso other differ]
    exact inv.counted iso other
  · exact (Function.forall_update_iff _ fun _ (own : Thread Iso) => ∀ iso entered, own.waiting = some (iso, entered) →
      Quiet own.frames ∧ (entered = true → ∃ rest, own.frames = .entered iso :: rest)).mpr
      ⟨waits, fun other _ => inv.waits other⟩

theorem wait (inv : world.Invariant) {waiting : Option (Iso × Bool)}
    (waits : ∀ iso entered, waiting = some (iso, entered) → Quiet (world.threads thread).frames ∧
      (entered = true → ∃ rest, (world.threads thread).frames = .entered iso :: rest)) :
    (world.setThread thread { world.threads thread with waiting }).Invariant :=
  inv.change (inv.nested thread) (fun iso => inv.locked iso thread) (fun _ _ _ => Iff.rfl)
    (fun iso => inv.counted iso thread) (fun _ _ _ => rfl) waits

theorem enter (inv : world.Invariant) {iso : Iso} (taken : world.step (.enter thread iso) = some next) :
    next.Invariant := by
  simp only [step, Option.ite_none_right_eq_some] at taken
  obtain ⟨inGo, taken⟩ := taken
  obtain ⟨idle, quiet⟩ := inGo_iff.mp inGo
  split at taken
  · next entry entered =>
    cases taken
    obtain ⟨more, others⟩ := entersOf_enter entered
    refine inv.change ⟨quiet, trivial, inv.nested thread⟩ (fun other => inv.locked other thread)
      (fun _ _ _ => Iff.rfl) ?_ (fun into other differ => entersOf_update (others other differ) into) (by simp [idle])
    intro other
    rw [List.count_cons, inv.counted other thread]
    by_cases same : other = iso
    · rw [same, Function.update_self, beq_self_eq_true, if_pos rfl, more]
    · have apart : Frame.entered iso ≠ .entered other := by simpa using Ne.symm same
      rw [Function.update_of_ne same, beq_eq_false_iff_ne.mpr apart, if_neg Bool.false_ne_true, Nat.add_zero]
  · cases taken
    exact inv

theorem leave (inv : world.Invariant) (taken : world.step (.leave thread) = some next) : next.Invariant := by
  simp only [step] at taken
  split at taken
  · next iso below idle inside =>
    have before (other : Iso) : (Frame.entered iso :: below).count (.entered other) = entersOf (world.entry other) thread :=
      inside ▸ inv.counted other thread
    have nested : Nested (.entered iso :: below) := inside ▸ inv.nested thread
    have locked (other : Iso) : world.locked other = some thread ↔ other ∈ lockedIn (.entered iso :: below) :=
      inside ▸ inv.locked other thread
    have here := before iso
    rw [List.count_cons_self] at here
    split at taken
    · next entry left =>
      cases taken
      obtain ⟨fewer, others⟩ := entersOf_leave (by omega) left
      refine inv.change nested.2.2 locked (fun _ _ _ => Iff.rfl) ?_
        (fun into other differ => entersOf_update (others other differ) into) (by simp [idle])
      intro other
      by_cases same : other = iso
      · rw [same, Function.update_self]
        change below.count _ = _
        omega
      · have apart : Frame.entered iso ≠ .entered other := by simpa using Ne.symm same
        rw [Function.update_of_ne same, ← before other, List.count_cons_of_ne apart]
    · cases taken
  · cases taken

theorem call (inv : world.Invariant) (taken : world.step (.call thread) = some next) : next.Invariant := by
  simp only [step] at taken
  split at taken
  · next iso below idle inside =>
    cases taken
    apply inv.wait
    rintro _ _ ⟨⟩
    rw [inside]
    exact ⟨nofun, fun _ => ⟨below, rfl⟩⟩
  · cases taken

theorem callOutside (inv : world.Invariant) {iso : Iso} (taken : world.step (.callOutside thread iso) = some next) :
    next.Invariant := by
  simp only [step, Option.ite_none_right_eq_some, Option.some.injEq] at taken
  obtain ⟨inGo, rfl⟩ := taken
  apply inv.wait
  rintro _ _ ⟨⟩
  exact ⟨(inGo_iff.mp inGo).2, nofun⟩

theorem lock (inv : world.Invariant) (taken : world.step (.lock thread) = some next) : next.Invariant := by
  simp only [step] at taken
  split at taken
  · cases taken
  · next iso entered waiting =>
    obtain ⟨free, taken⟩ := Option.ite_none_right_eq_some.mp taken
    cases taken
    obtain ⟨quiet, enters⟩ := inv.waits thread iso entered waiting
    have mine (into : Iso) := inv.locked into thread
    have took : (world.locked iso).isNone = true ↔ iso ∉ lockedIn (world.threads thread).frames := by
      rw [← mine]
      rcases free with free | free <;> simp [free]
    refine inv.change ⟨quiet, fits_calling took enters, inv.nested thread⟩ ?_ ?_ ?_ (fun _ _ _ => rfl) nofun
    · intro into
      rw [lockedIn_calling, List.mem_cons, ← mine]
      by_cases same : into = iso
      · simp [same]
      · rw [Function.update_of_ne same]
        simp [same]
    · intro into other differ
      by_cases same : into = iso
      · rw [same, Function.update_self]
        rcases free with free | free <;> simp [free, differ.symm]
      · rw [Function.update_of_ne same]
    · intro into
      rw [List.count_cons_of_ne (calling_ne_entered entered iso _ into)]
      exact inv.counted into thread

theorem unlock (inv : world.Invariant) (entered : Bool) {iso : Iso} {took : Bool} {below : List (Frame Iso)}
    (idle : (world.threads thread).waiting = none) (inside : (world.threads thread).frames = .calling entered iso took :: below) :
    World.Invariant { world.setThread thread { world.threads thread with frames := below } with
      locked := if took then Function.update world.locked iso none else world.locked } := by
  have nested : Nested (.calling entered iso took :: below) := inside ▸ inv.nested thread
  have mine (into : Iso) : world.locked into = some thread ↔ into = iso ∨ into ∈ lockedIn below := by
    rw [inv.locked, inside, lockedIn_calling, List.mem_cons]
  have first : took = true ↔ iso ∉ lockedIn below := by
    cases entered with
    | true => exact nested.2.1.2
    | false => exact nested.2.1
  have here : world.locked iso = some thread := (mine iso).mpr (.inl rfl)
  refine inv.change nested.2.2 ?_ ?_ ?_ (fun _ _ _ => rfl) (by simp [idle])
  · intro into
    cases took with
    | true =>
      rw [if_pos rfl]
      by_cases same : into = iso
      · simp [same, first.mp rfl]
      · rw [Function.update_of_ne same, mine, or_iff_right same]
    | false =>
      have still : iso ∈ lockedIn below := by simpa using first
      rw [if_neg Bool.false_ne_true, mine, or_iff_right_of_imp (fun same => same ▸ still)]
  · intro into other differ
    cases took with
    | true =>
      rw [if_pos rfl]
      by_cases same : into = iso
      · simp [same, here, differ.symm]
      · rw [Function.update_of_ne same]
    | false => rw [if_neg Bool.false_ne_true]
  · intro into
    have before := inv.counted into thread
    rw [inside, List.count_cons_of_ne (calling_ne_entered entered iso took into)] at before
    exact before

theorem exit (inv : world.Invariant) (taken : world.step (.exit thread) = some next) : next.Invariant := by
  simp only [World.step] at taken
  split at taken
  · next iso took below idle inside =>
    cases taken
    exact inv.unlock true idle inside
  · next iso took below idle inside =>
    cases taken
    exact inv.unlock false idle inside
  · cases taken

theorem step (inv : world.Invariant) {event : Event Iso} (taken : world.step event = some next) : next.Invariant := by
  cases event with
  | enter thread iso => exact inv.enter taken
  | leave thread => exact inv.leave taken
  | call thread => exact inv.call taken
  | callOutside thread iso => exact inv.callOutside taken
  | lock thread => exact inv.lock taken
  | exit thread => exact inv.exit taken

end World.Invariant

namespace World

/-- A thread waits for the Locker that another one has. -/
def WaitsFor (world : World Iso) (thread other : Nat) : Prop :=
  ∃ iso entered, (world.threads thread).waiting = some (iso, entered) ∧ world.locked iso = some other ∧ other ≠ thread

inductive WaitsWithin (world : World Iso) : (bound thread other : Nat) → Prop where
  | here {bound thread : Nat} : WaitsWithin world bound thread thread
  | step {bound thread next other : Nat} : world.WaitsFor thread next → WaitsWithin world bound next other →
      WaitsWithin world (bound + 1) thread other

/-- It waits in a call without `enter`, made by a callback of another isolate. -/
def Strays (world : World Iso) (thread : Nat) : Prop :=
  ∃ iso, (world.threads thread).waiting = some (iso, false) ∧
    ∃ other ≠ iso, world.locked other = some thread

/-- It can take the Locker that it waits for. -/
def Ready (world : World Iso) (thread : Nat) : Prop := ∃ next, world.step (.lock thread) = some next

variable {world : World Iso} {thread other : Nat}

omit [DecidableEq Iso] in
theorem waiting_of_waitsFor (waits : world.WaitsFor thread other) : (world.threads thread).waiting ≠ none := by
  obtain ⟨iso, entered, waiting, -⟩ := waits
  simp [waiting]

theorem waitsFor_of_not_ready (waiting : (world.threads thread).waiting ≠ none) (blocked : ¬ world.Ready thread) :
    ∃ other, world.WaitsFor thread other := by
  obtain ⟨⟨iso, entered⟩, waiting⟩ := Option.ne_none_iff_exists'.mp waiting
  have taken : ¬ (world.locked iso = none ∨ world.locked iso = some thread) := by
    intro free
    apply blocked
    simp only [Ready, step, waiting, if_pos free]
    exact ⟨_, rfl⟩
  obtain ⟨held, notMine⟩ := not_or.mp taken
  obtain ⟨other, has⟩ := Option.ne_none_iff_exists'.mp held
  refine ⟨other, iso, entered, waiting, has, ?_⟩
  rintro rfl
  exact notMine has

omit [DecidableEq Iso] in
/-- A thread that can make a call has entered the isolates whose Lockers it has. -/
theorem entered_of_lockedIn {frames : List (Frame Iso)} {iso : Iso} (nested : Nested frames) (quiet : Quiet frames)
    (has : iso ∈ lockedIn frames) : .entered iso ∈ frames := by
  induction frames with
  | nil => cases has
  | cons frame below ih =>
    obtain ⟨quiet', fits, nested⟩ := nested
    cases frame with
    | entered into => exact .tail _ (ih nested quiet' has)
    | native into took =>
      rcases List.mem_cons.mp has with rfl | deeper
      · obtain ⟨rest, same⟩ := fits.1
        exact .tail _ (same ▸ List.mem_cons_self)
      · exact .tail _ (ih nested quiet' deeper)
    | outside into took => exact absurd rfl (quiet into took below)

theorem Invariant.same_thread (inv : world.Invariant) {iso : Iso} (mine : .entered iso ∈ (world.threads thread).frames)
    (its : .entered iso ∈ (world.threads other).frames) : thread = other := by
  have owner {one : Nat} (entered : .entered iso ∈ (world.threads one).frames) : (world.entry iso).ownerThread = one := by
    have some := List.count_pos_iff.mpr entered
    rw [inv.counted, entersOf] at some
    by_contra differ
    rw [if_neg differ] at some
    cases some
  exact (owner mine).symm.trans (owner its)

/-- Whoever has a Locker, and waits for a thread that waits, does so in a call without `enter`. -/
theorem Invariant.strays (inv : world.Invariant) {iso : Iso} (has : world.locked iso = some thread)
    (waits : world.WaitsFor thread other) (waits' : (world.threads other).waiting ≠ none) : world.Strays thread := by
  obtain ⟨into, entered, waiting, locked, differ⟩ := waits
  obtain ⟨⟨elsewhere, entered'⟩, waiting'⟩ := Option.ne_none_iff_exists'.mp waits'
  cases entered with
  | true =>
    obtain ⟨rest, inside⟩ := (inv.waits thread into true waiting).2 rfl
    have quiet := (inv.waits other elsewhere entered' waiting').1
    have its := entered_of_lockedIn (inv.nested other) quiet ((inv.locked into other).mp locked)
    exact absurd (inv.same_thread (inside ▸ List.mem_cons_self) its) (Ne.symm differ)
  | false =>
    refine ⟨into, waiting, iso, ?_, has⟩
    rintro rfl
    rw [has] at locked
    exact differ (Option.some.inj locked).symm

/-- Where no thread waits in a call without `enter` that a callback of another isolate has made,
everybody waits, over at most two others, for a thread that can go on; and where threads wait for
each other all of them wait in such calls. -/
theorem lockers_wait {events : List (Event Iso)} (run : Foundation.Run step (fun _ _ => True) initial events world) :
    ((∀ thread, ¬ world.Strays thread) → ∀ thread, (world.threads thread).waiting ≠ none →
      ∃ other, world.WaitsWithin 2 thread other ∧
        ((world.threads other).waiting = none ∨ world.Ready other)) ∧
    ∀ thread, Relation.TransGen world.WaitsFor thread thread → world.Strays thread := by
  have inv : world.Invariant := run.invariant (fun _ _ _ inv _ taken => inv.step taken) Invariant.initial
  constructor
  · intro proper first waiting
    by_cases ready : world.Ready first
    · exact ⟨first, .here, .inr ready⟩
    · obtain ⟨second, waits⟩ := waitsFor_of_not_ready waiting ready
      by_cases free : (world.threads second).waiting = none ∨ world.Ready second
      · exact ⟨second, .step waits .here, free⟩
      · obtain ⟨waiting', ready'⟩ := not_or.mp free
        obtain ⟨third, waits'⟩ := waitsFor_of_not_ready waiting' ready'
        have ⟨iso, _, _, has, _⟩ := waits
        refine ⟨third, .step waits (.step waits' .here), .inl ?_⟩
        by_contra waiting''
        exact proper second (inv.strays has waits' waiting'')
  · intro thread cycle
    obtain ⟨before, _, waits⟩ := Relation.TransGen.tail'_iff.mp cycle
    obtain ⟨iso, _, _, has, _⟩ := waits
    obtain ⟨other, waits', rest⟩ := Relation.TransGen.head'_iff.mp cycle
    refine inv.strays has waits' ?_
    cases rest using Relation.ReflTransGen.head_induction_on with
    | refl => exact waiting_of_waitsFor waits'
    | head step _ => exact waiting_of_waitsFor step

/-- Each of two host functions asks for the heap statistics of the other's isolate. -/
def crossing : List (Event (Fin 2)) :=
  [.enter 1 0, .call 1, .lock 1, .enter 2 1, .call 2, .lock 2, .callOutside 1 1, .callOutside 2 0]

theorem lockers_wait_crossing : ∃ world : World (Fin 2), world.WaitsFor 1 2 ∧ world.WaitsFor 2 1 ∧ world.Strays 1 := by
  obtain ⟨world, run, first, second, has, has'⟩ := Foundation.Run.exists_of_execute
    (fun world : World (Fin 2) => (world.threads 1).waiting = some (1, false) ∧ (world.threads 2).waiting = some (0, false) ∧
      world.locked 1 = some 2 ∧ world.locked 0 = some 1)
    (Foundation.Admitted.free step initial crossing) (by decide +kernel)
  have waits : world.WaitsFor 1 2 := ⟨1, false, first, has, by decide⟩
  have waits' : world.WaitsFor 2 1 := ⟨0, false, second, has', by decide⟩
  exact ⟨world, waits, waits', (lockers_wait run).2 1 (.tail (.single waits) waits')⟩

end World

end Gv8.Lockers
