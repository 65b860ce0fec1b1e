import Gv8.Isolate.Entry

/-! The entry protocol under Go's scheduler, which moves a goroutine from thread to thread unless
it is wired to one by LockOSThread. The isolate remembers a thread; its callers are goroutines. -/

set_option autoImplicit false

namespace Gv8.Scheduled

/-- A call in progress. -/
inductive Doing (Iso : Type) where
  | locking (iso : Iso)
  | entering (iso : Iso) (threadID : Nat)
  | leaving (iso : Iso) (threadID : Nat)
  deriving DecidableEq

structure Goroutine (Iso : Type) where
  /-- The id of the thread that it runs on; none while it waits for one. -/
  thread : Option Nat
  locks : Nat
  /-- Those of them that the user's code made. -/
  own : Nat
  doing : Option (Doing Iso)
  deriving DecidableEq

structure World (G Iso : Type) where
  goroutines : G → Goroutine Iso
  entry : Iso → Entry
  /-- Every enter that succeeded and was not left, the latest first. -/
  outstanding : List (G × Iso)
  panicked : Bool

inductive Event (G Iso : Type) where
  /-- The scheduler, which leaves wired goroutines where they are. -/
  | run (g : G) (threadID : Nat)
  | park (g : G)
  | lockOSThread (g : G)
  | unlockOSThread (g : G)
  | beginEnter (g : G) (iso : Iso)
  | currentThreadID (g : G)
  | finishEnter (g : G)
  | beginLeave (g : G) (iso : Iso)
  | finishLeave (g : G)

namespace World

variable {G Iso : Type} [DecidableEq G] [DecidableEq Iso]

def initial : World G Iso := ⟨fun _ => ⟨none, 0, 0, none⟩, fun _ => .idle, [], false⟩

def setGoroutine (world : World G Iso) (g : G) (value : Goroutine Iso) : World G Iso :=
  { world with goroutines := Function.update world.goroutines g value }

def setEntry (world : World G Iso) (iso : Iso) (entry : Entry) : World G Iso :=
  { world with entry := Function.update world.entry iso entry }

def step (world : World G Iso) : Event G Iso → Option (World G Iso)
  | .run g threadID =>
    let own := world.goroutines g
    if own.locks = 0 then some (world.setGoroutine g { own with thread := some threadID }) else none
  | .park g =>
    let own := world.goroutines g
    if own.locks = 0 ∧ own.doing = none then some (world.setGoroutine g { own with thread := none }) else none
  | .lockOSThread g =>
    let own := world.goroutines g
    if own.thread.isSome ∧ own.doing = none then
      some (world.setGoroutine g { own with locks := own.locks + 1, own := own.own + 1 })
    else none
  | .unlockOSThread g =>
    let own := world.goroutines g
    if own.thread.isSome ∧ own.doing = none then
      some (world.setGoroutine g { own with locks := own.locks - 1, own := own.own - 1 })
    else none
  | .beginEnter g iso =>
    let own := world.goroutines g
    if own.thread.isSome ∧ own.doing = none then
      some (world.setGoroutine g { own with locks := own.locks + 1, doing := some (.locking iso) })
    else none
  | .currentThreadID g =>
    let own := world.goroutines g
    match own.doing, own.thread with
    | some (.locking iso), some threadID =>
      some (world.setGoroutine g { own with doing := some (.entering iso threadID) })
    | _, _ => none
  | .finishEnter g =>
    let own := world.goroutines g
    match own.doing with
    | some (.entering iso threadID) =>
      match (world.entry iso).enter threadID with
      | .ok entry => some { (world.setGoroutine g { own with doing := none }).setEntry iso entry with
          outstanding := (g, iso) :: world.outstanding }
      | .error _ => some (world.setGoroutine g { own with locks := own.locks - 1, doing := none })
    | _ => none
  | .beginLeave g iso =>
    let own := world.goroutines g
    match own.doing, own.thread with
    | none, some threadID => some (world.setGoroutine g { own with doing := some (.leaving iso threadID) })
    | _, _ => none
  | .finishLeave g =>
    let own := world.goroutines g
    match own.doing with
    | some (.leaving iso threadID) =>
      match (world.entry iso).leave threadID with
      | .ok entry => some { (world.setGoroutine g { own with locks := own.locks - 1, doing := none }).setEntry iso entry with
          outstanding := world.outstanding.erase (g, iso) }
      | .error _ => some { world with panicked := true }
    | _ => none

/-- A live thread has a non-zero id of its own and runs one goroutine; a release function is called
by the goroutine that entered, and only it undoes its LockOSThread calls. -/
def Admits (world : World G Iso) : Event G Iso → Prop
  | .run g threadID => threadID ≠ 0 ∧ ∀ other ≠ g, (world.goroutines other).thread ≠ some threadID
  | .unlockOSThread g => 0 < (world.goroutines g).own
  | .beginLeave g iso => (g, iso) ∈ world.outstanding
  | _ => True

instance [Fintype G] (world : World G Iso) : (event : Event G Iso) → Decidable (world.Admits event)
  | .run _ _ => inferInstanceAs (Decidable (_ ∧ _))
  | .unlockOSThread _ => inferInstanceAs (Decidable (_ < _))
  | .beginLeave _ _ => inferInstanceAs (Decidable (_ ∈ _))
  | .park _ | .lockOSThread _ | .beginEnter _ _ | .currentThreadID _ | .finishEnter _ | .finishLeave _ => isTrue trivial

end World

def Goroutine.inFlight {Iso : Type} (own : Goroutine Iso) : Nat :=
  match own.doing with
  | some (.locking _) | some (.entering _ _) => 1
  | _ => 0

variable {G Iso : Type}

def entersOf [DecidableEq G] (outstanding : List (G × Iso)) (g : G) : Nat := outstanding.countP fun enter => enter.1 = g

def entersInto [DecidableEq Iso] (outstanding : List (G × Iso)) (iso : Iso) : Nat := outstanding.countP fun enter => enter.2 = iso

theorem entersOf_pos [DecidableEq G] {outstanding : List (G × Iso)} {g : G} {iso : Iso} (member : (g, iso) ∈ outstanding) :
    0 < entersOf outstanding g :=
  List.countP_pos_iff.mpr ⟨_, member, by simp⟩

theorem entersInto_pos_iff [DecidableEq Iso] {outstanding : List (G × Iso)} {iso : Iso} :
    0 < entersInto outstanding iso ↔ ∃ g, (g, iso) ∈ outstanding := by
  simp [entersInto, List.countP_pos_iff]

theorem entersOf_cons [DecidableEq G] (outstanding : List (G × Iso)) (g other : G) (iso : Iso) :
    entersOf ((g, iso) :: outstanding) other = entersOf outstanding other + if g = other then 1 else 0 := by
  simp [entersOf, List.countP_cons]

theorem entersInto_cons [DecidableEq Iso] (outstanding : List (G × Iso)) (g : G) (iso other : Iso) :
    entersInto ((g, iso) :: outstanding) other = entersInto outstanding other + if iso = other then 1 else 0 := by
  simp [entersInto, List.countP_cons]

variable [DecidableEq G] [DecidableEq Iso]

theorem entersOf_erase {outstanding : List (G × Iso)} {g : G} {iso : Iso} (member : (g, iso) ∈ outstanding) (other : G) :
    entersOf outstanding other = entersOf (outstanding.erase (g, iso)) other + if g = other then 1 else 0 := by
  rw [← entersOf_cons _ g other iso]
  exact (List.perm_cons_erase member).countP_eq _

theorem entersInto_erase {outstanding : List (G × Iso)} {g : G} {iso : Iso} (member : (g, iso) ∈ outstanding)
    (other : Iso) :
    entersInto outstanding other = entersInto (outstanding.erase (g, iso)) other + if iso = other then 1 else 0 := by
  rw [← entersInto_cons _ g iso other]
  exact (List.perm_cons_erase member).countP_eq _

structure Goroutine.Sound (outstanding : List (G × Iso)) (g : G) (own : Goroutine Iso) : Prop where
  locks : own.locks = own.own + entersOf outstanding g + own.inFlight
  running : own.doing ≠ none → own.thread.isSome
  asked : ∀ iso threadID, own.doing = some (.entering iso threadID) ∨ own.doing = some (.leaving iso threadID) →
    own.thread = some threadID
  leaving : ∀ iso threadID, own.doing = some (.leaving iso threadID) → (g, iso) ∈ outstanding

structure World.Invariant (world : World G Iso) : Prop where
  counted : ∀ iso, (world.entry iso).depth = entersInto world.outstanding iso
  owned : ∀ g iso, (g, iso) ∈ world.outstanding → (world.goroutines g).thread = some (world.entry iso).ownerThread
  sound : ∀ g, (world.goroutines g).Sound world.outstanding g
  apart : ∀ g other threadID, (world.goroutines g).thread = some threadID →
    (world.goroutines other).thread = some threadID → g = other
  silent : world.panicked = false

namespace World.Invariant

variable {world next : World G Iso} {g : G}

theorem initial : (World.initial : World G Iso).Invariant where
  counted _ := rfl
  owned := nofun
  sound _ := ⟨rfl, nofun, nofun, nofun⟩
  apart := nofun
  silent := rfl

theorem move (inv : world.Invariant) (free : (world.goroutines g).locks = 0) {thread : Option Nat}
    (runs : (world.goroutines g).doing ≠ none → thread.isSome)
    (unused : ∀ threadID, thread = some threadID → ∀ other ≠ g, (world.goroutines other).thread ≠ some threadID) :
    (world.setGoroutine g { world.goroutines g with thread }).Invariant := by
  have own := inv.sound g
  have locks := own.locks
  have outside (iso : Iso) : (g, iso) ∉ world.outstanding := by
    intro member
    have pos := entersOf_pos member
    omega
  have idle (iso : Iso) (threadID : Nat) :
      ¬ ((world.goroutines g).doing = some (.entering iso threadID) ∨
        (world.goroutines g).doing = some (.leaving iso threadID)) := by
    rintro (busy | busy)
    · simp only [Goroutine.inFlight, busy] at locks
      omega
    · exact outside iso (own.leaving iso threadID busy)
  refine ⟨inv.counted, ?_, ?_, ?_, inv.silent⟩
  · intro other iso member
    have differ : other ≠ g := fun same => outside iso (same ▸ member)
    simp only [setGoroutine, Function.update_of_ne differ]
    exact inv.owned other iso member
  · refine (Function.forall_update_iff _ fun other (own : Goroutine Iso) => own.Sound world.outstanding other).mpr
      ⟨⟨own.locks, runs, ?_, own.leaving⟩, fun other _ => inv.sound other⟩
    exact fun iso threadID busy => absurd busy (idle iso threadID)
  · intro first second threadID
    by_cases one : first = g <;> by_cases two : second = g
    · exact fun _ _ => one.trans two.symm
    · simp only [setGoroutine, one, Function.update_self, Function.update_of_ne two]
      exact fun left right => absurd right (unused threadID left second two)
    · simp only [setGoroutine, two, Function.update_self, Function.update_of_ne one]
      exact fun left right => absurd left (unused threadID right first one)
    · simp only [setGoroutine, Function.update_of_ne one, Function.update_of_ne two]
      exact inv.apart first second threadID

theorem replace (inv : world.Invariant) {value : Goroutine Iso} {entry : Iso → Entry} {outstanding : List (G × Iso)}
    (same : value.thread = (world.goroutines g).thread) (counted : ∀ iso, (entry iso).depth = entersInto outstanding iso)
    (owned : ∀ other iso, (other, iso) ∈ outstanding →
      (world.goroutines other).thread = some (entry iso).ownerThread)
    (sound : value.Sound outstanding g)
    (others : ∀ other ≠ g, entersOf outstanding other = entersOf world.outstanding other ∧
      ∀ iso, (other, iso) ∈ world.outstanding → (other, iso) ∈ outstanding) :
    World.Invariant { world with goroutines := Function.update world.goroutines g value, entry, outstanding } := by
  have thread (other : G) : (Function.update world.goroutines g value other).thread = (world.goroutines other).thread := by
    by_cases here : other = g
    · rw [here, Function.update_self, same]
    · rw [Function.update_of_ne here]
  refine ⟨counted, ?_, ?_, ?_, inv.silent⟩
  · intro other iso member
    exact (thread other).trans (owned other iso member)
  · refine (Function.forall_update_iff _ fun other (own : Goroutine Iso) => own.Sound outstanding other).mpr ⟨sound, ?_⟩
    intro other differ
    obtain ⟨locks, running, asked, leaving⟩ := inv.sound other
    exact ⟨(others other differ).1 ▸ locks, running, asked, fun iso threadID busy =>
      (others other differ).2 iso (leaving iso threadID busy)⟩
  · intro first second threadID left right
    exact inv.apart first second threadID ((thread first).symm.trans left) ((thread second).symm.trans right)

theorem keep (inv : world.Invariant) {value : Goroutine Iso} (same : value.thread = (world.goroutines g).thread)
    (sound : value.Sound world.outstanding g) : (world.setGoroutine g value).Invariant :=
  inv.replace same inv.counted inv.owned sound fun _ _ => ⟨rfl, fun _ => id⟩

theorem lockOSThread (inv : world.Invariant) (taken : world.step (.lockOSThread g) = some next) : next.Invariant := by
  simp only [step, Option.ite_none_right_eq_some, Option.some.injEq] at taken
  obtain ⟨_, rfl⟩ := taken
  obtain ⟨locks, running, asked, leaving⟩ := inv.sound g
  refine inv.keep rfl ⟨?_, running, asked, leaving⟩
  simp only [Goroutine.inFlight] at locks ⊢
  omega

theorem unlockOSThread (inv : world.Invariant) (owned : 0 < (world.goroutines g).own)
    (taken : world.step (.unlockOSThread g) = some next) : next.Invariant := by
  simp only [step, Option.ite_none_right_eq_some, Option.some.injEq] at taken
  obtain ⟨_, rfl⟩ := taken
  obtain ⟨locks, running, asked, leaving⟩ := inv.sound g
  refine inv.keep rfl ⟨?_, running, asked, leaving⟩
  simp only [Goroutine.inFlight] at locks ⊢
  omega

theorem beginEnter (inv : world.Invariant) {iso : Iso} (taken : world.step (.beginEnter g iso) = some next) :
    next.Invariant := by
  simp only [step, Option.ite_none_right_eq_some, Option.some.injEq] at taken
  obtain ⟨⟨runs, idle⟩, rfl⟩ := taken
  have locks := (inv.sound g).locks
  refine inv.keep rfl ⟨?_, fun _ => runs, by simp, by simp⟩
  simp only [Goroutine.inFlight, idle] at locks ⊢
  omega

theorem currentThreadID (inv : world.Invariant) (taken : world.step (.currentThreadID g) = some next) :
    next.Invariant := by
  simp only [step] at taken
  split at taken
  · next iso threadID busy runs =>
    cases taken
    have locks := (inv.sound g).locks
    refine inv.keep rfl ⟨?_, by simp [runs], by simp [runs], by simp⟩
    simp only [Goroutine.inFlight, busy] at locks ⊢
    exact locks
  · cases taken

/-- Whoever has entered the isolate that the goroutine finds free, or its own, is the goroutine. -/
theorem entered_alone (inv : world.Invariant) {iso : Iso} {threadID : Nat} (here : (world.goroutines g).thread = some threadID)
    (free : (world.entry iso).depth = 0 ∨ (world.entry iso).ownerThread = threadID) {other : G}
    (entered : (other, iso) ∈ world.outstanding) : other = g := by
  have busy : 0 < (world.entry iso).depth := inv.counted iso ▸ entersInto_pos_iff.mpr ⟨other, entered⟩
  have owner := free.resolve_left (Nat.ne_of_gt busy)
  exact inv.apart other g threadID (owner ▸ inv.owned other iso entered) here

theorem finishEnter (inv : world.Invariant) (taken : world.step (.finishEnter g) = some next) : next.Invariant := by
  simp only [step] at taken
  split at taken
  · next iso threadID busy =>
    obtain ⟨locks, running, asked, leaving⟩ := inv.sound g
    have here := asked iso threadID (.inl busy)
    simp only [Goroutine.inFlight, busy] at locks
    split at taken
    · next entry entered =>
      cases taken
      obtain ⟨free, rfl⟩ := (Entry.enter_ok_iff _ _ _).mp entered
      refine inv.replace rfl ?_ ?_ ⟨?_, by simp, by simp, by simp⟩ ?_
      · intro other
        change (Function.update world.entry iso _ other).depth = _
        rw [entersInto_cons]
        by_cases same : other = iso
        · rw [same, Function.update_self, inv.counted, if_pos rfl]
        · rw [Function.update_of_ne same, inv.counted, if_neg (Ne.symm same), Nat.add_zero]
      · intro other into member
        change _ = some (Function.update world.entry iso _ into).ownerThread
        by_cases same : into = iso
        · rw [same, Function.update_self]
          rcases List.mem_cons.mp member with latest | older
          · cases latest
            exact here
          · have alone : other = g := inv.entered_alone here free (same ▸ older)
            rw [alone]
            exact here
        · rw [Function.update_of_ne same]
          refine inv.owned other into ((List.mem_cons.mp member).resolve_left ?_)
          rintro ⟨⟩
          exact same rfl
      · rw [entersOf_cons, if_pos rfl]
        simp only [Goroutine.inFlight]
        omega
      · intro other differ
        rw [entersOf_cons, if_neg differ.symm, Nat.add_zero]
        exact ⟨rfl, fun _ => .tail _⟩
    · cases taken
      refine inv.keep rfl ⟨?_, by simp, by simp, by simp⟩
      simp only [Goroutine.inFlight]
      omega
  · cases taken

theorem beginLeave (inv : world.Invariant) {iso : Iso} (entered : (g, iso) ∈ world.outstanding)
    (taken : world.step (.beginLeave g iso) = some next) : next.Invariant := by
  simp only [step] at taken
  split at taken
  · next threadID idle runs =>
    cases taken
    have locks := (inv.sound g).locks
    refine inv.keep rfl ⟨?_, by simp [runs], by simp [runs], ?_⟩
    · simp only [Goroutine.inFlight, idle] at locks ⊢
      exact locks
    · intro other otherID busy
      cases busy
      exact entered
  · cases taken

theorem finishLeave (inv : world.Invariant) (taken : world.step (.finishLeave g) = some next) : next.Invariant := by
  simp only [step] at taken
  split at taken
  · next iso threadID busy =>
    obtain ⟨locks, running, asked, leaving⟩ := inv.sound g
    have here := asked iso threadID (.inr busy)
    have entered := leaving iso threadID busy
    simp only [Goroutine.inFlight, busy] at locks
    have owner : (world.entry iso).ownerThread = threadID := by
      rw [inv.owned g iso entered] at here
      exact Option.some.inj here
    have inside : 0 < (world.entry iso).depth := inv.counted iso ▸ entersInto_pos_iff.mpr ⟨g, entered⟩
    rw [Entry.leave_ok inside owner] at taken
    cases taken
    have mine := entersOf_erase entered g
    rw [if_pos rfl] at mine
    refine inv.replace rfl ?_ ?_ ⟨?_, by simp, by simp, by simp⟩ ?_
    · intro other
      change (Function.update world.entry iso _ other).depth = _
      have fewer := entersInto_erase entered other
      by_cases same : other = iso
      · rw [same, if_pos rfl] at fewer
        rw [same, Function.update_self, inv.counted, fewer, Nat.add_sub_cancel]
      · rw [if_neg (Ne.symm same), Nat.add_zero] at fewer
        rw [Function.update_of_ne same, inv.counted, fewer]
    · intro other into member
      change _ = some (Function.update world.entry iso _ into).ownerThread
      rw [inv.owned other into (List.mem_of_mem_erase member)]
      by_cases same : into = iso
      · -- somebody else's enter, or another one, is left: this is not the last leave
        have fewer := entersInto_erase entered iso
        have more : 0 < entersInto (world.outstanding.erase (g, iso)) iso := entersInto_pos_iff.mpr ⟨other, same ▸ member⟩
        rw [if_pos rfl] at fewer
        have last : (world.entry iso).depth - 1 ≠ 0 := by
          rw [inv.counted, fewer]
          omega
        rw [same, Function.update_self, if_neg last]
      · rw [Function.update_of_ne same]
    · simp only [Goroutine.inFlight]
      omega
    · intro other differ
      have others := entersOf_erase entered other
      rw [if_neg differ.symm, Nat.add_zero] at others
      refine ⟨others.symm, fun into member => ?_⟩
      refine (List.mem_erase_of_ne ?_).mpr member
      rintro ⟨⟩
      exact differ rfl
  · cases taken

theorem step (inv : world.Invariant) {event : Event G Iso} (admitted : world.Admits event)
    (taken : world.step event = some next) : next.Invariant := by
  cases event with
  | run g threadID =>
    simp only [World.step, Option.ite_none_right_eq_some, Option.some.injEq] at taken
    obtain ⟨free, rfl⟩ := taken
    refine inv.move free (fun _ => rfl) ?_
    intro _ same
    cases same
    exact admitted.2
  | park g =>
    simp only [World.step, Option.ite_none_right_eq_some, Option.some.injEq] at taken
    obtain ⟨⟨free, idle⟩, rfl⟩ := taken
    exact inv.move free (absurd idle) nofun
  | lockOSThread g => exact inv.lockOSThread taken
  | unlockOSThread g => exact inv.unlockOSThread admitted taken
  | beginEnter g iso => exact inv.beginEnter taken
  | currentThreadID g => exact inv.currentThreadID taken
  | finishEnter g => exact inv.finishEnter taken
  | beginLeave g iso => exact inv.beginLeave admitted taken
  | finishLeave g => exact inv.finishLeave taken

end World.Invariant

/-- What the entry protocol comes to for goroutines: an isolate is entered by one of them at a
time, which stays on the thread that the isolate remembers until its last leave. -/
structure World.EnteredByGoroutine (world : World G Iso) : Prop where
  counted : ∀ iso, (world.entry iso).depth = entersInto world.outstanding iso
  alone : ∀ iso first second, (first, iso) ∈ world.outstanding → (second, iso) ∈ world.outstanding → first = second
  stays : ∀ g iso, (g, iso) ∈ world.outstanding →
    (world.goroutines g).thread = some (world.entry iso).ownerThread ∧ 0 < (world.goroutines g).locks
  /-- An `enter` fails just where another goroutine is in the isolate. -/
  admitted : ∀ g iso threadID, (world.goroutines g).doing = some (.entering iso threadID) →
    ((∃ entry, (world.entry iso).enter threadID = .ok entry) ↔ ∀ other, (other, iso) ∈ world.outstanding → other = g)
  /-- Outside `enter`, LockOSThread has been called once for each enter, and by the user's code. -/
  wired : ∀ g, (world.goroutines g).doing = none →
    (world.goroutines g).locks = (world.goroutines g).own + entersOf world.outstanding g
  no_panic : world.panicked = false

theorem World.Invariant.protocol {world : World G Iso} (inv : world.Invariant) : world.EnteredByGoroutine where
  counted := inv.counted
  alone iso first second left right :=
    inv.apart first second _ (inv.owned first iso left) (inv.owned second iso right)
  stays g iso member := by
    have locks := (inv.sound g).locks
    have pos := entersOf_pos member
    exact ⟨inv.owned g iso member, by omega⟩
  admitted g iso threadID busy := by
    have here := (inv.sound g).asked iso threadID (.inl busy)
    constructor
    · rintro ⟨entry, entered⟩ other member
      exact inv.entered_alone here ((Entry.enter_ok_iff _ _ _).mp entered).1 member
    · intro alone
      refine ⟨_, (Entry.enter_ok_iff _ _ _).mpr ⟨?_, rfl⟩⟩
      by_cases idle : (world.entry iso).depth = 0
      · exact .inl idle
      · rw [inv.counted] at idle
        obtain ⟨other, member⟩ := entersInto_pos_iff.mp (Nat.pos_of_ne_zero idle)
        have owner := inv.owned other iso member
        rw [alone other member, here] at owner
        exact .inr (Option.some.inj owner).symm
  wired g idle := by
    have locks := (inv.sound g).locks
    simp only [Goroutine.inFlight, idle, Nat.add_zero] at locks
    exact locks
  no_panic := inv.silent

theorem entered_by_goroutine {world : World G Iso} {events : List (Event G Iso)}
    (run : Foundation.Run World.step World.Admits World.initial events world) : world.EnteredByGoroutine := by
  have inv : world.Invariant :=
    run.invariant (fun _ _ _ inv admitted taken => inv.step admitted taken) World.Invariant.initial
  exact inv.protocol

/-- Goroutine 0 enters isolate 0 twice and leaves it once; goroutine 1 is moved to a thread that
goroutine 0 has left before, and enters isolate 1. -/
def moving : List (Event (Fin 2) (Fin 2)) :=
  [.run 0 7, .park 0, .run 0 8, .beginEnter 0 0, .currentThreadID 0, .finishEnter 0, .run 1 7, .beginEnter 0 0,
    .currentThreadID 0, .finishEnter 0, .beginEnter 1 1, .currentThreadID 1, .beginLeave 0 0, .finishEnter 1,
    .finishLeave 0]

theorem entered_by_goroutine_moving : ∃ world : World (Fin 2) (Fin 2),
    world.EnteredByGoroutine ∧ world.outstanding = [(1, 1), (0, 0)] ∧ world.entry 0 = ⟨8, 1⟩ := by
  obtain ⟨world, run, outstanding, entry⟩ := Foundation.Run.exists_of_execute
    (fun world : World (Fin 2) (Fin 2) => world.outstanding = [(1, 1), (0, 0)] ∧ world.entry 0 = ⟨8, 1⟩)
    (by decide +kernel : Foundation.Admitted World.step World.Admits World.initial moving) (by decide +kernel)
  exact ⟨world, entered_by_goroutine run, outstanding, entry⟩

end Gv8.Scheduled
