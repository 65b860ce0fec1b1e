import Gv8.Foundation.Locking

/-! Threads side by side, each with what is left of a trace of lock actions.

A lock that is taken in the order of the ranks is given back before anything else is done, so
whoever waits for a lock waits for a thread that is at a lock too, of a higher rank: locks alone
hold nobody up. Writers go ahead of readers that come later, as those of Go's RWMutex do: a
writer first announces itself, and waits then for the readers that are there. -/

set_option autoImplicit false

namespace Foundation

/-- What threads ask of locks, and which requests are not granted together. -/
structure Locks (Request : Type) where
  excludes : Request → Request → Prop
  /-- It is announced before it is granted. -/
  announces : Request → Bool
  rank : Request → Nat
  bound : Nat
  rank_eq : ∀ {first second}, excludes first second → rank first = rank second
  rank_lt : ∀ request, rank request < bound

structure Progress (Request : Type) where
  held : List Request
  announced : Bool
  rest : List (LockAction Request)

def Matched {Request : Type} [DecidableEq Request] : List Request → List (LockAction Request) → Prop
  | _, [] => True
  | held, .release request :: rest => request ∈ held ∧ Matched (held.erase request) rest
  | held, .acquire request :: rest => Matched (request :: held) rest
  | held, .native :: rest | held, .user :: rest => Matched held rest

namespace Progress

variable {Request : Type}

def start (trace : List (LockAction Request)) : Progress Request := ⟨[], false, trace⟩

def AtLock (progress : Progress Request) : Prop :=
  ∃ request rest, progress.rest = .acquire request :: rest ∨ progress.rest = .release request :: rest

def pending (progress : Progress Request) : Option Request :=
  match progress.announced, progress.rest with
  | true, .acquire request :: _ => some request
  | _, _ => none

/-- What is left to do: an action, and before some the announcement. -/
def weight (progress : Progress Request) : Nat := 2 * progress.rest.length - progress.announced.toNat

variable {progress : Progress Request} {request : Request} {rest : List (LockAction Request)}

theorem pending_eq_some : progress.pending = some request ↔
    progress.announced = true ∧ ∃ rest, progress.rest = .acquire request :: rest := by
  unfold pending
  split
  · rename_i other rest announced left
    simp [announced, left]
  · rename_i no
    constructor
    · nofun
    · rintro ⟨announced, rest, left⟩
      exact absurd left (no request rest announced)

theorem weight_passed {action : LockAction Request} (left : progress.rest = action :: rest) (held : List Request) :
    weight ⟨held, false, rest⟩ < progress.weight := by
  have some : progress.announced.toNat ≤ 1 := Bool.toNat_le _
  simp only [weight, left, List.length_cons, Bool.toNat_false]
  omega

end Progress

section steps

variable {Request Thread : Type} [DecidableEq Request] [DecidableEq Thread] (locks : Locks Request)

inductive Moves (state : Thread → Progress Request) (thread : Thread) : (Thread → Progress Request) → Prop where
  | announce {request : Request} {rest : List (LockAction Request)} :
      (state thread).rest = .acquire request :: rest → locks.announces request = true → (state thread).announced = false →
      (∀ other ≠ thread, ∀ claim ∈ (state other).pending, ¬ locks.excludes request claim) →
      (∀ other ≠ thread, ∀ claim ∈ (state other).held, locks.announces claim = true → ¬ locks.excludes request claim) →
      Moves state thread (Function.update state thread { state thread with announced := true })
  | acquire {request : Request} {rest : List (LockAction Request)} :
      (state thread).rest = .acquire request :: rest → (state thread).announced = locks.announces request →
      (∀ other ≠ thread, ∀ taken ∈ (state other).held, ¬ locks.excludes request taken) →
      (locks.announces request = false → ∀ other ≠ thread, ∀ claim ∈ (state other).pending, ¬ locks.excludes request claim) →
      Moves state thread (Function.update state thread ⟨request :: (state thread).held, false, rest⟩)
  | release {request : Request} {rest : List (LockAction Request)} :
      (state thread).rest = .release request :: rest → request ∈ (state thread).held →
      Moves state thread (Function.update state thread ⟨(state thread).held.erase request, false, rest⟩)
  | outside {action : LockAction Request} {rest : List (LockAction Request)} :
      (state thread).rest = action :: rest → action = .native ∨ action = .user →
      Moves state thread (Function.update state thread ⟨(state thread).held, false, rest⟩)

def Steps (state next : Thread → Progress Request) : Prop := ∃ thread, Moves locks state thread next

def LockSteps (state next : Thread → Progress Request) : Prop :=
  ∃ thread, (state thread).AtLock ∧ Moves locks state thread next

structure Progress.Sound (progress : Progress Request) : Prop where
  disciplined : Disciplined locks.rank progress.held progress.rest
  matched : Matched progress.held progress.rest
  back : progress.rest.foldl heldAfter progress.held = []
  announced : progress.announced = true →
    ∃ request rest, progress.rest = .acquire request :: rest ∧ locks.announces request = true

variable {locks} {state next : Thread → Progress Request} {thread : Thread} {progress : Progress Request}
  {request : Request} {rest : List (LockAction Request)}

namespace Progress

/-- Whoever holds a lock is at a lock next: at one of a higher rank, or at a release. -/
theorem Sound.holds (sound : progress.Sound locks) (held : request ∈ progress.held) :
    (∃ other rest, progress.rest = .acquire other :: rest ∧ locks.rank request < locks.rank other) ∨
      ∃ other rest, progress.rest = .release other :: rest ∧ other ∈ progress.held := by
  obtain ⟨disciplined, matched, back, _⟩ := sound
  have busy : progress.held ≠ [] := List.ne_nil_of_mem held
  cases left : progress.rest with
  | nil =>
    rw [left] at back
    exact absurd back busy
  | cons action rest =>
    rw [left] at disciplined matched
    cases action with
    | acquire other => exact .inl ⟨other, rest, rfl, disciplined.1.2 request held⟩
    | release other => exact .inr ⟨other, rest, rfl, matched.1⟩
    | native => exact absurd disciplined.1 busy
    | user => exact absurd disciplined.1 busy

theorem Sound.announces (sound : progress.Sound locks) (left : progress.rest = .acquire request :: rest)
    (announced : progress.announced = true) : locks.announces request = true := by
  obtain ⟨other, rest', left', writes⟩ := sound.announced announced
  rw [left] at left'
  cases left'
  exact writes

theorem Sound.passed {action : LockAction Request} (sound : progress.Sound locks) (left : progress.rest = action :: rest)
    (matched : Matched (heldAfter progress.held action) rest) : Sound locks ⟨heldAfter progress.held action, false, rest⟩ where
  disciplined := by
    have disciplined := sound.disciplined
    rw [left] at disciplined
    exact disciplined.2
  matched := matched
  back := by
    have back := sound.back
    rw [left] at back
    exact back
  announced := nofun

end Progress

theorem Moves.sound (moves : Moves locks state thread next) (sound : ∀ thread, (state thread).Sound locks) (other : Thread) :
    (next other).Sound locks := by
  have kept {progress : Progress Request} (fine : progress.Sound locks) :
      (Function.update state thread progress other).Sound locks :=
    (Function.forall_update_iff state fun _ (own : Progress Request) => own.Sound locks).mpr
      ⟨fine, fun other _ => sound other⟩ other
  have matched := (sound thread).matched
  cases moves with
  | @announce request rest left announces _ _ _ =>
    exact kept ⟨(sound thread).disciplined, matched, (sound thread).back, fun _ => ⟨request, rest, left, announces⟩⟩
  | acquire left =>
    rw [left] at matched
    exact kept ((sound thread).passed left matched)
  | release left =>
    rw [left] at matched
    exact kept ((sound thread).passed left matched.2)
  | outside left outside =>
    rw [left] at matched
    rcases outside with rfl | rfl
    · exact kept ((sound thread).passed left matched)
    · exact kept ((sound thread).passed left matched)

def Unblocked (locks : Locks Request) (state : Thread → Progress Request) : Prop := ∃ next, LockSteps locks state next

theorem unblocked_of_release (sound : ∀ thread, (state thread).Sound locks) (left : (state thread).rest = .release request :: rest) :
    Unblocked locks state := by
  have matched := (sound thread).matched
  rw [left] at matched
  exact ⟨_, thread, ⟨request, rest, .inr left⟩, .release left matched.1⟩

/-- Behind who is in the way of a request there is somebody who can go on, if that is so for the
requests of higher ranks. -/
theorem unblocked_of_holder (sound : ∀ thread, (state thread).Sound locks)
    (higher : ∀ thread other rest, (state thread).rest = .acquire other :: rest → locks.rank request < locks.rank other →
      Unblocked locks state)
    {taken : Request} (held : taken ∈ (state thread).held) (excludes : locks.excludes request taken) :
    Unblocked locks state := by
  rcases (sound thread).holds held with ⟨other, rest, left, above⟩ | ⟨other, rest, left, _⟩
  · rw [← locks.rank_eq excludes] at above
    exact higher thread other rest left above
  · exact unblocked_of_release sound left

theorem unblocked_of_pending (sound : ∀ thread, (state thread).Sound locks)
    (higher : ∀ thread other rest, (state thread).rest = .acquire other :: rest → locks.rank request < locks.rank other →
      Unblocked locks state)
    {claim : Request} (pending : (state thread).pending = some claim) (excludes : locks.excludes request claim) :
    Unblocked locks state := by
  obtain ⟨announced, rest, left⟩ := Progress.pending_eq_some.mp pending
  have writes := (sound thread).announces left announced
  by_cases free : ∀ other ≠ thread, ∀ taken ∈ (state other).held, ¬ locks.excludes claim taken
  · refine ⟨_, thread, ⟨claim, rest, .inl left⟩, .acquire left (announced.trans writes.symm) free fun reads => ?_⟩
    rw [writes] at reads
    cases reads
  · push Not at free
    obtain ⟨other, _, taken, held, blocks⟩ := free
    rw [locks.rank_eq excludes] at higher
    exact unblocked_of_holder sound higher held blocks

/-- No deadlock: who waits for a lock waits in the end for one who is at a lock and can go on. -/
theorem unblocked_of_acquire (sound : ∀ thread, (state thread).Sound locks)
    (left : (state thread).rest = .acquire request :: rest) : Unblocked locks state := by
  -- Over the ranks that are left above the one of the request.
  induction above : locks.bound - locks.rank request using Nat.strongRecOn generalizing thread request rest with
  | ind above ih =>
    subst above
    have higher : ∀ thread other rest, (state thread).rest = .acquire other :: rest →
        locks.rank request < locks.rank other → Unblocked locks state := by
      intro thread other rest left more
      have bound := locks.rank_lt other
      exact ih _ (by omega) left rfl
    have waits : (state thread).AtLock := ⟨request, rest, .inl left⟩
    have holder {other : Thread} {taken : Request} (held : taken ∈ (state other).held)
        (excludes : locks.excludes request taken) : Unblocked locks state :=
      unblocked_of_holder sound higher held excludes
    have writer {other : Thread} {claim : Request} (pending : (state other).pending = some claim)
        (excludes : locks.excludes request claim) : Unblocked locks state :=
      unblocked_of_pending sound higher pending excludes
    by_contra stuck
    cases announces : locks.announces request with
    | true =>
      cases announced : (state thread).announced with
      | true =>
        refine stuck ⟨_, thread, waits, .acquire left (announced.trans announces.symm) ?_ ?_⟩
        · exact fun other _ taken held excludes => stuck (holder held excludes)
        · rw [announces]
          nofun
      | false =>
        refine stuck ⟨_, thread, waits, .announce left announces announced ?_ ?_⟩
        · exact fun other _ claim pending excludes => stuck (writer pending excludes)
        · exact fun other _ taken held _ excludes => stuck (holder held excludes)
    | false =>
      have announced : (state thread).announced = false := by
        by_contra announced
        rw [Bool.not_eq_false] at announced
        rw [(sound thread).announces left announced] at announces
        cases announces
      refine stuck ⟨_, thread, waits, .acquire left (announced.trans announces.symm) ?_ ?_⟩
      · exact fun other _ taken held excludes => stuck (holder held excludes)
      · exact fun _ other _ claim pending excludes => stuck (writer pending excludes)

theorem unblocked (sound : ∀ thread, (state thread).Sound locks) (waits : (state thread).AtLock) : Unblocked locks state := by
  obtain ⟨request, rest, left | left⟩ := waits
  · exact unblocked_of_acquire sound left
  · exact unblocked_of_release sound left

section finite

variable [Fintype Thread]

def weight (state : Thread → Progress Request) : Nat := ∑ thread, (state thread).weight

theorem Moves.weight_lt (moves : Moves locks state thread next) : weight next < weight state := by
  have less {progress : Progress Request} (lower : progress.weight < (state thread).weight) :
      weight (Function.update state thread progress) < weight state := by
    apply Finset.sum_lt_sum
    · intro other _
      by_cases same : other = thread
      · rw [same, Function.update_self]
        exact lower.le
      · rw [Function.update_of_ne same]
    · refine ⟨thread, Finset.mem_univ _, ?_⟩
      rw [Function.update_self]
      exact lower
  cases moves with
  | announce left announces announced =>
    apply less
    simp only [Progress.weight, left, announced, List.length_cons, Bool.toNat_true, Bool.toNat_false]
    omega
  | acquire left => exact less (Progress.weight_passed left _)
  | release left => exact less (Progress.weight_passed left _)
  | outside left => exact less (Progress.weight_passed left _)

/-- Steps at locks alone bring every thread to where it is not at a lock, and holds none. -/
theorem settles (sound : ∀ thread, (state thread).Sound locks) :
    ∃ final, Relation.ReflTransGen (LockSteps locks) state final ∧
      ∀ thread, (final thread).held = [] ∧ ¬ (final thread).AtLock := by
  induction size : weight state using Nat.strongRecOn generalizing state with
  | ind size ih =>
    subst size
    by_cases waits : ∃ thread, (state thread).AtLock
    · obtain ⟨thread, waits⟩ := waits
      obtain ⟨next, mover, atLock, moves⟩ := unblocked sound waits
      obtain ⟨final, steps, settled⟩ := ih _ moves.weight_lt (moves.sound sound) rfl
      exact ⟨final, .head ⟨mover, atLock, moves⟩ steps, settled⟩
    · push Not at waits
      refine ⟨state, .refl, fun thread => ⟨?_, waits thread⟩⟩
      by_contra busy
      obtain ⟨request, held⟩ := List.exists_mem_of_ne_nil _ busy
      rcases (sound thread).holds held with ⟨other, rest, left, _⟩ | ⟨other, rest, left, _⟩
      · exact waits thread ⟨other, rest, .inl left⟩
      · exact waits thread ⟨other, rest, .inr left⟩

end finite

theorem sound_of_steps (steps : Relation.ReflTransGen (Steps locks) state next) (sound : ∀ thread, (state thread).Sound locks) :
    ∀ thread, (next thread).Sound locks := by
  induction steps with
  | refl => exact sound
  | tail _ step ih =>
    obtain ⟨thread, moves⟩ := step
    exact moves.sound ih

end steps

def LockAction.map {Request Lock : Type} (lock : Request → Lock) : LockAction Request → LockAction Lock
  | .acquire request => .acquire (lock request)
  | .release request => .release (lock request)
  | .native => .native
  | .user => .user

section kinds

variable {Request Lock : Type} [DecidableEq Request] [DecidableEq Lock] {rank : Lock → Nat} {lock : Request → Lock}
  {held : List Request} {trace : List (LockAction Request)}

theorem map_erase_of_nodup {request : Request} (distinct : (held.map lock).Nodup) (member : request ∈ held) :
    (held.erase request).map lock = (held.map lock).erase (lock request) := by
  induction held with
  | nil => cases member
  | cons first held ih =>
    by_cases same : first = request
    · rw [same, List.erase_cons_head, List.map_cons, List.erase_cons_head]
    · have member := (List.mem_cons.mp member).resolve_left (Ne.symm same)
      rw [List.map_cons, List.nodup_cons] at distinct
      have differ : lock first ≠ lock request := by
        intro same
        exact distinct.1 (same ▸ List.mem_map_of_mem member)
      rw [List.erase_cons_tail (by simpa using same), List.map_cons, List.map_cons,
        List.erase_cons_tail (by simpa using differ), ih distinct.2 member]

/-- The discipline of kinds of locks is one of locks, where of a kind one at most is held. -/
theorem disciplined_of_map (disciplined : Disciplined rank (held.map lock) (trace.map (LockAction.map lock)))
    (matched : Matched held trace) (distinct : (held.map lock).Nodup) : Disciplined (rank ∘ lock) held trace := by
  induction trace generalizing held with
  | nil => trivial
  | cons action trace ih =>
    obtain ⟨allowed, rest⟩ := disciplined
    cases action with
    | acquire request =>
      obtain ⟨new, below⟩ := allowed
      refine ⟨⟨fun member => new (List.mem_map_of_mem member), fun other member => ?_⟩, ?_⟩
      · exact below _ (List.mem_map_of_mem member)
      · exact ih rest matched (List.nodup_cons.mpr ⟨new, distinct⟩)
    | release request =>
      obtain ⟨member, matched⟩ := matched
      have erased : (heldAfter held (.release request)).map lock = (held.map lock).erase (lock request) :=
        map_erase_of_nodup distinct member
      refine ⟨trivial, ih ?_ matched ?_⟩
      · rw [erased]
        exact rest
      · rw [erased]
        exact distinct.erase _
    | native => exact ⟨List.map_eq_nil_iff.mp allowed, ih rest matched distinct⟩
    | user => exact ⟨List.map_eq_nil_iff.mp allowed, ih rest matched distinct⟩

end kinds

end Foundation
