import Gv8.Foundation.Progress

/-! What is accessed under which lock.

An access is a block too, one that nobody waits for; it may overlap in time with any access of
another thread that the locks do not keep away. Blocks are nested, so what a thread has open is
a stack, and each block is entered with those below it open. -/

set_option autoImplicit false

namespace Foundation

section nesting

variable {Lock : Type}

def openAfter (opened : List Lock) : LockAction Lock → List Lock
  | .acquire lock => lock :: opened
  | .release _ => opened.tail
  | .native | .user => opened

def Nests (mayEnter : List Lock → Lock → Bool) : List Lock → List (LockAction Lock) → Prop
  | _, [] => True
  | opened, .acquire lock :: rest => mayEnter opened lock = true ∧ Nests mayEnter (lock :: opened) rest
  | opened, .release lock :: rest => opened.head? = some lock ∧ Nests mayEnter opened.tail rest
  | opened, .native :: rest | opened, .user :: rest => Nests mayEnter opened rest

/-- The same of blocks that are open: each is entered with the later ones of the list open. -/
def Stacked (mayEnter : List Lock → Lock → Bool) : List Lock → Prop
  | [] => True
  | lock :: below => mayEnter below lock = true ∧ Stacked mayEnter below

variable {mayEnter : List Lock → Lock → Bool} {opened : List Lock} {before after trace : List (LockAction Lock)}

theorem nests_append : Nests mayEnter opened (before ++ after) ↔
    Nests mayEnter opened before ∧ Nests mayEnter (before.foldl openAfter opened) after := by
  induction before generalizing opened with
  | nil => exact (and_iff_right trivial).symm
  | cons action rest ih =>
    cases action <;> simp only [List.cons_append, Nests, List.foldl_cons, openAfter, ih, and_assoc]

theorem Stacked.exists_below {lock : Lock} (stacked : Stacked mayEnter opened) (member : lock ∈ opened) :
    ∃ below, mayEnter below lock = true ∧ below ⊆ opened := by
  induction opened with
  | nil => cases member
  | cons latest below ih =>
    obtain ⟨entered, stacked⟩ := stacked
    rcases List.mem_cons.mp member with rfl | member
    · exact ⟨below, entered, List.subset_cons_self _ _⟩
    · obtain ⟨deeper, entered, subset⟩ := ih stacked member
      exact ⟨deeper, entered, List.subset_cons_of_subset _ subset⟩

namespace LockProgram

/-- A check of the text: blocks are entered where they may be, and code that may call back is
called outside all of them. -/
def nests (mayEnter : List Lock → Lock → Bool) (opened : List Lock) : LockProgram Lock → Bool
  | .skip | .panic => true
  | .native | .user | .anyCall | .anyCallback => opened.isEmpty
  | .seq first second | .choice first second => first.nests mayEnter opened && second.nests mayEnter opened
  | .loop body => body.nests mayEnter opened
  | .locked lock body => mayEnter opened lock && body.nests mayEnter (lock :: opened)
  | .deferring cleanup body => cleanup.nests mayEnter opened && body.nests mayEnter opened

/-- A trace that nests, and leaves the blocks that it enters unless it is cut off. -/
structure Nested (mayEnter : List Lock → Lock → Bool) (opened : List Lock) (trace : List (LockAction Lock))
    (outcome : Outcome) : Prop where
  nests : Nests mayEnter opened trace
  back : outcome ≠ .unfinished → trace.foldl openAfter opened = opened

theorem nested_nil (outcome : Outcome) : Nested mayEnter opened [] outcome := ⟨trivial, fun _ => rfl⟩

theorem Nested.append {outcome later final : Outcome} (first : Nested mayEnter opened before outcome)
    (finished : outcome ≠ .unfinished) (second : Nested mayEnter opened after later)
    (ends : final ≠ .unfinished → later ≠ .unfinished) : Nested mayEnter opened (before ++ after) final := by
  have back := first.back finished
  constructor
  · rw [nests_append, back]
    exact ⟨first.nests, second.nests⟩
  · intro done
    rw [List.foldl_append, back]
    exact second.back (ends done)

theorem Nested.locked {lock : Lock} {outcome : Outcome} (entered : mayEnter opened lock = true)
    (inside : Nested mayEnter (lock :: opened) trace outcome) (finished : outcome ≠ .unfinished) :
    Nested mayEnter opened (.acquire lock :: (trace ++ [.release lock])) outcome := by
  have back : trace.foldl openAfter (lock :: opened) = lock :: opened := inside.back finished
  constructor
  · refine ⟨entered, ?_⟩
    rw [nests_append, back]
    exact ⟨inside.nests, rfl, trivial⟩
  · intro _
    change (trace ++ [LockAction.release lock]).foldl openAfter (lock :: opened) = opened
    rw [List.foldl_append, back]
    rfl

theorem Nested.outside {action : LockAction Lock} {outcome : Outcome} (called : action = .native ∨ action = .user)
    (inside : Nested mayEnter opened trace outcome) : Nested mayEnter opened (action :: trace) outcome := by
  rcases called with rfl | rfl <;> exact ⟨inside.nests, inside.back⟩

variable {library : LockLibrary Lock} {program : LockProgram Lock} {outcome : Outcome}

/-- Where the text of every function and callback nests, so does every execution. -/
theorem nested_of_exec (calls : ∀ call, (library.call call).nests mayEnter [] = true)
    (callbacks : ∀ callback, (library.callback callback).nests mayEnter [] = true)
    (exec : Exec library program trace outcome) (fine : program.nests mayEnter opened = true) :
    Nested mayEnter opened trace outcome := by
  induction exec generalizing opened with
  | stop | skip | panic | loopEnds => exact nested_nil _
  | native _ ih => exact .outside (.inl rfl) (ih fine)
  | user _ ih => exact .outside (.inr rfl) (ih fine)
  | userPanics _ ih =>
    have inside := ih fine
    exact .outside (.inr rfl) ⟨inside.nests, fun _ => inside.back nofun⟩
  | seq _ _ ih ih' =>
    obtain ⟨first, second⟩ := Bool.and_eq_true_iff.mp fine
    exact (ih first).append nofun (ih' second) id
  | seqEnds _ _ ih => exact ih (Bool.and_eq_true_iff.mp fine).1
  | first _ ih => exact ih (Bool.and_eq_true_iff.mp fine).1
  | second _ ih => exact ih (Bool.and_eq_true_iff.mp fine).2
  | loop _ ih => exact ih (Bool.and_eq_true_iff.mpr ⟨fine, fine⟩)
  | locked _ finished ih =>
    obtain ⟨entered, inside⟩ := Bool.and_eq_true_iff.mp fine
    exact (ih inside).locked entered finished
  | lockedStops _ ih =>
    obtain ⟨entered, inside⟩ := Bool.and_eq_true_iff.mp fine
    exact ⟨⟨entered, (ih inside).nests⟩, fun done => absurd rfl done⟩
  | deferring _ finished _ ih ih' =>
    obtain ⟨cleanup, body⟩ := Bool.and_eq_true_iff.mp fine
    exact (ih body).append finished (ih' cleanup) Outcome.finished_of_then
  | deferringStops _ ih => exact ih (Bool.and_eq_true_iff.mp fine).2
  | @call call _ _ _ ih =>
    have outside : opened = [] := List.isEmpty_iff.mp fine
    exact outside ▸ ih (calls call)
  | @recover call _ _ ih =>
    have outside : opened = [] := List.isEmpty_iff.mp fine
    have inside : Nested mayEnter [] _ _ := ih (calls call)
    exact outside ▸ ⟨inside.nests, fun _ => inside.back nofun⟩
  | @callback callback _ _ _ ih =>
    have outside : opened = [] := List.isEmpty_iff.mp fine
    exact outside ▸ ih (callbacks callback)

end LockProgram

end nesting

section threads

variable {Request Thread : Type} [DecidableEq Request] [DecidableEq Thread] {locks : Locks Request}
  {state next : Thread → Progress Request} {thread : Thread} {mayEnter : List Request → Request → Bool}

def Exclusive (locks : Locks Request) (state : Thread → Progress Request) : Prop :=
  ∀ first second, first ≠ second → ∀ left ∈ (state first).held, ∀ right ∈ (state second).held, ¬ locks.excludes left right

/-- What a thread has open, and what is left of its trace, nest. -/
structure Progress.Orderly (mayEnter : List Request → Request → Bool) (progress : Progress Request) : Prop where
  stacked : Stacked mayEnter progress.held
  nests : Nests mayEnter progress.held progress.rest

theorem Moves.exclusive (moves : Moves locks state thread next)
    (symmetric : ∀ {left right}, locks.excludes left right → locks.excludes right left)
    (exclusive : Exclusive locks state) : Exclusive locks next := by
  have kept {progress : Progress Request}
      (fine : ∀ other ≠ thread, ∀ left ∈ progress.held, ∀ right ∈ (state other).held, ¬ locks.excludes left right) :
      Exclusive locks (Function.update state thread progress) := by
    intro first second apart left taken right taken'
    by_cases one : first = thread
    · have two : second ≠ thread := fun same => apart (one.trans same.symm)
      rw [one, Function.update_self] at taken
      rw [Function.update_of_ne two] at taken'
      exact fine second two left taken right taken'
    · rw [Function.update_of_ne one] at taken
      by_cases two : second = thread
      · rw [two, Function.update_self] at taken'
        exact fun excludes => fine first one right taken' left taken (symmetric excludes)
      · rw [Function.update_of_ne two] at taken'
        exact exclusive first second apart left taken right taken'
  have others : ∀ other ≠ thread, ∀ left ∈ (state thread).held, ∀ right ∈ (state other).held,
      ¬ locks.excludes left right := fun other differ => exclusive thread other differ.symm
  cases moves with
  | announce => exact kept others
  | acquire left announced free =>
    refine kept fun other differ taken member => ?_
    rcases List.mem_cons.mp member with rfl | member
    · exact free other differ
    · exact others other differ taken member
  | release => exact kept fun other differ taken member => others other differ taken (List.mem_of_mem_erase member)
  | outside => exact kept others

theorem Moves.orderly (moves : Moves locks state thread next)
    (orderly : ∀ thread, (state thread).Orderly mayEnter) (other : Thread) : (next other).Orderly mayEnter := by
  have kept {progress : Progress Request} (fine : progress.Orderly mayEnter) :
      (Function.update state thread progress other).Orderly mayEnter :=
    (Function.forall_update_iff state fun _ (own : Progress Request) => own.Orderly mayEnter).mpr
      ⟨fine, fun other _ => orderly other⟩ other
  obtain ⟨stacked, nests⟩ := orderly thread
  cases moves with
  | announce => exact kept ⟨stacked, nests⟩
  | acquire left =>
    rw [left] at nests
    exact kept ⟨⟨nests.1, stacked⟩, nests.2⟩
  | @release request rest left =>
    rw [left] at nests
    obtain ⟨latest, nests⟩ := nests
    obtain ⟨below, same⟩ := List.head?_eq_some_iff.mp latest
    rw [same] at stacked nests
    refine kept ?_
    rw [same, List.erase_cons_head]
    exact ⟨stacked.2, nests⟩
  | outside left called =>
    rw [left] at nests
    rcases called with rfl | rfl <;> exact kept ⟨stacked, nests⟩

theorem guarded_of_steps (symmetric : ∀ {left right}, locks.excludes left right → locks.excludes right left)
    {traces : Thread → List (LockAction Request)} (nests : ∀ thread, Nests mayEnter [] (traces thread))
    (steps : Relation.ReflTransGen (Steps locks) (fun thread => .start (traces thread)) state) :
    Exclusive locks state ∧ ∀ thread, (state thread).Orderly mayEnter := by
  induction steps with
  | refl => exact ⟨fun _ _ _ _ => nofun, fun thread => ⟨trivial, nests thread⟩⟩
  | tail _ step ih =>
    obtain ⟨thread, moves⟩ := step
    exact ⟨moves.exclusive symmetric ih.1, moves.orderly ih.2⟩

/-- Where every access is made under locks that keep away those it conflicts with, no two threads
are at accesses that conflict. -/
theorem conflict_free {conflicts : Request → Request → Prop}
    (symmetric : ∀ {left right}, locks.excludes left right → locks.excludes right left)
    (guarded : ∀ {left right below below'}, conflicts left right → mayEnter below left = true →
      mayEnter below' right = true → ∃ lock ∈ below, ∃ lock' ∈ below', locks.excludes lock lock')
    {traces : Thread → List (LockAction Request)} (nests : ∀ thread, Nests mayEnter [] (traces thread))
    (steps : Relation.ReflTransGen (Steps locks) (fun thread => .start (traces thread)) state)
    {first second : Thread} (apart : first ≠ second) {left right : Request} (taken : left ∈ (state first).held)
    (taken' : right ∈ (state second).held) : ¬ conflicts left right := by
  have sound := guarded_of_steps symmetric nests steps
  intro conflict
  obtain ⟨below, entered, subset⟩ := (sound.2 first).stacked.exists_below taken
  obtain ⟨below', entered', subset'⟩ := (sound.2 second).stacked.exists_below taken'
  obtain ⟨lock, held, lock', held', excludes⟩ := guarded conflict entered entered'
  exact sound.1 first second apart lock (subset held) lock' (subset' held') excludes

end threads

end Foundation
