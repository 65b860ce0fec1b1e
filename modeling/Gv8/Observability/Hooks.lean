import Gv8.Foundation.Pool
import Gv8.Foundation.Runs

/-! The counters and the hooks of an isolate, used by any goroutines at the same time.

Every operation here takes its steps at any time, between those of the others: a note adds to
its counter, then reads its hook under `obMu`, then calls what it has read; a snapshot loads one
counter after the other. The log tells the newest first. -/

set_option autoImplicit false

namespace Gv8.Hooks

open Foundation

/-- What is counted, in the order in which ObservabilitySnapshot loads the counters. -/
inductive Channel where
  | unhandledPromiseRejections
  | exceptions
  | moduleResolutionFailures
  deriving DecidableEq

def Channel.all : List Channel := [.unhandledPromiseRejections, .exceptions, .moduleResolutionFailures]

/-- An operation in progress. -/
inductive Task (Handler Note : Type) where
  /-- Counted; the hook is not read yet. -/
  | noting (channel : Channel) (note : Note)
  /-- This handler is about to be called. -/
  | handing (channel : Channel) (note : Note) (handler : Handler)
  | taking (snapshot : Channel → UInt64) (left : List Channel)

inductive Entry (Handler Note : Type) where
  | noted (id : Nat) (channel : Channel) (note : Note)
  | set (channel : Channel) (handler : Option Handler)
  | called (id : Nat) (handler : Handler) (note : Note)
  | passed (id : Nat)
  | began (id : Nat)
  | took (id : Nat) (snapshot : Channel → UInt64)

structure World (Handler Note : Type) where
  counts : Channel → UInt64
  hooks : Channel → Option Handler
  tasks : Pool (Task Handler Note)
  log : List (Entry Handler Note)

inductive Event (Handler Note : Type) where
  | note (channel : Channel) (note : Note)
  | read (id : Nat)
  | call (id : Nat)
  | setHandler (channel : Channel) (handler : Option Handler)
  | observabilitySnapshot
  | load (id : Nat)

namespace World

variable {Handler Note : Type}

def initial : World Handler Note := ⟨fun _ => 0, fun _ => none, .empty 0, []⟩

variable (world : World Handler Note)

def note (channel : Channel) (note : Note) : World Handler Note :=
  { world with
    counts := Function.update world.counts channel (world.counts channel + 1)
    tasks := world.tasks.alloc (.noting channel note)
    log := .noted world.tasks.next channel note :: world.log }

def read (id : Nat) (channel : Channel) (note : Note) : World Handler Note :=
  match world.hooks channel with
  | none => { world with tasks := world.tasks.free id, log := .passed id :: world.log }
  | some handler => { world with tasks := world.tasks.modify id fun _ => .handing channel note handler }

def call (id : Nat) (note : Note) (handler : Handler) : World Handler Note :=
  { world with tasks := world.tasks.free id, log := .called id handler note :: world.log }

def setHandler (channel : Channel) (handler : Option Handler) : World Handler Note :=
  { world with hooks := Function.update world.hooks channel handler, log := .set channel handler :: world.log }

def observabilitySnapshot : World Handler Note :=
  { world with
    tasks := world.tasks.alloc (.taking (fun _ => 0) Channel.all)
    log := .began world.tasks.next :: world.log }

def load (id : Nat) (snapshot : Channel → UInt64) : List Channel → World Handler Note
  | [] => { world with tasks := world.tasks.free id, log := .took id snapshot :: world.log }
  | channel :: left =>
    let loaded := Function.update snapshot channel (world.counts channel)
    { world with tasks := world.tasks.modify id fun _ => .taking loaded left }

def step : Event Handler Note → Option (World Handler Note)
  | .note channel note => some (world.note channel note)
  | .read id =>
    match world.tasks.get id with
    | some (.noting channel note) => some (world.read id channel note)
    | _ => none
  | .call id =>
    match world.tasks.get id with
    | some (.handing _ note handler) => some (world.call id note handler)
    | _ => none
  | .setHandler channel handler => some (world.setHandler channel handler)
  | .observabilitySnapshot => some world.observabilitySnapshot
  | .load id =>
    match world.tasks.get id with
    | some (.taking snapshot left) => some (world.load id snapshot left)
    | _ => none

end World

section history

variable {Handler Note : Type}

def notedIn (channel : Channel) : List (Entry Handler Note) → Nat
  | [] => 0
  | .noted _ other _ :: log => notedIn channel log + if other = channel then 1 else 0
  | _ :: log => notedIn channel log

def hookIn (channel : Channel) : List (Entry Handler Note) → Option Handler
  | [] => none
  | .set other handler :: log => if other = channel then handler else hookIn channel log
  | _ :: log => hookIn channel log

/-- It was so at some moment. -/
def Once (P : List (Entry Handler Note) → Prop) (log : List (Entry Handler Note)) : Prop :=
  ∃ since before, log = since ++ before ∧ P before

/-- What is called was set at a moment after the note; a snapshot has of every counter what it
was at a moment after the snapshot was begun. -/
def Entry.Justified (before : List (Entry Handler Note)) : Entry Handler Note → Prop
  | .called id handler note => ∃ channel, Once (fun log => .noted id channel note ∈ log ∧ hookIn channel log = some handler) before
  | .passed id => ∃ channel note, Once (fun log => .noted id channel note ∈ log ∧ hookIn channel log = none) before
  | .took id snapshot => ∀ channel, Once (fun log => .began id ∈ log ∧ snapshot channel = .ofNat (notedIn channel log)) before
  | .noted _ _ _ | .set _ _ | .began _ => True

def Justified : List (Entry Handler Note) → Prop
  | [] => True
  | entry :: before => entry.Justified before ∧ Justified before

def Entry.settled : Entry Handler Note → Option Nat
  | .called id _ _ | .passed id => some id
  | .noted _ _ _ | .set _ _ | .began _ | .took _ _ => none

def settledIn (log : List (Entry Handler Note)) : List Nat := log.filterMap Entry.settled

/-- The note that is on its way. -/
def Task.Open : Task Handler Note → Prop
  | .noting _ _ | .handing _ _ _ => True
  | .taking _ _ => False

def Task.Sound (id : Nat) (log : List (Entry Handler Note)) : Task Handler Note → Prop
  | .noting channel note => .noted id channel note ∈ log
  | .handing channel note handler => Once (fun log => .noted id channel note ∈ log ∧ hookIn channel log = some handler) log
  | .taking snapshot left => .began id ∈ log ∧
      ∀ channel ∉ left, Once (fun log => .began id ∈ log ∧ snapshot channel = .ofNat (notedIn channel log)) log

structure World.Sound (world : World Handler Note) : Prop where
  counts : ∀ channel, world.counts channel = .ofNat (notedIn channel world.log)
  hooks : ∀ channel, world.hooks channel = hookIn channel world.log
  justified : Justified world.log
  tasks : ∀ id task, world.tasks.get id = some task → task.Sound id world.log
  all : ∀ id channel note, .noted id channel note ∈ world.log →
    (∃ task, world.tasks.get id = some task ∧ task.Open) ∨ id ∈ settledIn world.log
  once : (settledIn world.log).Nodup
  given : ∀ id ∈ settledIn world.log, id < world.tasks.next ∧ world.tasks.get id = none

variable {P : List (Entry Handler Note) → Prop} {log : List (Entry Handler Note)} {world next : World Handler Note}

theorem Once.now (holds : P log) : Once P log := ⟨[], log, rfl, holds⟩

theorem Once.later (once : Once P log) (entry : Entry Handler Note) : Once P (entry :: log) := by
  obtain ⟨since, before, rfl, holds⟩ := once
  exact ⟨entry :: since, before, rfl, holds⟩

theorem Task.Sound.later {id : Nat} {task : Task Handler Note} (sound : task.Sound id log) (entry : Entry Handler Note) :
    task.Sound id (entry :: log) := by
  cases task with
  | noting channel note => exact .tail _ sound
  | handing channel note handler => exact Once.later sound entry
  | taking snapshot left => exact ⟨.tail _ sound.1, fun channel loaded => (sound.2 channel loaded).later entry⟩

theorem initial_sound : (World.initial : World Handler Note).Sound where
  counts _ := rfl
  hooks _ := rfl
  justified := trivial
  tasks _ _ found := by cases found
  all _ _ _ member := by cases member
  once := List.nodup_nil
  given _ member := by cases member

theorem notedIn_cons (entry : Entry Handler Note) (other : ∀ id channel note, entry ≠ .noted id channel note) (channel : Channel) :
    notedIn channel (entry :: log) = notedIn channel log := by
  cases entry with
  | noted id channel note => exact absurd rfl (other id channel note)
  | set | called | passed | began | took => rfl

theorem hookIn_cons (entry : Entry Handler Note) (other : ∀ channel handler, entry ≠ .set channel handler) (channel : Channel) :
    hookIn channel (entry :: log) = hookIn channel log := by
  cases entry with
  | set channel handler => exact absurd rfl (other channel handler)
  | noted | called | passed | began | took => rfl

theorem settledIn_cons (entry : Entry Handler Note) (log : List (Entry Handler Note)) :
    settledIn (entry :: log) = entry.settled.toList ++ settledIn log := by
  unfold settledIn
  rw [List.filterMap_cons]
  cases entry.settled <;> rfl

theorem World.Sound.all_alloc (sound : world.Sound) (task : Task Handler Note) {id : Nat} {channel : Channel} {note : Note}
    (member : .noted id channel note ∈ world.log) :
    (∃ older, (world.tasks.alloc task).get id = some older ∧ older.Open) ∨ id ∈ settledIn world.log := by
  rcases sound.all id channel note member with ⟨older, found, isOpen⟩ | settled
  · exact .inl ⟨older, Pool.get_alloc_of_get _ task found, isOpen⟩
  · exact .inr settled

theorem World.Sound.given_alloc (sound : world.Sound) (task : Task Handler Note) {id : Nat}
    (settled : id ∈ settledIn world.log) :
    id < (world.tasks.alloc task).next ∧ (world.tasks.alloc task).get id = none := by
  obtain ⟨early, gone⟩ := sound.given id settled
  refine ⟨Nat.lt_succ_of_lt early, ?_⟩
  rw [Pool.get_alloc, if_neg (by omega)]
  exact gone

theorem World.Sound.note (sound : world.Sound) (channel : Channel) (note : Note) : (world.note channel note).Sound where
  counts other := by
    by_cases same : other = channel
    · subst same
      simp [World.note, notedIn, sound.counts, UInt64.ofNat_add]
    · simp [World.note, notedIn, sound.counts, same, Ne.symm same]
  hooks := sound.hooks
  justified := ⟨trivial, sound.justified⟩
  tasks id task found := by
    rw [World.note, Pool.get_alloc] at found
    split at found
    · rename_i new
      cases found
      subst new
      exact .head _
    · exact (sound.tasks id task found).later _
  all id other note' member := by
    rcases List.mem_cons.mp member with new | old
    · cases new
      exact .inl ⟨_, Pool.get_alloc_next _ _, trivial⟩
    · exact sound.all_alloc _ old
  once := sound.once
  given _ settled := sound.given_alloc _ settled

theorem World.Sound.observabilitySnapshot (sound : world.Sound) : world.observabilitySnapshot.Sound where
  counts := sound.counts
  hooks := sound.hooks
  justified := ⟨trivial, sound.justified⟩
  tasks id task found := by
    rw [World.observabilitySnapshot, Pool.get_alloc] at found
    split at found
    · rename_i new
      cases found
      subst new
      exact ⟨.head _, fun channel missing => by cases channel <;> simp [Channel.all] at missing⟩
    · exact (sound.tasks id task found).later _
  all id channel note member := by
    rcases List.mem_cons.mp member with new | old
    · cases new
    · exact sound.all_alloc _ old
  once := sound.once
  given _ settled := sound.given_alloc _ settled

theorem World.Sound.setHandler (sound : world.Sound) (channel : Channel) (handler : Option Handler) :
    (world.setHandler channel handler).Sound where
  counts := sound.counts
  hooks other := by
    by_cases same : other = channel
    · subst same
      simp [World.setHandler, hookIn]
    · simp [World.setHandler, hookIn, sound.hooks, same, Ne.symm same]
  justified := ⟨trivial, sound.justified⟩
  tasks id task found := (sound.tasks id task found).later _
  all id other note member := by
    rcases List.mem_cons.mp member with new | old
    · cases new
    · exact sound.all id other note old
  once := sound.once
  given := sound.given

theorem World.Sound.finish (sound : world.Sound) {id : Nat} {task : Task Handler Note} {entry : Entry Handler Note}
    (found : world.tasks.get id = some task) (counted : ∀ id channel note, entry ≠ .noted id channel note)
    (hooked : ∀ channel handler, entry ≠ .set channel handler) (justified : entry.Justified world.log)
    (settles : task.Open → entry.settled = some id) (only : ∀ other, entry.settled = some other → other = id) :
    World.Sound { world with tasks := world.tasks.free id, log := entry :: world.log } where
  counts channel := (sound.counts channel).trans (congrArg _ (notedIn_cons entry counted channel).symm)
  hooks channel := (sound.hooks channel).trans (hookIn_cons entry hooked channel).symm
  justified := ⟨justified, sound.justified⟩
  tasks other task there := by
    rw [Pool.get_free] at there
    split at there
    · cases there
    · exact (sound.tasks other task there).later _
  all other channel note member := by
    have old := (List.mem_cons.mp member).resolve_left (counted other channel note).symm
    rw [settledIn_cons, List.mem_append]
    rcases sound.all other channel note old with ⟨older, there, isOpen⟩ | settled
    · by_cases same : other = id
      · rw [same, found] at there
        cases there
        rw [same, settles isOpen]
        exact .inr (.inl (.head _))
      · exact .inl ⟨older, (Pool.get_free_of_ne _ same).trans there, isOpen⟩
    · exact .inr (.inr settled)
  once := by
    rw [settledIn_cons]
    cases same : entry.settled with
    | none => exact sound.once
    | some other =>
      refine List.nodup_cons.mpr ⟨fun member => ?_, sound.once⟩
      have gone := (sound.given other member).2
      rw [only other same, found] at gone
      cases gone
  given other settled := by
    rw [settledIn_cons, List.mem_append, Option.mem_toList] at settled
    rcases settled with new | old
    · rw [only other new]
      exact ⟨Pool.lt_next_of_get world.tasks found, Pool.get_free_self _ _⟩
    · refine ⟨(sound.given other old).1, ?_⟩
      rw [Pool.get_free]
      split
      · rfl
      · exact (sound.given other old).2

theorem World.Sound.goOn (sound : world.Sound) {id : Nat} {task later : Task Handler Note}
    (found : world.tasks.get id = some task) (stays : task.Open → later.Open) (fine : later.Sound id world.log) :
    World.Sound { world with tasks := world.tasks.modify id fun _ => later } where
  counts := sound.counts
  hooks := sound.hooks
  justified := sound.justified
  tasks other task there := by
    by_cases same : other = id
    · subst same
      rw [Pool.get_modify_self, found] at there
      cases there
      exact fine
    · rw [Pool.get_modify_of_ne _ same] at there
      exact sound.tasks other task there
  all other channel note member := by
    rcases sound.all other channel note member with ⟨task', found', isOpen⟩ | settled
    · by_cases same : other = id
      · subst same
        rw [found] at found'
        cases found'
        exact .inl ⟨later, by rw [Pool.get_modify_self, found]; rfl, stays isOpen⟩
      · exact .inl ⟨task', (Pool.get_modify_of_ne _ same _).trans found', isOpen⟩
    · exact .inr settled
  once := sound.once
  given other settled := by
    obtain ⟨early, gone⟩ := sound.given other settled
    have differ : other ≠ id := by
      rintro rfl
      rw [found] at gone
      cases gone
    exact ⟨early, (Pool.get_modify_of_ne _ differ _).trans gone⟩

theorem World.Sound.step (sound : world.Sound) {event : Event Handler Note} (taken : world.step event = some next) :
    next.Sound := by
  cases event with
  | note channel note =>
    cases taken
    exact sound.note channel note
  | setHandler channel handler =>
    cases taken
    exact sound.setHandler channel handler
  | observabilitySnapshot =>
    cases taken
    exact sound.observabilitySnapshot
  | read id =>
    simp only [World.step] at taken
    split at taken
    · rename_i channel note found
      cases taken
      have noted := sound.tasks id _ found
      unfold World.read
      split
      · rename_i none
        rw [sound.hooks] at none
        exact sound.finish found nofun nofun ⟨channel, note, .now ⟨noted, none⟩⟩ (fun _ => rfl) fun other same => by cases same; rfl
      · rename_i handler some
        rw [sound.hooks] at some
        exact sound.goOn found (fun _ => trivial) (.now ⟨noted, some⟩)
    · cases taken
  | call id =>
    simp only [World.step] at taken
    split at taken
    · rename_i channel note handler found
      cases taken
      exact sound.finish found nofun nofun ⟨channel, sound.tasks id _ found⟩ (fun _ => rfl) fun other same => by cases same; rfl
    · cases taken
  | load id =>
    simp only [World.step] at taken
    split at taken
    · rename_i snapshot left found
      cases taken
      obtain ⟨began, loaded⟩ := sound.tasks id _ found
      cases left with
      | nil => exact sound.finish found nofun nofun (fun channel => loaded channel List.not_mem_nil) nofun nofun
      | cons channel left =>
        refine sound.goOn found (fun isOpen => isOpen) ⟨began, fun other missing => ?_⟩
        by_cases same : other = channel
        · subst same
          rw [Function.update_self, sound.counts]
          exact .now ⟨began, rfl⟩
        · rw [Function.update_of_ne same]
          exact loaded other (by simp [same, missing])
    · cases taken

/-- Whatever is interleaved: the counters count every note, each note is handed once to the
handler of a moment since it was made, or to none where none was set at one, and a snapshot has of
each counter what it was at a moment since it was begun. -/
theorem hooks_linear {events : List (Event Handler Note)} (run : Run World.step (fun _ _ => True) World.initial events world) :
    (∀ channel, world.counts channel = .ofNat (notedIn channel world.log)) ∧
      Justified world.log ∧ (settledIn world.log).Nodup ∧
      ∀ id channel note, .noted id channel note ∈ world.log →
        (id ∉ settledIn world.log ↔ ∃ task, world.tasks.get id = some task ∧ task.Open) := by
  have sound : world.Sound := run.invariant (fun _ _ _ sound _ taken => sound.step taken) initial_sound
  refine ⟨sound.counts, sound.justified, sound.once, fun id channel note member => ⟨fun unsettled => ?_, ?_⟩⟩
  · exact (sound.all id channel note member).resolve_right unsettled
  · rintro ⟨task, found, _⟩ settled
    have gone := (sound.given id settled).2
    rw [found] at gone
    cases gone

/-- The handler is replaced after it was read, and is called all the same. -/
theorem hooks_linear_replaced : ∃ world : World Nat Nat, Run World.step (fun _ _ => True) World.initial
    [.setHandler .exceptions (some 7), .note .exceptions 5, .read 0, .setHandler .exceptions none, .call 0,
      .observabilitySnapshot, .note .exceptions 6, .load 1, .load 1, .load 1, .load 1] world ∧
    world.log.length = 7 ∧ notedIn .exceptions world.log = 2 ∧ world.counts .exceptions = 2 ∧ Justified world.log := by
  obtain ⟨world, run, length, noted⟩ := Run.exists_of_execute
    (fun world : World Nat Nat => world.log.length = 7 ∧ notedIn .exceptions world.log = 2)
    (Admitted.free World.step World.initial [.setHandler .exceptions (some 7), .note .exceptions 5, .read 0,
      .setHandler .exceptions none, .call 0, .observabilitySnapshot, .note .exceptions 6, .load 1, .load 1, .load 1, .load 1])
    (by decide)
  obtain ⟨counts, justified, _⟩ := hooks_linear run
  exact ⟨world, run, length, noted, (counts .exceptions).trans (by rw [noted]; rfl), justified⟩

end history

end Gv8.Hooks
