import Gv8.Foundation.Runs
import Gv8.Snapshots.Data

/-! Snapshot builders, and the isolates that start from their snapshots.

A builder, an isolate or a context whose Go pointer is nil again has left its pool. The log
tells the newest first. The strings that RunScript hands to C are those of any other operation
and are not kept here, and no context has values. A call that ends the process is no step, nor
is one that hands V8 an isolate that has been disposed. -/

set_option autoImplicit false

namespace Gv8.Snapshots

open Foundation
open Operations (GoError invalidSnapshotBuilderError newJSError rtnError)

variable {Heap : Type}

structure Builder (Heap : Type) where
  blocks : BuilderBlocks
  heap : Heap
  ctx : Bool
  built : Bool
  defaultContext : Bool
  created : Bool

inductive Call where
  | runScript (source resourceName : Bytes)
  | build
  deriving DecidableEq

instance exceptDecidableEq {Error Value : Type} [DecidableEq Error] [DecidableEq Value] : DecidableEq (Except Error Value)
  | .error first, .error second => decidable_of_iff (first = second) (by simp)
  | .ok first, .ok second => decidable_of_iff (first = second) (by simp)
  | .error _, .ok _ => isFalse nofun
  | .ok _, .error _ => isFalse nofun

inductive Answer where
  | ran (err : Option GoError)
  | built (result : Except GoError Bytes)
  deriving DecidableEq

inductive Entry (Heap : Type) where
  | builder (name : Nat) (call : Call) (answer : Answer)
  | isolate (name : Nat) (startup : Option Bytes)
  | refused (snapshot : Bytes)
  | context (isolate : Nat) (heap : Heap)
  deriving DecidableEq

structure Open where
  iso : Nat
  ctx : Nat

structure World (Heap : Type) where
  memory : Memory
  builders : Pool (Builder Heap)
  isolates : Pool Made
  contexts : Pool Open
  log : List (Entry Heap)
  /-- A creator was used against its documentation, or an empty handle. -/
  misused : Bool

inductive Event where
  | newSnapshotBuilder
  | call (builder : Nat) (call : Call)
  | releaseBuilder (builder : Nat)
  | newIsolate (options : Options) (made : Bool)
  | newContext (isolate : Nat)
  | closeContext (context : Nat)
  | compile (isolate : Nat)
  | dispose (isolate : Nat)

def Call.failed : Call → GoError → Answer
  | .runScript _ _, err => .ran (some err)
  | .build, err => .built (.error err)

namespace World

def initial : World Heap := ⟨⟨.empty 0, 0⟩, .empty 0, .empty 0, .empty 0, [], false⟩

variable (engine : Engine Heap) (world : World Heap)

def look (block : Nat) : World Heap := { world with memory := (world.memory.read block).2 }

def newSnapshotBuilder : Option (World Heap) :=
  match Snapshots.newSnapshotBuilder world.memory with
  | (none, _) => none
  | (some blocks, memory) => some { world with
      memory, builders := world.builders.alloc ⟨blocks, engine.fresh, true, false, false, false⟩ }

/-- Release does nothing the second time. -/
def releaseBuilder (name : Nat) : World Heap :=
  match world.builders.get name with
  | none => world
  | some builder => { world with
      memory := (snapshotBuilderRelease builder.blocks world.memory).2
      builders := world.builders.free name }

def runScript (name : Nat) (builder : Builder Heap) (source resourceName : Bytes) : Option (World Heap) :=
  (snapshotBuilderRunScript engine.decoder source resourceName).map fun script =>
    let (result, heap) := engine.run builder.heap script
    { world with
      builders := world.builders.modify name fun builder => { builder with heap }
      log := .builder name (.runScript source resourceName) (.ran (newJSError (rtnError result))) :: world.log
      misused := world.misused || !builder.ctx }

/-- The same of GV8SnapshotBuilderBuild: the default context is set, the handle is reset, and
the blob is created. -/
def build (name : Nat) (builder : Builder Heap) : Option (World Heap) :=
  match Snapshots.build engine.isValid (engine.createBlob builder.heap) world.memory with
  | (none, _) => none
  | (some answer, memory) => some { world with
      memory
      builders := world.builders.modify name fun builder => { builder with
        ctx := false, built := true, defaultContext := true, created := true }
      log := .builder name .build (.built (answer.mapError .js)) :: world.log
      misused := world.misused || !builder.ctx || builder.defaultContext || builder.created }

/-- A native function refuses the builder; its error is placed and converted. -/
def refuse (name : Nat) (call : Call) : Option (World Heap) :=
  match (Buffers.place (refusal "gv8: snapshot builder is no longer valid") >>= Buffers.newJSError) world.memory with
  | (some (some err), memory) => some { world with
      memory, log := .builder name call (call.failed (.js err)) :: world.log }
  | _ => none

def call (name : Nat) (call : Call) : Option (World Heap) :=
  if world.builders.next ≤ name then none
  else match world.builders.get name with
  | none => some { world with log := .builder name call (call.failed invalidSnapshotBuilderError) :: world.log }
  | some builder =>
    let world := world.look builder.blocks.builder
    if builder.built then world.refuse name call
    else match call with
      | .runScript source resourceName => world.runScript engine name builder source resourceName
      | .build => world.build engine name builder

def newIsolate (options : Options) (made : Bool) : Option (World Heap) :=
  match newIsolateWithOptions engine.isValid options made world.memory with
  | (none, _) => none
  | (some none, memory) => some { world with memory, log := .refused options.snapshot :: world.log }
  | (some (some iso), memory) => some { world with
      memory
      isolates := world.isolates.alloc iso
      log := .isolate world.isolates.next ((loaded engine.isValid options.snapshot made).getD none) :: world.log }

def contextNew (name : Nat) (iso : Made) : Option (World Heap) :=
  match readStartup iso.startup world.memory with
  | (none, _) => none
  | (some startup, memory) => some { world with
      memory, log := .context name (startup.elim engine.plain engine.restore) :: world.log }

def newContext (name : Nat) (iso : Made) : Option (World Heap) :=
  (world.contextNew engine name iso).bind fun world =>
    match newCtx world.memory with
    | (none, _) => none
    | (some ctx, memory) => some { world with memory, contexts := world.contexts.alloc ⟨name, ctx⟩ }

/-- Close does nothing the second time. -/
def closeContext (name : Nat) : Option (World Heap) :=
  match world.contexts.get name with
  | none => some world
  | some context => (world.isolates.get context.iso).map fun _ => { world with
      memory := (contextDispose context.ctx world.memory).2
      contexts := world.contexts.free name }

/-- CompileModule and CompileUnboundScript, as far as InternalCompileContext. -/
def compile (name : Nat) (iso : Made) : Option (World Heap) :=
  let world := world.look iso.ctx
  if iso.internal then some world
  else (world.contextNew engine name iso).map fun world =>
    { world with isolates := world.isolates.modify name fun iso => { iso with internal := true } }

def dispose (name : Nat) (iso : Made) : World Heap :=
  { world with
    memory := (isolateDispose iso world.memory).2
    isolates := world.isolates.free name }

def step (event : Event) : Option (World Heap) :=
  match event with
  | .newSnapshotBuilder => world.newSnapshotBuilder engine
  | .call name call => world.call engine name call
  | .releaseBuilder name => some (world.releaseBuilder name)
  | .newIsolate options made => world.newIsolate engine options made
  | .newContext name => (world.isolates.get name).bind (world.newContext engine name)
  | .closeContext name => world.closeContext name
  -- On an isolate that has been disposed it returns an error, and Dispose does nothing.
  | .compile name =>
    match world.isolates.get name with
    | none => some world
    | some iso => world.compile engine name iso
  | .dispose name =>
    match world.isolates.get name with
    | none => some world
    | some iso => some (world.dispose name iso)

/-- What the steps can do. -/
inductive Moves : Event → World Heap → Prop where
  | newSnapshotBuilder {memory : Memory} {blocks : BuilderBlocks} :
      Snapshots.newSnapshotBuilder world.memory = (some blocks, memory) →
      Moves .newSnapshotBuilder { world with
        memory, builders := world.builders.alloc ⟨blocks, engine.fresh, true, false, false, false⟩ }
  | refuseReleased {name : Nat} {call : Call} : name < world.builders.next → world.builders.get name = none →
      Moves (.call name call) { world with
        log := .builder name call (call.failed invalidSnapshotBuilderError) :: world.log }
  | refuse {name : Nat} {call : Call} {builder : Builder Heap} {memory : Memory} :
      world.builders.get name = some builder → builder.built = true →
      (world.look builder.blocks.builder).memory.Leaves memory [] → Moves (.call name call) { world with
        memory, log := .builder name call (call.failed invalidSnapshotBuilderError) :: world.log }
  | runScript {name : Nat} {builder : Builder Heap} {source resourceName : Bytes} {script : Script} :
      world.builders.get name = some builder → builder.built = false →
      snapshotBuilderRunScript engine.decoder source resourceName = some script →
      Moves (.call name (.runScript source resourceName)) { world.look builder.blocks.builder with
        builders := world.builders.modify name fun object => { object with heap := (engine.run builder.heap script).2 }
        log := .builder name (.runScript source resourceName)
          (.ran (newJSError (rtnError (engine.run builder.heap script).1))) :: world.log
        misused := world.misused || !builder.ctx }
  | build {name : Nat} {builder : Builder Heap} {memory : Memory} :
      world.builders.get name = some builder → builder.built = false →
      (world.look builder.blocks.builder).memory.Leaves memory [] →
      Moves (.call name .build) { world with
        memory
        builders := world.builders.modify name fun object =>
          { object with ctx := false, built := true, defaultContext := true, created := true }
        log := .builder name .build
          (.built ((buildAnswer engine.isValid (engine.createBlob builder.heap)).mapError .js)) :: world.log
        misused := world.misused || !builder.ctx || builder.defaultContext || builder.created }
  | releaseBuilder {name : Nat} {builder : Builder Heap} : world.builders.get name = some builder →
      Moves (.releaseBuilder name) { world with
        memory := (snapshotBuilderRelease builder.blocks world.memory).2
        builders := world.builders.free name }
  | releasedBuilder {name : Nat} : Moves (.releaseBuilder name) world
  | refuseIsolate {options : Options} {made : Bool} {memory : Memory} :
      loaded engine.isValid options.snapshot made = none → world.memory.Leaves memory [] →
      Moves (.newIsolate options made) { world with memory, log := .refused options.snapshot :: world.log }
  | newIsolate {options : Options} {made : Bool} {memory : Memory} {iso : Made} {startup : Option Bytes} :
      loaded engine.isValid options.snapshot made = some startup →
      world.memory.Leaves memory iso.blocks → iso.blocks.Nodup → Startup.Holds memory iso.startup startup →
      Moves (.newIsolate options made) { world with
        memory
        isolates := world.isolates.alloc iso
        log := .isolate world.isolates.next startup :: world.log }
  | newContext {name : Nat} {iso : Made} {memory after : Memory} {startup : Option Bytes} {ctx : Nat} :
      world.isolates.get name = some iso → readStartup iso.startup world.memory = (some startup, memory) →
      newCtx memory = (some ctx, after) →
      Moves (.newContext name) { world with
        memory := after
        contexts := world.contexts.alloc ⟨name, ctx⟩
        log := .context name (startup.elim engine.plain engine.restore) :: world.log }
  | closeContext {name : Nat} {context : Open} : world.contexts.get name = some context →
      Moves (.closeContext name) { world with
        memory := (contextDispose context.ctx world.memory).2
        contexts := world.contexts.free name }
  | closedContext {name : Nat} : Moves (.closeContext name) world
  | compile {name : Nat} {iso : Made} {memory : Memory} {startup : Option Bytes} :
      world.isolates.get name = some iso →
      readStartup iso.startup (world.look iso.ctx).memory = (some startup, memory) →
      Moves (.compile name) { world with
        memory
        isolates := world.isolates.modify name fun object => { object with internal := true }
        log := .context name (startup.elim engine.plain engine.restore) :: world.log }
  | compiled {name : Nat} {iso : Made} : world.isolates.get name = some iso → Moves (.compile name) (world.look iso.ctx)
  | disposed {name : Nat} {event : Event} : event = .compile name ∨ event = .dispose name → Moves event world
  | dispose {name : Nat} {iso : Made} : world.isolates.get name = some iso →
      Moves (.dispose name) (world.dispose name iso)

variable {engine} {world} {next : World Heap} {event : Event}

theorem refused_invalid : refused "gv8: snapshot builder is no longer valid" =
    ⟨Operations.bytesOf "gv8: snapshot builder is no longer valid", [], []⟩ := by
  decide +kernel

theorem moves_refuse {name : Nat} {call : Call} {builder : Builder Heap}
    (found : world.builders.get name = some builder) (built : builder.built = true)
    (taken : (world.look builder.blocks.builder).refuse name call = some next) :
    Moves engine world (.call name call) next := by
  obtain ⟨after, returns, leaves⟩ := newJSError_refusal (world.look builder.blocks.builder).memory
    "gv8: snapshot builder is no longer valid"
  rw [refused_invalid] at returns
  unfold refuse at taken
  rw [returns] at taken
  cases taken
  exact .refuse found built leaves

theorem moves_build (documented : engine.Documented) {name : Nat} {builder : Builder Heap}
    (found : world.builders.get name = some builder) (collecting : builder.built = false)
    (taken : (world.look builder.blocks.builder).build engine name builder = some next) :
    Moves engine world (.call name .build) next := by
  have whole : ∀ data ∈ (engine.createBlob builder.heap).data,
      (engine.createBlob builder.heap).rawSize = data.length ∧ 0 < data.length := by
    intro data same
    rcases documented.blob builder.heap with none | ⟨blob, some, positive, _⟩
    · rw [none] at same
      cases same
    · rw [some] at same ⊢
      cases same
      exact ⟨rfl, positive⟩
  obtain ⟨after, returns, leaves⟩ := build_eq engine.isValid (world.look builder.blocks.builder).memory whole
  unfold build at taken
  rw [returns] at taken
  cases taken
  exact .build found collecting leaves

theorem moves_call (documented : engine.Documented) {name : Nat} {call : Call}
    (taken : world.call engine name call = some next) : Moves engine world (.call name call) next := by
  unfold World.call at taken
  by_cases given : world.builders.next ≤ name
  · rw [if_pos given] at taken
    cases taken
  rw [if_neg given] at taken
  cases found : world.builders.get name with
  | none =>
    rw [found] at taken
    cases taken
    exact .refuseReleased (by omega) found
  | some builder =>
    rw [found] at taken
    simp only at taken
    by_cases ended : builder.built = true
    · rw [if_pos ended] at taken
      exact moves_refuse found ended taken
    · rw [if_neg ended] at taken
      rw [Bool.not_eq_true] at ended
      cases call with
      | build => exact moves_build documented found ended taken
      | runScript source resourceName =>
        obtain ⟨script, read, rfl⟩ := Option.map_eq_some_iff.mp taken
        exact .runScript found ended read

theorem moves_newIsolate {options : Options} {made : Bool} (taken : world.newIsolate engine options made = some next) :
    Moves engine world (.newIsolate options made) next := by
  unfold newIsolate at taken
  by_cases goes : options.snapshot ≠ [] ∨ made = true
  · have loads := newIsolateWithOptions_loads engine.isValid options goes
    cases content : loaded engine.isValid options.snapshot made with
    | none =>
      obtain ⟨after, returns, leaves⟩ := loads.nothing content world.memory
      rw [returns] at taken
      cases taken
      exact .refuseIsolate content leaves
    | some startup =>
      obtain ⟨iso, after, returns, leaves, once, holds⟩ := loads.something startup content world.memory
      rw [returns, content] at taken
      cases taken
      exact .newIsolate content leaves once holds
  · obtain ⟨empty, unmade⟩ := not_or.mp goes
    rw [not_not] at empty
    rw [Bool.not_eq_true] at unmade
    rw [unmade, newIsolateWithOptions_ends engine.isValid empty] at taken
    cases taken

theorem contextNew_eq {name : Nat} {iso : Made} (taken : world.contextNew engine name iso = some next) :
    ∃ startup memory, readStartup iso.startup world.memory = (some startup, memory) ∧ next = { world with
      memory, log := .context name (startup.elim engine.plain engine.restore) :: world.log } := by
  unfold contextNew at taken
  cases read : readStartup iso.startup world.memory with
  | mk startup memory =>
    rw [read] at taken
    cases startup with
    | none => cases taken
    | some startup =>
      cases taken
      exact ⟨startup, memory, rfl, rfl⟩

theorem moves_compile {name : Nat} {iso : Made} (found : world.isolates.get name = some iso)
    (taken : world.compile engine name iso = some next) : Moves engine world (.compile name) next := by
  unfold compile at taken
  by_cases internal : iso.internal = true
  · rw [if_pos internal] at taken
    cases taken
    exact .compiled found
  · rw [if_neg internal] at taken
    obtain ⟨made, new, rfl⟩ := Option.map_eq_some_iff.mp taken
    obtain ⟨startup, memory, read, rfl⟩ := contextNew_eq new
    exact .compile found read

theorem moves_of_step (documented : engine.Documented) (taken : world.step engine event = some next) :
    Moves engine world event next := by
  cases event with
  | newSnapshotBuilder =>
    cases taken
    exact .newSnapshotBuilder rfl
  | call name call => exact moves_call documented taken
  | releaseBuilder name =>
    cases taken
    unfold releaseBuilder
    cases found : world.builders.get name with
    | none => exact .releasedBuilder
    | some builder => exact .releaseBuilder found
  | newIsolate options made => exact moves_newIsolate taken
  | newContext name =>
    obtain ⟨iso, found, made⟩ := Option.bind_eq_some_iff.mp taken
    obtain ⟨between, new, wraps⟩ := Option.bind_eq_some_iff.mp made
    obtain ⟨startup, memory, read, rfl⟩ := contextNew_eq new
    cases wraps
    exact .newContext found read rfl
  | closeContext name =>
    simp only [step, closeContext] at taken
    cases found : world.contexts.get name with
    | none =>
      rw [found] at taken
      cases taken
      exact .closedContext
    | some context =>
      rw [found] at taken
      obtain ⟨_, _, rfl⟩ := Option.map_eq_some_iff.mp taken
      exact .closeContext found
  | compile name =>
    simp only [step] at taken
    cases found : world.isolates.get name with
    | none =>
      rw [found] at taken
      cases taken
      exact .disposed (.inl rfl)
    | some iso =>
      rw [found] at taken
      exact moves_compile found taken
  | dispose name =>
    simp only [step] at taken
    cases found : world.isolates.get name with
    | none =>
      rw [found] at taken
      cases taken
      exact .disposed (.inr rfl)
    | some iso =>
      rw [found] at taken
      cases taken
      exact .dispose found

end World

/-- Two builders, and an isolate with a context from what the first one has built. -/
def session : List Event :=
  [.newSnapshotBuilder, .newSnapshotBuilder, .call 0 (.runScript [0x61] [0x66]), .call 1 (.runScript [0x62] [0x66]),
    .call 0 .build, .releaseBuilder 1, .newIsolate ⟨0, 0, [0, 0, 0, 0, 0, 0, 0, 0, 0x61]⟩ true, .newContext 0,
    .call 0 .build, .call 1 .build]

end Gv8.Snapshots
