import Gv8.Boundary.Freeing

/-! Startup data on their way between V8, C memory and Go.

V8 makes them with CreateBlob and reads them when it makes an isolate or a context. Both ways
they are copied and checked first: Build copies them out to Go, NewIsolateWithOptions copies
them in. -/

set_option autoImplicit false

namespace Gv8.Snapshots

open Foundation Program
open Buffers (RtnBytes ErrorBlocks place copy bytesResult)
open Operations (Caught RtnError JSError GoError emptyError bytesOf)

structure StartupData where
  data : Option Bytes
  rawSize : Int

/-- V8, as far as snapshots go. `Heap` is what a context can hold. -/
structure Engine (Heap : Type) where
  decoder : Decoder
  fresh : Heap
  /-- A script is compiled and run; one that throws may have changed the context. -/
  run : Heap → Script → Except Caught Unit × Heap
  createBlob : Heap → StartupData
  isValid : Bytes → Bool
  /-- The context that `Context::New` makes, without and with startup data. -/
  plain : Heap
  restore : Bytes → Heap

/-- What the header says of CreateBlob, and what a snapshot is for. -/
structure Engine.Documented {Heap : Type} (engine : Engine Heap) : Prop where
  blob : ∀ heap, engine.createBlob heap = ⟨none, 0⟩ ∨ ∃ data, engine.createBlob heap = ⟨some data, data.length⟩ ∧
    0 < data.length ∧ data.length < 2 ^ 31
  restores : ∀ heap data, (engine.createBlob heap).data = some data → engine.restore data = heap

/-- A V8 that keeps a context as a text, which scripts add to. -/
def noting : Engine Text where
  decoder := .replacing
  fresh := []
  run heap script := (.ok (), heap ++ script.source)
  createBlob heap :=
    let data := List.replicate 8 0 ++ encode heap
    if data.length < 2 ^ 31 then ⟨some data, data.length⟩ else ⟨none, 0⟩
  isValid _ := true
  plain := []
  restore data := Decoder.replacing.decode (data.drop 8)

theorem noting_documented : noting.Documented where
  blob heap := by
    unfold noting
    simp only
    split
    · rename_i small
      exact .inr ⟨_, rfl, by simp, small⟩
    · exact .inl rfl
  restores heap data same := by
    unfold noting at *
    simp only at *
    split at same
    · cases same
      rw [List.drop_left' List.length_replicate, Decoder.decode_encode]
    · cases same

/-- The 32-bit word at offset 4, the lowest byte first. -/
def rehashability (data : Bytes) : Nat := ((data.drop 4).take 4).foldr (fun byte rest => byte.toNat + 256 * rest) 0

def snapshotDataIsValid (isValid : Bytes → Bool) (data : Option Bytes) (length : Int) : Bool :=
  match data with
  | none => false
  | some data =>
    if length < 8 then false
    else if rehashability data ≠ 0 ∧ rehashability data ≠ 1 then false
    else isValid (data.take length.toNat)

def refusal (text : String) : RtnError := { emptyError with msg := some (cString (bytesOf text)) }

section programs

variable (isValid : Bytes → Bool)

/-- GV8SnapshotBuilderBuild, from what CreateBlob returns on; V8 allocates the data with `new`. -/
def takeBlob (blob : StartupData) : Program RtnBytes := do
  match ← copy blob.data with
  | none => return ⟨none, 0, ← place (refusal "gv8: snapshot creation failed")⟩
  | some data =>
    if blob.rawSize ≤ 0 then return ⟨none, 0, ← place (refusal "gv8: snapshot creation failed")⟩
    else
      let content ← read data
      if snapshotDataIsValid isValid (some content) blob.rawSize then
        let block ← malloc (content.take blob.rawSize.toNat)
        free (some data)
        return ⟨some block, blob.rawSize, ⟨none, none, none⟩⟩
      else
        free (some data)
        return ⟨none, 0, ← place (refusal "gv8: invalid snapshot data")⟩

/-- Build on a builder that has not been built. -/
def build (blob : StartupData) : Program (Except JSError Bytes) := do bytesResult (← takeBlob isValid blob)

/-- `gv8_ctx::snapshot_blob` and `snapshot_data`. -/
structure Startup where
  blob : Nat
  data : Nat
  deriving DecidableEq

/-- A gv8_ctx; its fields are not kept in the memory. -/
def newCtx : Program Nat := malloc []

def contextDispose (ctx : Nat) : Program Unit := do
  let _ ← read ctx
  free (some ctx)

/-- GV8NewIsolateWithSnapshot, with the pointer to the first byte of a Go slice: no isolate, or
one with or without startup data, and its internal gv8_ctx. `made` says whether `Isolate::New`
gives one. -/
def newIsolateWithSnapshot (data : Bytes) (length : Int) (made : Bool) : Program (Option (Option Startup × Nat)) := do
  if length ≤ 0 then
    if made then return some (none, ← newCtx)
    else return none
  else if snapshotDataIsValid isValid (some data) length then
    let snapshotData ← malloc (data.take length.toNat)
    let snapshot ← malloc (List.replicate 16 0)
    if made then return some (some ⟨snapshot, snapshotData⟩, ← newCtx)
    else
      free (some snapshot)
      free (some snapshotData)
      return none
  else return none

/-- `IsolateOptions`, with the content of the snapshot's slice. -/
structure Options where
  initialHeapSizeBytes : UInt64
  maxHeapSizeBytes : UInt64
  snapshot : Bytes
  deriving DecidableEq

def configureHeap (initial max : UInt64) : Option (UInt64 × UInt64) :=
  if 0 < initial ∨ 0 < max then some (initial, max) else none

/-- A new isolate: its heap sizes, its startup data, its internal gv8_ctx, and whether that has
its context. -/
structure Made where
  heap : Option (UInt64 × UInt64)
  startup : Option Startup
  ctx : Nat
  internal : Bool

/-- NewIsolateWithOptions; `none` is the panic over invalid snapshot data. -/
def newIsolateWithOptions (options : Options) (made : Bool) : Program (Option Made) := do
  let heap := configureHeap options.initialHeapSizeBytes options.maxHeapSizeBytes
  if 0 < options.snapshot.length then
    match ← newIsolateWithSnapshot isValid options.snapshot (cInt options.snapshot.length) made with
    | none => return none
    | some (startup, ctx) => return some ⟨heap, startup, ctx, false⟩
  else if made then
    let ctx ← newCtx
    -- GV8NewIsolate does not ask for a heap, and GV8NewIsolateWithHeapLimit for one of these sizes.
    if options.initialHeapSizeBytes = 0 ∧ options.maxHeapSizeBytes = 0 then return some ⟨none, none, ctx, true⟩
    else return some ⟨heap, none, ctx, true⟩
  -- InitializeGV8Isolate dereferences the null isolate: the process ends.
  else panic

def readStartup : Option Startup → Program (Option Bytes)
  | none => pure none
  | some startup => do
    let _ ← read startup.blob
    return some (← read startup.data)

/-- The startup data go when V8 is done with the isolate. -/
def disposeStartup : Option Startup → Program Unit
  | none => pure ()
  | some startup => do
    let _ ← readStartup (some startup)
    free (some startup.blob)
    free (some startup.data)

def isolateDispose (iso : Made) : Program Unit := do
  contextDispose iso.ctx
  disposeStartup iso.startup

/-- A gv8_snapshot_builder and its SnapshotCreator. -/
structure BuilderBlocks where
  builder : Nat
  creator : Nat

def BuilderBlocks.all (blocks : BuilderBlocks) : List Nat := [blocks.creator, blocks.builder]

def newSnapshotBuilder : Program BuilderBlocks := do
  let builder ← malloc []
  let creator ← malloc []
  return ⟨builder, creator⟩

def snapshotBuilderRelease (blocks : BuilderBlocks) : Program Unit := do
  let _ ← read blocks.builder
  free (some blocks.creator)
  free (some blocks.builder)

end programs

def refused (text : String) : JSError := ⟨goString (cString (bytesOf text)), [], []⟩

def buildAnswer (isValid : Bytes → Bool) (blob : StartupData) : Except JSError Bytes :=
  match blob.data with
  | none => .error (refused "gv8: snapshot creation failed")
  | some data =>
    if snapshotDataIsValid isValid (some data) blob.rawSize then .ok data
    else .error (refused "gv8: invalid snapshot data")

variable {isValid : Bytes → Bool} {memory before after : Memory} {lost : List Nat}

theorem free_malloc (memory : Memory) (content : Bytes) :
    memory.Leaves ((memory.malloc content).free (some memory.next)) [] :=
  Memory.leaves_malloc.free List.not_mem_nil

theorem newJSError_message (memory : Memory) (text : String) :
    Buffers.newJSError ⟨some memory.next, none, none⟩ (memory.malloc (cString (bytesOf text))) =
      (some (some (refused text)), (memory.malloc (cString (bytesOf text))).free (some memory.next)) := by
  have message : Buffers.readString (some memory.next) (memory.malloc (cString (bytesOf text))) =
      (some (goString (cString (bytesOf text))), memory.malloc (cString (bytesOf text))) :=
    read_bind Memory.get_malloc_next _
  exact bind_of_eq message

theorem place_refusal (memory : Memory) (text : String) : place (refusal text) memory =
    (some ⟨some memory.next, none, none⟩, memory.malloc (cString (bytesOf text))) := rfl

theorem newJSError_refusal (memory : Memory) (text : String) :
    ∃ after, (place (refusal text) >>= Buffers.newJSError) memory = (some (some (refused text)), after) ∧
      memory.Leaves after [] :=
  ⟨_, (bind_of_eq (place_refusal memory text)).trans (newJSError_message memory text),
    free_malloc memory (cString (bytesOf text))⟩

theorem bytesResult_refusal (memory : Memory) (text : String) :
    ∃ after, (place (refusal text) >>= fun error => bytesResult ⟨none, 0, error⟩) memory =
      (some (.error (refused text)), after) ∧ memory.Leaves after [] :=
  ⟨_, (bind_of_eq (place_refusal memory text)).trans (bind_of_eq (newJSError_message memory text)),
    free_malloc memory (cString (bytesOf text))⟩

theorem takeBlob_eq (isValid : Bytes → Bool) (memory : Memory) {data : Bytes} (positive : 0 < data.length) :
    takeBlob isValid ⟨some data, data.length⟩ memory =
      (if snapshotDataIsValid isValid (some data) data.length then do
          let block ← malloc (data.take (data.length : Int).toNat)
          free (some memory.next)
          return ⟨some block, data.length, ⟨none, none, none⟩⟩
        else do
          free (some memory.next)
          return ⟨none, 0, ← place (refusal "gv8: invalid snapshot data")⟩ : Program RtnBytes)
        (memory.malloc data) := by
  have sized : ¬ (data.length : Int) ≤ 0 := by omega
  have copied : copy (some data) memory = (some (some memory.next), memory.malloc data) := rfl
  unfold takeBlob
  rw [bind_of_eq copied]
  simp only [if_neg sized]
  rw [read_bind Memory.get_malloc_next]

theorem bytesResult_copy (memory : Memory) {block : Nat} {data : Bytes} (there : memory.get block = some data)
    (positive : 0 < data.length) :
    bytesResult ⟨some block, data.length, ⟨none, none, none⟩⟩ memory =
      (some (.ok data), memory.free (some block)) := by
  have sized : ¬ (data.length : Int) < 0 := by omega
  have some : ¬ ((some block : Option Nat) = none ∨ (data.length : Int) = 0) := by
    rw [not_or]
    exact ⟨nofun, by omega⟩
  rw [Buffers.bytesResult_eq, if_neg some]
  apply deferFree_eq
  rw [Buffers.goBytes, if_neg sized]
  apply (bind_of_eq (read_bind there _)).trans
  rw [Int.toNat_natCast, List.take_length]
  rfl

/-- Build answers, and leaves nothing of what was allocated for it. -/
theorem build_eq (isValid : Bytes → Bool) (memory : Memory) {blob : StartupData}
    (whole : ∀ data ∈ blob.data, blob.rawSize = data.length ∧ 0 < data.length) :
    ∃ after, build isValid blob memory = (some (buildAnswer isValid blob), after) ∧ memory.Leaves after [] := by
  obtain ⟨data, rawSize⟩ := blob
  cases data with
  | none =>
    obtain ⟨after, returns, leaves⟩ := bytesResult_refusal memory "gv8: snapshot creation failed"
    exact ⟨after, returns, leaves⟩
  | some data =>
    obtain ⟨rfl, positive⟩ := whole data rfl
    have taken := takeBlob_eq isValid memory positive
    by_cases valid : snapshotDataIsValid isValid (some data) data.length
    · rw [if_pos valid, Int.toNat_natCast, List.take_length] at taken
      let second := (memory.malloc data).malloc data
      have apart : memory.next + 1 ≠ memory.next := Nat.succ_ne_self _
      have there : second.get (memory.next + 1) = some data := Memory.get_malloc_next
      have copied : (second.free (some memory.next)).get (memory.next + 1) = some data := (Memory.get_free_of_ne _ apart).trans there
      have again : (memory.malloc data).Leaves second [memory.next + 1] := Memory.leaves_malloc
      have leaves : memory.Leaves second ([memory.next] ++ [memory.next + 1]) := Memory.leaves_malloc.trans again
      have first : memory.Leaves (second.free (some memory.next)) [memory.next + 1] :=
        leaves.free (by simp)
      have answered : buildAnswer isValid ⟨some data, data.length⟩ = .ok data := if_pos valid
      refine ⟨_, ?_, first.free List.not_mem_nil⟩
      rw [answered]
      exact (bind_of_eq taken).trans (bytesResult_copy _ copied positive)
    · rw [if_neg valid] at taken
      obtain ⟨after, returns, leaves⟩ :=
        bytesResult_refusal ((memory.malloc data).free (some memory.next)) "gv8: invalid snapshot data"
      have answered : buildAnswer isValid ⟨some data, data.length⟩ = .error (refused "gv8: invalid snapshot data") :=
        if_neg valid
      refine ⟨after, ?_, (free_malloc memory data).trans leaves⟩
      rw [answered]
      exact (bind_eq_of_eq taken).trans returns

section loading

/-- What the isolate of GV8NewIsolateWithSnapshot starts from, if there is one. -/
def nativeLoaded (isValid : Bytes → Bool) (data : Bytes) (length : Int) (made : Bool) : Option (Option Bytes) :=
  if length ≤ 0 then if made then some none else none
  else if snapshotDataIsValid isValid (some data) length then
    if made then some (some (data.take length.toNat)) else none
  else none

/-- What an isolate that is made with this snapshot starts from; there is none where
NewIsolateWithOptions panics. -/
def loaded (isValid : Bytes → Bool) (snapshot : Bytes) (made : Bool) : Option (Option Bytes) :=
  if 0 < snapshot.length then nativeLoaded isValid snapshot (cInt snapshot.length) made else some none

namespace Startup

def blocks (startup : Startup) : List Nat := [startup.blob, startup.data]

structure Live (memory : Memory) (startup : Startup) (data : Bytes) : Prop where
  blob : (memory.get startup.blob).isSome
  data : memory.get startup.data = some data

inductive Holds (memory : Memory) : Option Startup → Option Bytes → Prop where
  | none : Holds memory none none
  | some {startup : Startup} {data : Bytes} : startup.Live memory data → Holds memory (some startup) (some data)

theorem Holds.mono {kept : Option Startup} {content : Option Bytes} (holds : Holds before kept content)
    (same : ∀ block ∈ kept.elim [] blocks, after.get block = before.get block) : Holds after kept content := by
  cases holds with
  | none => exact .none
  | @some startup data live =>
    refine .some ⟨?_, ?_⟩
    · rw [same startup.blob (.head _)]
      exact live.blob
    · rw [same startup.data (.tail _ (.head _))]
      exact live.data

end Startup

def isolateBlocks (kept : Option Startup × Nat) : List Nat := kept.2 :: kept.1.elim [] Startup.blocks

def Made.kept (iso : Made) : Option Startup × Nat := (iso.startup, iso.ctx)

def Made.blocks (iso : Made) : List Nat := isolateBlocks iso.kept

/-- What a program gives, and keeps in memory, where something is loaded; where nothing is, it
gives nothing and keeps nothing. -/
structure Loads {Result : Type} (program : Program (Option Result)) (kept : Result → Option Startup × Nat)
    (content : Option (Option Bytes)) : Prop where
  nothing : content = none → ∀ memory, ∃ after, program memory = (some none, after) ∧ memory.Leaves after []
  something : ∀ bytes, content = some bytes → ∀ memory, ∃ result after, program memory = (some (some result), after) ∧
    memory.Leaves after (isolateBlocks (kept result)) ∧ (isolateBlocks (kept result)).Nodup ∧
    Startup.Holds after (kept result).1 bytes

theorem newIsolateWithSnapshot_loads (isValid : Bytes → Bool) (data : Bytes) (length : Int) (made : Bool) :
    Loads (newIsolateWithSnapshot isValid data length made) id (nativeLoaded isValid data length made) := by
  unfold newIsolateWithSnapshot nativeLoaded
  by_cases none : length ≤ 0
  · rw [if_pos none, if_pos none]
    cases made with
    | true =>
      refine ⟨nofun, fun _ same memory => ?_⟩
      cases same
      exact ⟨_, _, rfl, Memory.leaves_malloc, List.nodup_singleton _, .none⟩
    | false => exact ⟨fun _ memory => ⟨_, rfl, .refl memory⟩, nofun⟩
  rw [if_neg none, if_neg none]
  by_cases valid : snapshotDataIsValid isValid (some data) length
  · rw [if_pos valid, if_pos valid]
    let first (memory : Memory) := memory.malloc (data.take length.toNat)
    let second (memory : Memory) := (first memory).malloc (List.replicate 16 0)
    have again (memory : Memory) : (first memory).Leaves (second memory) [memory.next + 1] := Memory.leaves_malloc
    have leaves (memory : Memory) : memory.Leaves (second memory) ([memory.next] ++ [memory.next + 1]) :=
      Memory.leaves_malloc.trans (again memory)
    cases made with
    | true =>
      constructor
      · nofun
      · intro bytes same memory
        cases same
        have copied : (first memory).get memory.next = some (data.take length.toNat) := Memory.get_malloc_next
        have there : (second memory).get memory.next = some (data.take length.toNat) := Memory.get_malloc_of_get copied
        have header : (second memory).get (memory.next + 1) = some (List.replicate 16 0) := Memory.get_malloc_next
        have third : (second memory).Leaves ((second memory).malloc []) [memory.next + 2] := Memory.leaves_malloc
        have all := ((leaves memory).trans third).perm (List.reverse_perm [memory.next, memory.next + 1, memory.next + 2]).symm
        have live : Startup.Live ((second memory).malloc []) ⟨memory.next + 1, memory.next⟩ (data.take length.toNat) := by
          refine ⟨?_, Memory.get_malloc_of_get there⟩
          rw [Memory.get_malloc_of_get header]
          rfl
        refine ⟨(some ⟨memory.next + 1, memory.next⟩, memory.next + 2), _, rfl, all, ?_, .some live⟩
        simp [isolateBlocks, Startup.blocks]
    | false =>
      constructor
      · intro _ memory
        have back := (leaves memory).perm (List.Perm.swap _ _ [])
        exact ⟨_, rfl, (back.free (by simp)).free List.not_mem_nil⟩
      · nofun
  · rw [if_neg valid, if_neg valid]
    exact ⟨fun _ memory => ⟨_, rfl, .refl memory⟩, nofun⟩

theorem newIsolateWithOptions_loads (isValid : Bytes → Bool) (options : Options) {made : Bool}
    (goes : options.snapshot ≠ [] ∨ made = true) :
    Loads (newIsolateWithOptions isValid options made) Made.kept (loaded isValid options.snapshot made) := by
  by_cases given : 0 < options.snapshot.length
  · have loads := newIsolateWithSnapshot_loads isValid options.snapshot (cInt options.snapshot.length) made
    have content : loaded isValid options.snapshot made =
        nativeLoaded isValid options.snapshot (cInt options.snapshot.length) made := if_pos given
    rw [content]
    unfold newIsolateWithOptions
    simp only [if_pos given]
    constructor
    · intro same memory
      obtain ⟨after, returns, leaves⟩ := loads.nothing same memory
      exact ⟨after, bind_of_eq returns, leaves⟩
    · intro bytes same memory
      obtain ⟨⟨startup, ctx⟩, after, returns, keeps⟩ := loads.something bytes same memory
      exact ⟨⟨_, startup, ctx, false⟩, after, bind_of_eq returns, keeps⟩
  · have content : loaded isValid options.snapshot made = some none := if_neg given
    have made := goes.resolve_left (by simpa [List.length_pos_iff] using given)
    rw [content]
    unfold newIsolateWithOptions
    simp only [if_neg given, if_pos made]
    constructor
    · nofun
    · intro bytes same memory
      cases same
      have keeps : memory.Leaves (memory.malloc []) [memory.next] := Memory.leaves_malloc
      have returns : newCtx memory = (some memory.next, memory.malloc []) := rfl
      split
      · exact ⟨_, _, bind_of_eq returns, keeps, List.nodup_singleton _, .none⟩
      · exact ⟨_, _, bind_of_eq returns, keeps, List.nodup_singleton _, .none⟩

theorem newIsolateWithOptions_ends (isValid : Bytes → Bool) {options : Options} (empty : options.snapshot = [])
    (memory : Memory) : newIsolateWithOptions isValid options false memory = (none, memory) := by
  unfold newIsolateWithOptions
  simp only [empty, List.length_nil, Nat.lt_irrefl, if_false, Bool.false_eq_true]
  rfl

theorem loaded_eq_none_iff (snapshot : Bytes) (made : Bool) : loaded isValid snapshot made = none ↔
    snapshot ≠ [] ∧ (made = false ∨ 0 < cInt snapshot.length ∧
      snapshotDataIsValid isValid (some snapshot) (cInt snapshot.length) = false) := by
  unfold loaded nativeLoaded
  rw [← List.length_pos_iff]
  by_cases given : 0 < snapshot.length
  · by_cases sized : cInt snapshot.length ≤ 0
    · cases made <;> simp [given, sized, Int.not_lt.mpr sized]
    · have positive : 0 < cInt snapshot.length := by omega
      cases made <;> simp [given, sized, positive]
  · simp [given]

/-- A slice is loaded as it is where its length fits into an int. -/
theorem loaded_eq_snapshot_iff (snapshot : Bytes) (made : Bool) : loaded isValid snapshot made = some (some snapshot) ↔
    snapshot.length < 2 ^ 31 ∧ made = true ∧ snapshotDataIsValid isValid (some snapshot) snapshot.length = true := by
  unfold loaded nativeLoaded
  by_cases given : 0 < snapshot.length
  · by_cases small : snapshot.length < 2 ^ 31
    · have sized : ¬ (snapshot.length : Int) ≤ 0 := by omega
      rw [if_pos given, cInt_of_small small, if_neg sized, Int.toNat_natCast, List.take_length]
      simp only [small, true_and]
      cases made <;> simp
    · have large := cInt_of_large (Nat.not_lt.mp small)
      have bound := cInt_lt snapshot.length
      have shorter : snapshot.take (cInt snapshot.length).toNat ≠ snapshot := by
        intro same
        have length := congrArg List.length same
        rw [List.length_take] at length
        omega
      rw [if_pos given]
      simp only [small, false_and, iff_false]
      split
      · cases made <;> simp
      · cases made <;> simp [shorter]
  · have empty : snapshotDataIsValid isValid (some snapshot) snapshot.length = false := by
      have short : (snapshot.length : Int) < 8 := by omega
      simp [snapshotDataIsValid, short]
    simp [given, empty]

/-- Making an isolate ends the process, panics, or keeps just the isolate's own blocks; and its
startup data are the whole slice where that has less than 2^31 bytes that pass the check. -/
theorem newIsolateWithOptions_starts (isValid : Bytes → Bool) (options : Options) (made : Bool) (memory : Memory) :
    ∃ outcome after, newIsolateWithOptions isValid options made memory = (outcome, after) ∧
      memory.Leaves after (outcome.join.elim [] Made.blocks) ∧ (outcome.join.elim [] Made.blocks).Nodup ∧
      (outcome = none ↔ options.snapshot = [] ∧ made = false) ∧
      (outcome = some none ↔ options.snapshot ≠ [] ∧ (made = false ∨ 0 < cInt options.snapshot.length ∧
        snapshotDataIsValid isValid (some options.snapshot) (cInt options.snapshot.length) = false)) ∧
      ((∃ startup, outcome.join.bind Made.startup = some startup ∧ startup.Live after options.snapshot) ↔
        options.snapshot.length < 2 ^ 31 ∧ made = true ∧
          snapshotDataIsValid isValid (some options.snapshot) options.snapshot.length = true) := by
  by_cases ends : options.snapshot = [] ∧ made = false
  · obtain ⟨empty, rfl⟩ := ends
    refine ⟨none, memory, newIsolateWithOptions_ends isValid empty memory, .refl memory, List.nodup_nil, ?_, ?_, ?_⟩
    · simp [empty]
    · simp [empty]
    · simp
  have goes : options.snapshot ≠ [] ∨ made = true := by
    by_cases empty : options.snapshot = []
    · exact .inr (by simpa [empty] using ends)
    · exact .inl empty
  have loads := newIsolateWithOptions_loads isValid options goes
  simp only [← loaded_eq_none_iff, ← loaded_eq_snapshot_iff]
  cases content : loaded isValid options.snapshot made with
  | none =>
    obtain ⟨after, returns, leaves⟩ := loads.nothing content memory
    refine ⟨some none, after, returns, leaves, List.nodup_nil, ?_, by simp, by simp⟩
    simp only [ends, reduceCtorEq]
  | some bytes =>
    obtain ⟨iso, after, returns, leaves, once, holds⟩ := loads.something bytes content memory
    refine ⟨some (some iso), after, returns, leaves, once, ?_, by simp, ?_⟩
    · simp only [ends, reduceCtorEq]
    simp only [Option.join_some, Option.bind_some, Option.some.injEq]
    change Startup.Holds after iso.startup bytes at holds
    generalize iso.startup = kept at holds
    cases holds with
    | none => simp
    | some live =>
      simp only [Option.some.injEq]
      constructor
      · rintro ⟨startup, rfl, live'⟩
        exact Option.some.inj (live.data.symm.trans live'.data)
      · rintro rfl
        exact ⟨_, rfl, live⟩

end loading

end Gv8.Snapshots
