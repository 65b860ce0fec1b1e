import Gv8.Boundary.Buffers
import Gv8.Operations.Errors

/-! What an operation frees. Everything that is allocated for it is freed once, unless an
exception without a message comes with a location or a stack, or bytes come with the length 0. -/

set_option autoImplicit false

namespace Gv8.Buffers

open Foundation Program
open Operations (Caught RtnError JSError exceptionError emptyError copyString bytesOf rtnString)

namespace ErrorBlocks

def all (error : ErrorBlocks) : List Nat := error.msg.toList ++ (error.location.toList ++ error.stack.toList)

end ErrorBlocks

/-- There is a message, or nothing else either. -/
def Described (rtn : RtnError) : Prop := rtn.msg.isSome ∨ rtn.location = none ∧ rtn.stack = none

variable {memory before after : Memory} {lost : List Nat}

theorem copy_eq (memory : Memory) (content : Option Bytes) : ∃ block after, copy content memory = (some block, after) ∧
    memory.Leaves after block.toList ∧ (block = none ↔ content = none) ∧
      ∀ name ∈ block, memory.next ≤ name ∧ name < after.next := by
  cases content with
  | none => exact ⟨none, memory, rfl, .refl memory, iff_of_true rfl rfl, nofun⟩
  | some content =>
    refine ⟨some memory.next, memory.malloc content, rfl, Memory.leaves_malloc, by simp, ?_⟩
    intro name same
    cases same
    exact ⟨Nat.le_refl _, Nat.lt_succ_self _⟩

theorem nodup_toList_append {block : Option Nat} {rest : List Nat}
    (earlier : ∀ name ∈ block, ∀ other ∈ rest, name < other) (apart : rest.Nodup) :
    (block.toList ++ rest).Nodup := by
  cases block with
  | none => exact apart
  | some name =>
    refine List.nodup_cons.mpr ⟨fun member => ?_, apart⟩
    exact absurd (earlier name rfl name member) (Nat.lt_irrefl name)

theorem place_eq (memory : Memory) (rtn : RtnError) : ∃ error after, place rtn memory = (some error, after) ∧
    memory.Leaves after error.all ∧ error.all.Nodup ∧ (error.msg = none ↔ rtn.msg = none) ∧
      (error.location = none ↔ rtn.location = none) ∧ (error.stack = none ↔ rtn.stack = none) := by
  obtain ⟨msg, first, made, leaves, someMsg, newMsg⟩ := copy_eq memory rtn.msg
  obtain ⟨location, second, made', leaves', someLocation, newLocation⟩ := copy_eq first rtn.location
  obtain ⟨stack, third, made'', leaves'', someStack, newStack⟩ := copy_eq second rtn.stack
  have returns : place rtn memory = (some ⟨msg, location, stack⟩, third) := by
    rw [place, bind_of_eq made, bind_of_eq made', bind_of_eq made'']
    rfl
  have inStack : ∀ name ∈ stack.toList, second.next ≤ name := fun name member =>
    (newStack name (Option.mem_toList.mp member)).1
  have inRest : ∀ name ∈ location.toList ++ stack.toList, first.next ≤ name := by
    intro name member
    rcases List.mem_append.mp member with early | late
    · exact (newLocation name (Option.mem_toList.mp early)).1
    · exact Nat.le_trans leaves'.next_le (inStack name late)
  have restApart : (location.toList ++ stack.toList).Nodup := by
    apply nodup_toList_append
    · intro name member other late
      exact Nat.lt_of_lt_of_le (newLocation name member).2 (inStack other late)
    · cases stack <;> simp
  have apart : (ErrorBlocks.all ⟨msg, location, stack⟩).Nodup := by
    apply nodup_toList_append _ restApart
    intro name member other late
    exact Nat.lt_of_lt_of_le (newMsg name member).2 (inRest other late)
  exact ⟨_, third, returns, leaves.trans (leaves'.trans leaves''), apart, someMsg, someLocation, someStack⟩

theorem readString_eq {block : Option Nat} (there : ∀ name ∈ block, (memory.get name).isSome) :
    ∃ text, readString block memory = (some text, memory) := by
  cases block with
  | none => exact ⟨[], rfl⟩
  | some name =>
    obtain ⟨content, found⟩ := Option.isSome_iff_exists.mp (there name rfl)
    exact ⟨goString content, read_bind found _⟩

theorem leaves_free {block : Option Nat} (leaves : before.Leaves after (block.toList ++ lost))
    (apart : ∀ name ∈ block, name ∉ lost) : before.Leaves (after.free block) lost := by
  cases block with
  | none => exact leaves
  | some name => exact leaves.free (apart name rfl)

theorem newJSError_eq {error : ErrorBlocks} (leaves : before.Leaves memory error.all) (apart : error.all.Nodup)
    {msg : Nat} (described : error.msg = some msg) :
    ∃ err after, newJSError error memory = (some (some err), after) ∧ before.Leaves after [] := by
  have there : ∀ name ∈ error.all, (memory.get name).isSome := fun name member => (leaves.come name member).2
  have inMsg : ∀ name ∈ error.msg, name ∈ error.all := fun name member => by simp_all [ErrorBlocks.all]
  have inLocation : ∀ name ∈ error.location, name ∈ error.all := fun name member => by simp_all [ErrorBlocks.all]
  have inStack : ∀ name ∈ error.stack, name ∈ error.all := fun name member => by simp_all [ErrorBlocks.all]
  obtain ⟨message, readMsg⟩ := readString_eq fun name member => there name (inMsg name member)
  obtain ⟨location, readLocation⟩ := readString_eq fun name member => there name (inLocation name member)
  obtain ⟨stack, readStack⟩ := readString_eq fun name member => there name (inStack name member)
  obtain ⟨msgOut, restApart, msgApart⟩ := List.nodup_append.mp apart
  obtain ⟨_, _, locationApart⟩ := List.nodup_append.mp restApart
  have first := leaves_free leaves fun name member inRest =>
    msgApart name (Option.mem_toList.mpr member) name inRest rfl
  have second := leaves_free first fun name member inRest =>
    locationApart name (Option.mem_toList.mpr member) name inRest rfl
  have third : before.Leaves (((memory.free error.msg).free error.location).free error.stack) [] :=
    leaves_free ((List.append_nil _).symm ▸ second) fun _ _ => List.not_mem_nil
  rw [described] at readMsg
  refine ⟨⟨message, location, stack⟩, _, ?_, third⟩
  rw [newJSError, described]
  simp only
  rw [bind_of_eq readMsg, bind_of_eq readLocation, bind_of_eq readStack]
  rfl

/-- What is done with an error that is placed: it is freed where it has a message, and else
left as it is. -/
theorem place_settles {Result : Type} (rtn : RtnError) {next : ErrorBlocks → Program Result}
    (leave : ∀ error memory, error.msg = none → ∃ result, next error memory = (some result, memory))
    (convert : ∀ error err memory after, error.msg.isSome → newJSError error memory = (some (some err), after) →
      ∃ result, next error memory = (some result, after)) :
    (place rtn >>= next).Settles memory (Described rtn) := by
  obtain ⟨error, after, placed, leaves, apart, noMsg, noLocation, noStack⟩ := place_eq memory rtn
  cases described : error.msg with
  | none =>
    obtain ⟨result, same⟩ := leave error after described
    refine ⟨result, after, error.all, (bind_of_eq placed).trans same, leaves, ?_⟩
    rw [Described, noMsg.mp described, ← noLocation, ← noStack]
    simp [ErrorBlocks.all, described]
  | some msg =>
    obtain ⟨err, final, converted, clean⟩ := newJSError_eq leaves apart described
    obtain ⟨result, returns⟩ := convert error err after final (by rw [described]; rfl) converted
    have some : rtn.msg ≠ none := fun none => by
      rw [noMsg.mpr none] at described
      cases described
    exact ⟨result, final, [], (bind_of_eq placed).trans returns, clean,
      iff_of_true rfl (.inl (Option.isSome_iff_ne_none.mpr some))⟩

theorem place_newJSError (rtn : RtnError) : (place rtn >>= newJSError).Settles memory (Described rtn) := by
  apply place_settles
  · intro error memory undescribed
    rw [newJSError, undescribed]
    exact ⟨none, rfl⟩
  · intro error err memory after _ converted
    exact ⟨some err, converted⟩

def hasText : Option Text → Bool
  | some (_ :: _) => true
  | _ => false

theorem copyString_eq_none (text : Option Text) : copyString text = none ↔ hasText text = false := by
  rw [← Option.not_isSome_iff_eq_none, Operations.copyString_isSome_iff]
  rcases text with _ | _ | ⟨first, rest⟩ <;> simp [hasText]

/-- The exception has a text, or there is nothing else to tell. -/
def Worded (caught : Caught) : Prop :=
  hasText caught.exception ∨ caught.message = none ∧ ∀ stack ∈ caught.stack, ¬ hasText stack

theorem described_exceptionError (caught : Caught) : Described (exceptionError caught) ↔ Worded caught := by
  have msg : (exceptionError caught).msg.isSome ↔ hasText caught.exception := by
    rw [Option.isSome_iff_ne_none, Ne, exceptionError, copyString_eq_none, Bool.not_eq_false]
  have location : (exceptionError caught).location = none ↔ caught.message = none := Option.map_eq_none_iff
  have stack : (exceptionError caught).stack = none ↔ ∀ stack ∈ caught.stack, ¬ hasText stack := by
    simp only [exceptionError, Option.bind_eq_none_iff, copyString_eq_none, Option.mem_def, Bool.not_eq_true]
  rw [Described, msg, location, stack, Worded]

/-- Every exception of V8 is worded. -/
def Throws {Result : Type} (result : Except Caught Result) : Prop :=
  ∀ caught, result = .error caught → Worded caught

theorem valueResult_settles (result : Except Caught Unit) : (valueResult result).Settles memory (Throws result) := by
  cases result with
  | ok => exact settles_pure none nofun
  | error caught => exact (place_newJSError (exceptionError caught)).congr (by simp [Throws, described_exceptionError])

theorem errorResult_settles (result : Except Caught Unit) : (errorResult result).Settles memory (Throws result) := by
  cases result with
  | ok => exact settles_pure none nofun
  | error caught => exact (place_newJSError (exceptionError caught)).congr (by simp [Throws, described_exceptionError])

/-- The strings that an operation hands to C are there while its native function runs, and
gone when it ends. -/
theorem ends_withCStrings {Result : Type} {panics condition : Prop} (strings : List Bytes) (kept : List Nat)
    {body : List Nat → Program Result} (there : ∀ name ∈ kept, (memory.get name).isSome)
    (ends : ∀ blocks memory, (∀ name ∈ kept ++ blocks, (memory.get name).isSome) →
      (body blocks).Ends memory panics condition) :
    (withCStrings strings body).Ends memory panics condition := by
  induction strings generalizing kept body memory with
  | nil => exact ends [] memory (by simpa using there)
  | cons value rest ih =>
    apply ends_withBlock
    apply ih (memory.next :: kept)
    · intro name member
      rcases List.mem_cons.mp member with rfl | old
      · rw [Memory.get_malloc_next]
        rfl
      · obtain ⟨content, found⟩ := Option.isSome_iff_exists.mp (there name old)
        rw [Memory.get_malloc_of_get found]
        rfl
    · intro blocks after all
      apply ends
      intro name member
      apply all
      simp only [List.mem_append, List.mem_cons] at member ⊢
      exact member.elim (fun old => .inl (.inr old)) fun new => new.elim (fun same => .inl (.inl same)) .inr

theorem ends_valueOperation {panics : Prop} (strings : List Bytes) (result : Except Caught Unit) :
    (valueOperation strings result).Ends memory panics (Throws result) := by
  apply ends_withCStrings strings [] nofun
  intro blocks memory there
  apply ends_bind (readAll_eq there) (.refl memory)
  exact .inr ((valueResult_settles result).bind_pure fun _ => ())

theorem ends_errorOperation {panics : Prop} (strings : List Bytes) (result : Except Caught Unit) :
    (errorOperation strings result).Ends memory panics (Throws result) := by
  apply ends_withCStrings strings [] nofun
  intro blocks memory there
  apply ends_bind (readAll_eq there) (.refl memory)
  exact .inr ((errorResult_settles result).bind_pure fun _ => ())

theorem readStringN_eq {block : Option Nat} (there : ∀ name ∈ block, (memory.get name).isSome) (length : Int) :
    ∃ text, readStringN length block memory = (some text, memory) := by
  cases block with
  | none => exact ⟨_, rfl⟩
  | some name =>
    obtain ⟨content, found⟩ := Option.isSome_iff_exists.mp (there name rfl)
    exact ⟨_, read_bind found _⟩

theorem stringResult_settles (result : Except Caught Text) : (stringResult result).Settles memory (Throws result) := by
  cases result with
  | ok text =>
    obtain ⟨block, after, made, leaves, _⟩ := copy_eq memory (rtnString (.ok text)).data
    obtain ⟨data, found⟩ := readStringN_eq
      (fun name member => (leaves.come name (Option.mem_toList.mpr member)).2) (rtnString (.ok text)).length
    have returns : stringResult (.ok text) memory = (some (.ok data), after.free block) := by
      apply (bind_of_eq made).trans
      apply deferFree_eq
      exact bind_of_eq found
    exact ⟨_, _, [], returns, leaves_free ((List.append_nil _).symm ▸ leaves) fun _ _ => List.not_mem_nil,
      iff_of_true rfl (by simp [Throws])⟩
  | error caught =>
    have settles : (stringResult (.error caught)).Settles memory (Described (exceptionError caught)) := by
      unfold stringResult
      apply place_settles
      · intro error memory undescribed
        rw [undescribed]
        exact ⟨_, rfl⟩
      · intro error err memory after described converted
        rw [if_pos described]
        exact ⟨_, bind_of_eq converted⟩
    exact settles.congr (by simp [Throws, described_exceptionError])

theorem bytesResult_eq (data : Option Nat) (length : Int) : bytesResult ⟨data, length, ⟨none, none, none⟩⟩ =
    if data = none ∨ length = 0 then pure (.ok []) else deferFree data do return .ok (← goBytes data length) := rfl

theorem ends_copy_bytesResult (content : Option Bytes) (length : Int) :
    (do let data ← copy content; bytesResult ⟨data, length, ⟨none, none, none⟩⟩).Ends memory
      (length = 0 → content = none) (length = 0 → content = none) := by
  obtain ⟨data, after, made, leaves, nothing, _⟩ := copy_eq memory content
  unfold Ends Settles
  rw [bind_of_eq made, bytesResult_eq]
  by_cases early : data = none ∨ length = 0
  -- GoBytes is skipped and with it the deferred free, so nothing may have been allocated.
  · rw [if_pos early]
    refine .inr ⟨.ok [], after, data.toList, rfl, leaves, ?_⟩
    rw [Option.toList_eq_nil_iff, nothing]
    rcases early with without | zero
    · exact iff_of_true (nothing.mp without) fun _ => nothing.mp without
    · exact ⟨fun none _ => none, fun condition => condition zero⟩
  · rw [if_neg early]
    rw [not_or] at early
    cases data with
    | none => exact absurd rfl early.1
    | some block =>
      -- GoBytes panics for a negative length.
      by_cases negative : length < 0
      · left
        refine ⟨?_, fun zero => absurd zero early.2⟩
        simp only [deferFree, goBytes, if_pos negative]
        exact bind_of_none rfl
      · right
        obtain ⟨found, there⟩ := Option.isSome_iff_exists.mp (leaves.come block List.mem_cons_self).2
        have returns : (do return .ok (← goBytes (some block) length) : Program (Except JSError Bytes)) after =
            (some (.ok (found.take length.toNat)), after) := by
          rw [goBytes, if_neg negative]
          exact bind_of_eq (read_bind there _)
        exact ⟨_, _, [], deferFree_eq returns _, leaves.free List.not_mem_nil,
          iff_of_true rfl fun zero => absurd zero early.2⟩

theorem place_bytesResult_settles (rtn : RtnError) (described : rtn.msg.isSome) :
    (do let error ← place rtn; bytesResult ⟨none, 0, error⟩).Settles memory True := by
  have settles : (do let error ← place rtn; bytesResult ⟨none, 0, error⟩).Settles memory (Described rtn) := by
    apply place_settles
    · intro error memory undescribed
      simp only [bytesResult, undescribed]
      exact ⟨_, rfl⟩
    · intro error err memory after some converted
      simp only [bytesResult, if_pos some]
      exact ⟨_, bind_of_eq converted⟩
  exact settles.congr (iff_of_true (.inl described) trivial)

/-- The length that Go sees is 0 only where there is no block. -/
def Filled (content : Option Bytes) (mallocZero : Bool) : Prop :=
  ∀ data ∈ content, cInt data.length = 0 → data = [] ∧ mallocZero = false

theorem ends_bytes (content : Option Bytes) (mallocZero : Bool) :
    (bytes content mallocZero).Ends memory (Filled content mallocZero) (Filled content mallocZero) := by
  rw [bytes, ← bind_assoc]
  apply Ends.bind_pure
  cases content with
  | none =>
    rw [valueBytes, bind_assoc]
    exact .inr ((place_bytesResult_settles _ rfl).congr (iff_of_true trivial fun _ none => nomatch none))
  | some data =>
    rw [valueBytes, bind_assoc]
    refine (ends_copy_bytesResult _ (cInt data.length)).congr ?_
    by_cases empty : data.length = 0 ∧ mallocZero = false
    · rw [if_pos empty]
      refine iff_of_true (fun _ => rfl) ?_
      intro data' same _
      cases same
      exact ⟨List.eq_nil_of_length_eq_zero empty.1, empty.2⟩
    · rw [if_neg empty]
      simp only [Filled, Option.mem_some_iff, forall_eq', reduceCtorEq, imp_false]
      rw [List.length_eq_zero_iff] at empty
      exact ⟨fun apart zero => absurd zero apart, fun filled zero => empty (filled zero)⟩

theorem ends_build (blob : Blob) : (build blob).Ends memory True True := by
  rw [build, ← bind_assoc]
  apply Ends.bind_pure
  cases blob with
  | valid data positive fits =>
    rw [snapshotBlob, bind_assoc]
    apply (ends_copy_bytesResult (some data) (cInt data.length)).congr
    rw [cInt_of_small fits]
    exact iff_of_true (fun zero => by omega) trivial
  | built =>
    rw [snapshotBlob, bind_assoc]
    exact .inr (place_bytesResult_settles _ rfl)
  | failed =>
    rw [snapshotBlob, bind_assoc]
    exact .inr (place_bytesResult_settles _ rfl)
  | invalid =>
    rw [snapshotBlob, bind_assoc]
    exact .inr (place_bytesResult_settles _ rfl)

theorem materializeValue_ends (memory : Memory) (arg : Argument) :
    (materializeValue arg memory).1 = none ∧ arg.fits = false ∨
      ∃ answer after, materializeValue arg memory = (some answer, after) ∧ memory.Leaves after [] ∧
        (arg.fits = true ↔ answer = some false) := by
  cases arg with
  | value isNil => exact .inr ⟨_, memory, rfl, .refl memory, by simp [Argument.fits]⟩
  | nilWrapper => exact .inl ⟨rfl, rfl⟩
  | made => exact .inr ⟨_, memory, rfl, .refl memory, by simp [Argument.fits]⟩
  | unsupported => exact .inr ⟨_, memory, rfl, .refl memory, by simp [Argument.fits]⟩
  | text value accepted =>
    have throws : Throws (if accepted then .ok () else .error .nothing : Except Caught Unit) := by
      cases accepted with
      | true => exact nofun
      | false =>
        intro caught same
        cases same
        exact .inr ⟨rfl, nofun⟩
    have ends : (newStringValue (if accepted then .ok () else .error .nothing) value).Ends memory False _ :=
      ends_valueOperation _ _
    rcases ends with ⟨_, impossible⟩ | ⟨result, after, lost, returns, leaves, clean⟩
    · cases impossible
    · right
      rw [clean.mpr throws] at leaves
      exact ⟨_, after, bind_of_eq returns, leaves, by simp [Argument.fits]⟩

theorem materializeArgs_ends (memory : Memory) (args : List Argument) :
    (materializeArgs args memory).1 = none ∧ ¬ args.all Argument.fits ∨
      ∃ answer after, materializeArgs args memory = (some answer, after) ∧ memory.Leaves after [] ∧
        (args.all Argument.fits ↔ ∃ values, answer = some values ∧ true ∉ values) := by
  induction args generalizing memory with
  | nil => exact .inr ⟨_, memory, rfl, .refl memory, by simp⟩
  | cons arg rest ih =>
    rcases materializeValue_ends memory arg with ⟨stops, unfit⟩ | ⟨answer, after, returns, leaves, fit⟩
    · exact .inl ⟨bind_of_none stops, by simp [unfit]⟩
    · rw [materializeArgs]
      cases answer with
      | none =>
        have unfit : ¬ arg.fits = true := fun fits => nomatch fit.mp fits
        exact .inr ⟨none, after, bind_of_eq returns, leaves, by simp [unfit]⟩
      | some isNil =>
        have first : arg.fits = true ↔ isNil = false := by simpa using fit
        rcases ih after with ⟨stops, unfit⟩ | ⟨others, final, returns', leaves', fits⟩
        · left
          refine ⟨(congrArg Prod.fst (bind_of_eq returns)).trans (bind_of_none stops), ?_⟩
          rw [List.all_cons, Bool.and_eq_true]
          exact fun all => unfit all.2
        · right
          cases others with
          | none =>
            refine ⟨none, final, (bind_of_eq returns).trans (bind_of_eq returns'), leaves.trans leaves', ?_⟩
            rw [List.all_cons, Bool.and_eq_true, fits]
            simp
          | some values =>
            refine ⟨some (isNil :: values), final, (bind_of_eq returns).trans (bind_of_eq returns'),
              leaves.trans leaves', ?_⟩
            rw [List.all_cons, Bool.and_eq_true, fits, first]
            simp

/-- The vector of arguments is allocated for the time of the call, where no value is nil. -/
theorem ends_cArgv {panics condition : Prop} {values : List Bool} {body : List Nat → Program Unit}
    (fits : true ∉ values) (kept : List Nat) (there : ∀ name ∈ kept, (memory.get name).isSome)
    (ends : ∀ argv memory, (∀ name ∈ kept ++ argv, (memory.get name).isSome) →
      (body argv).Ends memory panics condition) :
    (cArgv values body).Ends memory panics condition := by
  rw [cArgv]
  by_cases none : values = []
  · rw [if_pos none]
    exact ends [] memory (by simpa using there)
  · rw [if_neg none]
    simp only [if_neg fits]
    apply ends_withBlock
    apply ends
    intro name member
    rcases List.mem_append.mp member with old | new
    · obtain ⟨content, found⟩ := Option.isSome_iff_exists.mp (there name old)
      rw [Memory.get_malloc_of_get found]
      rfl
    · rw [List.mem_singleton.mp new, Memory.get_malloc_next]
      rfl

theorem ends_withArgs (strings : List Bytes) (args : List Argument) (result : Except Caught Unit) :
    (withArgs strings args result).Ends memory (args.all Argument.fits → Throws result)
      (args.all Argument.fits → Throws result) := by
  apply ends_withCStrings strings [] nofun
  intro blocks memory there
  rcases materializeArgs_ends memory args with ⟨stops, unfit⟩ | ⟨answer, after, returns, leaves, fit⟩
  · exact .inl ⟨bind_of_none stops, fun fits => absurd fits unfit⟩
  · apply ends_bind returns leaves
    cases answer with
    | none => exact .inr (settles_pure () fun fits => nomatch (fit.mp fits))
    | some values =>
      have fit : args.all Argument.fits ↔ true ∉ values := by simpa using fit
      -- A nil value is dereferenced while the vector of the arguments is filled.
      by_cases isNil : true ∈ values
      · left
        have some : values ≠ [] := List.ne_nil_of_mem isNil
        refine ⟨?_, fun fits => absurd isNil (fit.mp fits)⟩
        simp only [cArgv, if_neg some, if_pos isNil]
        rfl
      · have fits : args.all Argument.fits = true := fit.mpr isNil
        have same : (args.all Argument.fits → Throws result) = Throws result := by simp [fits]
        rw [same]
        apply ends_cArgv isNil blocks
        · intro name member
          rw [leaves.same name List.not_mem_nil]
          exact there name member
        · intro argv memory there
          apply ends_bind (readAll_eq there) (.refl memory)
          exact .inr ((valueResult_settles result).bind_pure fun _ => ())

theorem ends_withValue (strings : List Bytes) (value : Argument) (result : Except Caught Unit) :
    (withValue strings value result).Ends memory (value.fits → Throws result) (value.fits → Throws result) := by
  rcases materializeValue_ends memory value with ⟨stops, unfit⟩ | ⟨answer, after, returns, leaves, fit⟩
  · exact .inl ⟨bind_of_none stops, by simp [unfit]⟩
  · apply ends_bind returns leaves
    cases answer with
    | none => exact .inr (settles_pure () fun fits => nomatch (fit.mp fits))
    | some isNil =>
      apply ends_withCStrings strings [] nofun
      intro blocks memory there
      cases isNil with
      | true => exact .inl ⟨rfl, fun fits => nomatch (fit.mp fits)⟩
      | false =>
        have same : (value.fits → Throws result) = Throws result := by simp [fit]
        rw [same]
        apply ends_bind (readAll_eq there) (.refl memory)
        exact .inr ((errorResult_settles result).bind_pure fun _ => ())

/-- The value of a rejection has a text, or its message has, or there is nothing else to tell. -/
def Rejected.Worded (rejected : Rejected) : Prop :=
  (∃ value ∈ rejected.value, hasText value) ∨ (∃ message ∈ rejected.message, hasText message.2) ∨
    rejected.message = none ∧ ∀ stack ∈ rejected.stack, rejected.value.isSome → ¬ hasText stack

theorem described_errorFromMessage (rejected : Rejected) : Described (errorFromMessage rejected) ↔ rejected.Worded := by
  obtain ⟨value, stack, message⟩ := rejected
  have msg : (errorFromMessage ⟨value, stack, message⟩).msg.isSome ↔
      (∃ text ∈ value, hasText text) ∨ ∃ sent ∈ message, hasText sent.2 := by
    rw [Option.isSome_iff_ne_none]
    cases value <;> cases message <;>
      simp [errorFromMessage, copyString_eq_none, or_iff_not_imp_left]
  have location : (errorFromMessage ⟨value, stack, message⟩).location = none ↔ message = none :=
    Option.map_eq_none_iff
  have stack : (errorFromMessage ⟨value, stack, message⟩).stack = none ↔
      ∀ text ∈ stack, value.isSome → ¬ hasText text := by
    cases value <;> simp [errorFromMessage, copyString_eq_none]
  rw [Described, msg, location, stack, Rejected.Worded, or_assoc]

theorem promiseReject_settles (rejected : Rejected) : (promiseReject rejected).Settles memory rejected.Worded := by
  rw [promiseReject, ← bind_assoc]
  exact ((place_newJSError _).bind_pure fun _ => ()).congr (described_errorFromMessage rejected)

theorem ends_hostFunctionCallback {panics : Prop} (argc : Nat) : (hostFunctionCallback argc).Ends memory panics True := by
  rw [hostFunctionCallback]
  by_cases none : argc = 0
  · rw [if_pos none]
    exact .inr (settles_pure () trivial)
  · rw [if_neg none]
    apply ends_withBlock
    have there : (readAll [memory.next, memory.next]) (memory.malloc (List.replicate (8 * argc) 0)) = _ :=
      readAll_eq fun name member => by simp_all [Memory.get_malloc_next]
    exact .inr ⟨_, _, [], there, .refl _, iff_of_true rfl trivial⟩

theorem ends_snapshotBuilderRunScript {panics : Prop} (built : Bool) (source resourceName : Bytes)
    (result : Except Caught Unit) :
    (snapshotBuilderRunScript result built source resourceName).Ends memory panics (built = false → Throws result) := by
  rw [snapshotBuilderRunScript]
  cases built with
  | false =>
    rw [if_neg Bool.false_ne_true]
    simpa using ends_errorOperation [source, resourceName] result
  | true =>
    rw [if_pos rfl]
    apply ends_withCStrings [source, resourceName] [] nofun
    intro blocks memory _
    rw [← bind_assoc]
    exact .inr (((place_newJSError _).bind_pure fun _ => ()).congr (iff_of_true (.inl rfl) nofun))

/-- The operations of the package that have buffers, with what V8 answers. -/
inductive Operation where
  | newValue (result : Except Caught Unit)
  | newStringValue (value : Bytes) (result : Except Caught Unit)
  | newErrorValue (value : Bytes) (result : Except Caught Unit)
  | jsonParse (value : Bytes) (result : Except Caught Unit)
  | objectGet (name : Bytes) (result : Except Caught Unit)
  | objectHas (name : Bytes)
  | objectSet (name : Bytes) (value : Argument) (result : Except Caught Unit)
  | objectSetIdx (value : Argument) (result : Except Caught Unit)
  | objectCallMethod (name : Bytes) (args : List Argument) (result : Except Caught Unit)
  | functionCall (args : List Argument) (result : Except Caught Unit)
  | runScript (source origin : Bytes) (result : Except Caught Unit)
  | compileUnboundScript (source resourceName : Bytes) (result : Except Caught Unit)
  | compileModule (source resourceName : Bytes) (result : Except Caught Unit)
  | settle (result : Except Caught Unit)
  | snapshotBuilderRunScript (built : Bool) (source resourceName : Bytes) (result : Except Caught Unit)
  | build (blob : Blob)
  | stringValue (result : Except Caught Text)
  | jsonStringify (result : Except Caught Text)
  | bytes (content : Option Bytes) (mallocZero : Bool)
  | promiseReject (rejected : Rejected)
  | hostFunctionCallback (argc : Nat)

namespace Operation

def program : Operation → Program Unit
  | newValue result => Buffers.newValue result
  | newStringValue value result => Buffers.newStringValue result value
  | newErrorValue value result => Buffers.newErrorValue result value
  | jsonParse value result => Buffers.jsonParse result value
  | objectGet name result => Buffers.objectGet result name
  | objectHas name => Buffers.objectHas name
  | objectSet name value result => Buffers.objectSet name value result
  | objectSetIdx value result => Buffers.objectSetIdx value result
  | objectCallMethod name args result => Buffers.objectCallMethod name args result
  | functionCall args result => Buffers.functionCall args result
  | runScript source origin result => Buffers.runScript result source origin
  | compileUnboundScript source resourceName result => Buffers.compileUnboundScript result source resourceName
  | compileModule source resourceName result => Buffers.compileModule result source resourceName
  | settle result => Buffers.settle result
  | snapshotBuilderRunScript built source resourceName result =>
    Buffers.snapshotBuilderRunScript result built source resourceName
  | build blob => Buffers.build blob
  | stringValue result => Buffers.stringValue result
  | jsonStringify result => Buffers.jsonStringify result
  | bytes content mallocZero => Buffers.bytes content mallocZero
  | promiseReject rejected => Buffers.promiseReject rejected
  | hostFunctionCallback argc => Buffers.hostFunctionCallback argc

/-- Where V8 is asked, it throws what has a text or nothing else, and bytes have a length that
Go does not take for 0. -/
def Sound : Operation → Prop
  | objectHas _ | build _ | hostFunctionCallback _ => True
  | objectSet _ value result | objectSetIdx value result => value.fits → Throws result
  | objectCallMethod _ args result | functionCall args result => args.all Argument.fits → Throws result
  | snapshotBuilderRunScript built _ _ result => built = false → Throws result
  | stringValue result | jsonStringify result => Throws result
  | bytes content mallocZero => Filled content mallocZero
  | promiseReject rejected => rejected.Worded
  | newValue result | newStringValue _ result | newErrorValue _ result | jsonParse _ result | objectGet _ result
  | runScript _ _ result | compileUnboundScript _ _ result | compileModule _ _ result | settle result => Throws result

theorem ends (op : Operation) (memory : Memory) : op.program.Ends memory op.Sound op.Sound := by
  cases op with
  | objectHas name =>
    apply ends_withCStrings [name] [] nofun
    intro blocks memory there
    exact .inr ⟨_, _, [], readAll_eq there, .refl memory, iff_of_true rfl trivial⟩
  | objectSet name value result => exact ends_withValue [name] value result
  | objectSetIdx value result => exact ends_withValue [] value result
  | objectCallMethod name args result => exact ends_withArgs [name] args result
  | functionCall args result => exact ends_withArgs [] args result
  | settle result => exact ends_errorOperation [] result
  | snapshotBuilderRunScript built source resourceName result =>
    exact ends_snapshotBuilderRunScript built source resourceName result
  | build blob => exact ends_build blob
  | stringValue result => exact .inr ((stringResult_settles result).bind_pure fun _ => ())
  | jsonStringify result => exact .inr ((stringResult_settles result).bind_pure fun _ => ())
  | bytes content mallocZero => exact ends_bytes content mallocZero
  | promiseReject rejected => exact .inr (promiseReject_settles rejected)
  | hostFunctionCallback argc => exact ends_hostFunctionCallback argc
  | newValue result => exact ends_valueOperation _ result
  | newStringValue value result => exact ends_valueOperation _ result
  | newErrorValue value result => exact ends_valueOperation _ result
  | jsonParse value result => exact ends_valueOperation _ result
  | objectGet name result => exact ends_valueOperation _ result
  | runScript source origin result => exact ends_valueOperation _ result
  | compileUnboundScript source resourceName result => exact ends_valueOperation _ result
  | compileModule source resourceName result => exact ends_valueOperation _ result

end Operation

/-- Whenever an operation returns, every block that was allocated for it has been freed once,
and none was read that was gone: this holds in every memory just when the operation is sound. -/
theorem buffers_freed_iff (op : Operation) : op.program.Frees ↔ op.Sound :=
  frees_iff op.ends

/-- `throw ""` at a place in a script: no message, but a location. -/
def emptyThrow : Caught := ⟨some [], some ⟨bytesOf "main.js", some 1, some 0⟩, none⟩

theorem location_leaked :
    ¬ (Operation.runScript (bytesOf "throw ''") (bytesOf "main.js") (.error emptyThrow)).program.Frees := by
  intro frees
  let empty : Memory := ⟨.empty 0, 0⟩
  let ended := (Operation.runScript (bytesOf "throw ''") (bytesOf "main.js") (.error emptyThrow)).program empty
  have returns : ended.1 = some () := by decide +kernel
  have left : (ended.2.get 2).isSome := by decide +kernel
  have leaves := frees empty () ended.2 (Prod.ext returns rfl)
  rw [leaves.same 2 List.not_mem_nil] at left
  cases left

end Gv8.Buffers
