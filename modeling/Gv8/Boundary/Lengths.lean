import Gv8.Boundary.Freeing
import Gv8.Boundary.Numbers

/-! Lengths that cross the boundary: a Go int, a C int, a size_t and a uint32_t.

A handle is here the JavaScript value that it holds. -/

set_option autoImplicit false

namespace Gv8.Lengths

open Foundation
open Operations (Go GoError ensureOpen refuse freshContext Opens enter_iff opens_iff)
open Buffers (valueBytes bytesResult goBytes copy)

/-- An ArrayBuffer; JavaScript has none that is longer. -/
structure ArrayBuffer where
  data : Bytes
  length_lt : data.length < 2 ^ 53

structure View where
  buffer : ArrayBuffer
  byteOffset : Nat
  byteLength : Nat
  within : byteOffset + byteLength ≤ buffer.data.length

structure TypedArray extends View where
  width : Nat
  occupied : 0 < width
  whole : width ∣ byteLength

def View.content (view : View) : Bytes := (view.buffer.data.drop view.byteOffset).take view.byteLength

def TypedArray.elements (view : TypedArray) : Nat := view.byteLength / view.width

inductive JsValue where
  | array (length : UInt32)
  | arrayBuffer (buffer : ArrayBuffer)
  | typedArray (view : TypedArray)
  | dataView (view : View)
  | string (length : Nat) (length_lt : length < 2 ^ 31)
  | object
  | primitive

inductive Reading where
  | throws
  | unconverted
  | number (value : Double)

/-- A value, with what scripts have put as its `length`, on itself or on a prototype. The
`length` of an array and of a string cannot be replaced. -/
structure Subject where
  value : JsValue
  shadow : Option Reading

theorem View.byteLength_lt (view : View) : view.byteLength < 2 ^ 53 := by
  have bound := view.buffer.length_lt
  have within := view.within
  omega

theorem TypedArray.elements_lt (view : TypedArray) : view.elements < 2 ^ 53 :=
  lt_of_le_of_lt (Nat.div_le_self _ _) view.byteLength_lt

def Subject.length (subject : Subject) : Reading :=
  match subject.value with
  | .array length => .number (.ofCount length.toNat (lt_trans length.toNat_lt (by decide)))
  | .string length length_lt => .number (.ofCount length (lt_trans length_lt (by decide)))
  | .typedArray view => subject.shadow.getD (.number (.ofCount view.elements view.elements_lt))
  | .arrayBuffer _ | .dataView _ | .object | .primitive => subject.shadow.getD (.number .nan)

namespace Native

def copySize (length : Int) : Nat := if 0 < length then length.toNat else 0

def copyStore (data : Bytes) (length : Int) : Bytes := data.take (copySize length)

theorem copySize_lt (length : Int) (fits : length < 2 ^ 31) : copySize length < 2 ^ 31 := by
  unfold copySize
  split <;> omega

theorem copyStore_length_lt (data : Bytes) (length : Int) (fits : length < 2 ^ 31) :
    (copyStore data length).length < 2 ^ 31 :=
  lt_of_le_of_lt (List.length_take_le _ _) (copySize_lt length fits)

def copyBuffer (data : Bytes) : ArrayBuffer :=
  ⟨copyStore data (cInt data.length), lt_trans (copyStore_length_lt data _ (cInt_lt _)) (by decide)⟩

def newArrayBufferCopy (data : Bytes) : JsValue := .arrayBuffer (copyBuffer data)

def newUint8ArrayCopy (data : Bytes) : JsValue := .typedArray
  { buffer := copyBuffer data
    byteOffset := 0
    byteLength := (copyBuffer data).data.length
    within := by omega
    width := 1
    occupied := Nat.one_pos
    whole := Nat.one_dvd _ }

def newArray (length : UInt32) : JsValue := .array (UInt32.ofNat (copySize (cInt length.toNat)))

def content : JsValue → Option Bytes
  | .arrayBuffer buffer => some buffer.data
  | .typedArray view => some view.content
  | .dataView view => some view.content
  | .array _ | .string .. | .object | .primitive => none

/-- The lengths that GV8ValueLen knows without asking for the property. -/
def fastLength : JsValue → Option UInt32
  | .array length => some length
  | .arrayBuffer buffer => some (UInt32.ofNat buffer.data.length)
  | .typedArray view => some (UInt32.ofNat view.byteLength)
  | .dataView view => some (UInt32.ofNat view.byteLength)
  | .string length _ => some (UInt32.ofNat length)
  | .object => none
  | .primitive => some 0

def valueLen (subject : Subject) : UInt32 :=
  match fastLength subject.value with
  | some length => length
  | none =>
    match subject.length with
    | .number value => value.toUint32
    | .throws | .unconverted => 0

end Native

structure Held where
  subject : Subject
  ctx : Operations.Context

/-- `v.Bytes()`: the checks, and then what is done with the memory of C. -/
def Held.bytes (mallocZero : Bool) (held : Held) : Go (Program (Except Operations.JSError Bytes)) :=
  if held.ctx.isClosed then refuse Operations.invalidValueError
  else do
    held.ctx.iso.enter
    return do bytesResult (← valueBytes (Native.content held.subject.value) mallocZero)

def Held.len (held : Held) : Go UInt32 :=
  if held.ctx.isClosed then pure 0
  else do
    held.ctx.iso.mustEnter
    return Native.valueLen held.subject

def Held.objectLen (held : Held) : Go UInt32 := if held.ctx.isClosed then pure 0 else held.len

section operations

variable (shadow : Option Reading) (ctx : Option Operations.Context)

/-- A new value; scripts may have given its prototype a `length`. -/
def inContext (value : JsValue) : Go Held := do
  let ctx ← ensureOpen ctx
  ctx.iso.enter
  return ⟨⟨value, shadow⟩, ctx⟩

def newArrayBufferCopy (data : Bytes) : Go Held := inContext shadow ctx (Native.newArrayBufferCopy data)

def newUint8ArrayCopy (data : Bytes) : Go Held := inContext shadow ctx (Native.newUint8ArrayCopy data)

def newArray (length : UInt32) : Go Held := inContext shadow ctx (Native.newArray length)

end operations

section bytes

variable (content : Bytes) (mallocZero : Bool) (memory : Memory)

abbrev readBytes : Program (Except Operations.JSError Bytes) := do
  bytesResult (← valueBytes (some content) mallocZero)

/-- The end of Bytes, when there is a block and its length is not 0. -/
theorem deferred_goBytes (length : Int) :
    (Program.deferFree (some memory.next) (do return .ok (← goBytes (some memory.next) length) :
        Program (Except Operations.JSError Bytes)) (memory.malloc content)).1 =
      if length < 0 then none else some (.ok (content.take length.toNat)) := by
  rw [Program.deferFree]
  unfold goBytes
  by_cases negative : length < 0
  · rw [if_pos negative, if_pos negative]
    rfl
  · rw [if_neg negative, if_neg negative]
    have found : (memory.malloc content).get memory.next = some content := Memory.get_malloc_next
    exact congrArg Prod.fst (Program.bind_of_eq (Program.read_bind found _))

/-- A copy whose length is nothing to Go, is negative, or may be too short. -/
theorem readBytes_eq : (readBytes content mallocZero memory).1 =
    if cInt content.length = 0 then some (.ok [])
    else if cInt content.length < 0 then none
    else some (.ok (content.take (cInt content.length).toNat)) := by
  by_cases empty : content.length = 0 ∧ mallocZero = false
  -- malloc has no block for no bytes, and there is none to free
  · have zero : cInt content.length = 0 := by
      rw [empty.1]
      rfl
    rw [if_pos zero, readBytes, valueBytes, if_pos empty]
    rfl
  · have copied : readBytes content mallocZero memory =
        bytesResult ⟨some memory.next, cInt content.length, ⟨none, none, none⟩⟩ (memory.malloc content) := by
      rw [readBytes, valueBytes, if_neg empty]
      rfl
    rw [copied, Buffers.bytesResult_eq]
    by_cases zero : cInt content.length = 0
    · rw [if_pos zero, if_pos (.inr zero)]
      rfl
    · rw [if_neg zero, if_neg (not_or.mpr ⟨Option.some_ne_none _, zero⟩)]
      exact deferred_goBytes content memory _

/-- The bytes come out as they are just where their number fits an int. -/
theorem readBytes_exact_iff : (readBytes content mallocZero memory).1 = some (.ok content) ↔ content.length < 2 ^ 31 := by
  rw [readBytes_eq]
  constructor
  · intro same
    by_contra large
    -- the int is the length less a multiple of 2^32: too small wherever it is not negative
    have short := cInt_of_large (not_lt.mp large)
    split at same
    · have nothing : [] = content := Except.ok.inj (Option.some.inj same)
      rw [← nothing] at large
      exact large (by decide)
    · split at same
      · cases same
      · have whole : content.take (cInt content.length).toNat = content := Except.ok.inj (Option.some.inj same)
        have count := congrArg List.length whole
        rw [List.length_take] at count
        omega
  · intro small
    rw [cInt_of_small small]
    by_cases empty : content = []
    · rw [empty]
      rfl
    · have occupied : 0 < content.length := List.length_pos_iff.mpr empty
      rw [if_neg (by omega), if_neg (by omega), Int.toNat_natCast, List.take_length]

end bytes

theorem copyStore_eq_iff (data : Bytes) : Native.copyStore data (cInt data.length) = data ↔ data.length < 2 ^ 31 := by
  constructor
  · intro same
    have bound := Native.copyStore_length_lt data _ (cInt_lt data.length)
    rwa [same] at bound
  · intro small
    rw [Native.copyStore, Native.copySize, cInt_of_small small]
    by_cases empty : data = []
    · rw [empty]
      rfl
    · have occupied : 0 < data.length := List.length_pos_iff.mpr empty
      rw [if_pos (by omega), Int.toNat_natCast, List.take_length]

/-- Bytes returns this content. -/
def Held.Reads (mallocZero : Bool) (held : Held) (content : Bytes) : Prop :=
  ∃ program, (held.bytes mallocZero).ending = .returned program ∧ ∀ memory, (program memory).1 = some (.ok content)

section held

variable {held : Held}

theorem len_eq (usable : held.ctx.Usable) : held.len.ending = .returned (Native.valueLen held.subject) := by
  rw [Held.len, if_neg (by simp [usable.isOpen]), usable.enterable.mustEnter_eq]
  rfl

theorem objectLen_eq (usable : held.ctx.Usable) : held.objectLen.ending = .returned (Native.valueLen held.subject) := by
  rw [Held.objectLen, if_neg (by simp [usable.isOpen])]
  exact len_eq usable

theorem bytes_eq (usable : held.ctx.Usable) (mallocZero : Bool) : (held.bytes mallocZero).ending =
    .returned (do bytesResult (← valueBytes (Native.content held.subject.value) mallocZero)) := by
  rw [Held.bytes, if_neg (by simp [usable.isOpen]), usable.enterable.enter_eq]
  rfl

theorem reads_iff (usable : held.ctx.Usable) (mallocZero : Bool) {content : Bytes}
    (found : Native.content held.subject.value = some content) :
    held.Reads mallocZero content ↔ content.length < 2 ^ 31 := by
  have asked : (held.bytes mallocZero).ending = .returned (readBytes content mallocZero) := by
    rw [bytes_eq usable, found]
  constructor
  · intro ⟨program, returned, exact⟩
    cases asked.symm.trans returned
    exact (readBytes_exact_iff content mallocZero ⟨.empty 0, 0⟩).mp (exact _)
  · intro small
    exact ⟨_, asked, fun memory => (readBytes_exact_iff content mallocZero memory).mpr small⟩

theorem bytes_fails_or_usable (held : Held) (mallocZero : Bool) :
    (held.bytes mallocZero).Fails ∧ ¬ held.ctx.Usable ∨ held.ctx.Usable := by
  by_cases usable : held.ctx.Usable
  · exact .inr usable
  · refine .inl ⟨?_, usable⟩
    unfold Held.bytes
    split
    · exact ⟨_, rfl⟩
    · next isOpen =>
      refine (enter_iff Logged.Fails fun err => ⟨err, rfl⟩).mpr fun enterable => ?_
      exact absurd ⟨by simpa using isOpen, enterable⟩ usable

end held

/-- A value is made in an open context of an isolate that can be entered, and nowhere else. -/
theorem inContext_cases (shadow : Option Reading) (ctx : Option Operations.Context) (value : JsValue) :
    (inContext shadow ctx value).Fails ∧ (¬ ∃ opened, Opens ctx opened) ∨
      ∃ opened, Opens ctx opened ∧ (inContext shadow ctx value).ending = .returned ⟨⟨value, shadow⟩, opened⟩ := by
  by_cases opens : ∃ opened, Opens ctx opened
  · obtain ⟨opened, rfl, usable⟩ := opens
    refine .inr ⟨opened, ⟨rfl, usable⟩, ?_⟩
    rw [inContext, ensureOpen, if_neg (by simp [usable.isOpen]), Logged.pure_bind, usable.enterable.enter_eq]
    rfl
  · refine .inl ⟨?_, opens⟩
    exact (opens_iff Logged.Fails fun err => ⟨err, rfl⟩).mpr fun opened found => absurd ⟨opened, found⟩ opens

inductive Crossing where
  | arrayBufferCopy (ctx : Option Operations.Context) (data : Bytes)
  | uint8ArrayCopy (ctx : Option Operations.Context) (data : Bytes)
  | array (ctx : Option Operations.Context) (length : UInt32)
  | bytes (held : Held)

namespace Crossing

section survives

variable (shadow : Option Reading) (mallocZero : Bool)

def Copies (made : Go Held) (data : Bytes) : Prop :=
  made.Fails ∨ ∃ held, made.ending = .returned held ∧ held.Reads mallocZero data ∧
    ∃ length, held.len.ending = .returned length ∧ length.toNat = data.length

/-- The length comes out as it went in, or the operation reports an error. -/
def Survives : Crossing → Prop
  | arrayBufferCopy ctx data => Copies mallocZero (newArrayBufferCopy shadow ctx data) data
  | uint8ArrayCopy ctx data => Copies mallocZero (newUint8ArrayCopy shadow ctx data) data
  | array ctx length => let made := newArray shadow ctx length
    made.Fails ∨ ∃ held, made.ending = .returned held ∧ held.len.ending = .returned length
  | bytes held => ∀ content, Native.content held.subject.value = some content →
      (held.bytes mallocZero).Fails ∨ held.Reads mallocZero content

def Fits : Crossing → Prop
  | arrayBufferCopy ctx data | uint8ArrayCopy ctx data => (∃ opened, Opens ctx opened) → data.length < 2 ^ 31
  | array ctx length => (∃ opened, Opens ctx opened) → length.toNat < 2 ^ 31
  | bytes held => held.ctx.Usable → ∀ content, Native.content held.subject.value = some content → content.length < 2 ^ 31

variable {shadow mallocZero}

theorem copies_iff {ctx : Option Operations.Context} {data : Bytes} {value : JsValue}
    (content : Native.content value = some (Native.copyStore data (cInt data.length)))
    (length : Native.valueLen ⟨value, shadow⟩ = UInt32.ofNat (Native.copyStore data (cInt data.length)).length) :
    Copies mallocZero (inContext shadow ctx value) data ↔ ((∃ opened, Opens ctx opened) → data.length < 2 ^ 31) := by
  rcases inContext_cases shadow ctx value with ⟨fails, closed⟩ | ⟨opened, opens, returned⟩
  · exact iff_of_true (.inl fails) fun opens => absurd opens closed
  · rw [forall_prop_of_true ⟨opened, opens⟩, ← copyStore_eq_iff]
    have reading := @reads_iff ⟨⟨value, shadow⟩, opened⟩ opens.2 mallocZero _ content
    constructor
    · rintro (⟨err, failed⟩ | ⟨held, made, reads, _⟩)
      · cases returned.symm.trans failed
      · cases returned.symm.trans made
        obtain ⟨program, asked, exact⟩ := reads
        have small := Native.copyStore_length_lt data _ (cInt_lt data.length)
        obtain ⟨program', asked', exact'⟩ := reading.mpr small
        cases asked.symm.trans asked'
        have same := (exact' ⟨.empty 0, 0⟩).symm.trans (exact ⟨.empty 0, 0⟩)
        exact Except.ok.inj (Option.some.inj same)
    · intro same
      have small := (copyStore_eq_iff data).mp same
      rw [same] at reading length
      refine .inr ⟨_, returned, reading.mpr small, _, @len_eq ⟨⟨value, shadow⟩, opened⟩ opens.2, ?_⟩
      rw [length, UInt32.toNat_ofNat']
      omega

theorem content_copyBuffer (data : Bytes) :
    Native.content (Native.newArrayBufferCopy data) = some (Native.copyStore data (cInt data.length)) := by
  rw [Native.newArrayBufferCopy, Native.content, Native.copyBuffer]

theorem valueLen_copyBuffer (data : Bytes) : Native.valueLen ⟨Native.newArrayBufferCopy data, shadow⟩ =
    UInt32.ofNat (Native.copyStore data (cInt data.length)).length := by
  simp only [Native.valueLen, Native.fastLength, Native.newArrayBufferCopy, Native.copyBuffer]

theorem content_copyView (data : Bytes) :
    Native.content (Native.newUint8ArrayCopy data) = some (Native.copyStore data (cInt data.length)) := by
  simp only [Native.newUint8ArrayCopy, Native.content, View.content, Native.copyBuffer, List.drop_zero, List.take_length]

theorem valueLen_copyView (data : Bytes) : Native.valueLen ⟨Native.newUint8ArrayCopy data, shadow⟩ =
    UInt32.ofNat (Native.copyStore data (cInt data.length)).length := by
  simp only [Native.valueLen, Native.fastLength, Native.newUint8ArrayCopy, Native.copyBuffer]

theorem copySize_array_iff (length : UInt32) :
    UInt32.ofNat (Native.copySize (cInt length.toNat)) = length ↔ length.toNat < 2 ^ 31 := by
  rw [← UInt32.toNat_inj, UInt32.toNat_ofNat']
  have bound := Native.copySize_lt (cInt length.toNat) (cInt_lt _)
  constructor
  · intro same
    omega
  · intro small
    rw [Native.copySize, cInt_of_small small]
    split <;> omega

theorem array_survives_iff (ctx : Option Operations.Context) (length : UInt32) :
    (array ctx length).Survives shadow mallocZero ↔ ((∃ opened, Opens ctx opened) → length.toNat < 2 ^ 31) := by
  rcases inContext_cases shadow ctx (Native.newArray length) with ⟨fails, closed⟩ | ⟨opened, opens, returned⟩
  · exact iff_of_true (.inl fails) fun opens => absurd opens closed
  · rw [forall_prop_of_true ⟨opened, opens⟩, ← copySize_array_iff]
    have asked := @len_eq ⟨⟨Native.newArray length, shadow⟩, opened⟩ opens.2
    constructor
    · rintro (⟨err, failed⟩ | ⟨held, made, same⟩)
      · cases returned.symm.trans failed
      · cases returned.symm.trans made
        exact Ending.returned.inj (asked.symm.trans same)
    · intro same
      refine .inr ⟨_, returned, asked.trans (congrArg _ ?_)⟩
      exact same

/-- A length comes out as it went in just where it fits a C int. -/
theorem lengths_survive_iff (crossing : Crossing) : crossing.Survives shadow mallocZero ↔ crossing.Fits := by
  cases crossing with
  | arrayBufferCopy ctx data => exact copies_iff (content_copyBuffer data) (valueLen_copyBuffer data)
  | uint8ArrayCopy ctx data => exact copies_iff (content_copyView data) (valueLen_copyView data)
  | array ctx length => exact array_survives_iff ctx length
  | bytes held =>
    rcases bytes_fails_or_usable held mallocZero with ⟨fails, closed⟩ | usable
    · exact iff_of_true (fun _ _ => .inl fails) fun usable => absurd usable closed
    · have steady : ¬ (held.bytes mallocZero).Fails := by
        intro ⟨err, failed⟩
        cases (bytes_eq usable mallocZero).symm.trans failed
      constructor
      · intro survives _ content found
        exact (reads_iff usable mallocZero found).mp ((survives content found).resolve_left steady)
      · intro fits content found
        exact .inr ((reads_iff usable mallocZero found).mpr (fits usable content found))

/-- A slice of 2^31 bytes comes back empty. -/
theorem long_slice_lost :
    ¬ (arrayBufferCopy (some (freshContext 0)) (List.replicate (2 ^ 31) 0)).Survives none true := by
  intro survives
  have fits := (copies_iff (content_copyBuffer _) (valueLen_copyBuffer _)).mp survives
  have small := fits ⟨freshContext 0, rfl, rfl, rfl, rfl⟩
  rw [List.length_replicate] at small
  exact absurd small (by decide)

end survives

end Crossing

def JsValue.byteLength : JsValue → Option Nat
  | .arrayBuffer buffer => some buffer.data.length
  | .typedArray view => some view.byteLength
  | .dataView view => some view.byteLength
  | .array _ | .string .. | .object | .primitive => none

namespace Subject

/-- Bytes count as elements: where there are bytes, their number is the length that JavaScript
reads, modulo 2^32. -/
def CountsBytes (subject : Subject) (length : UInt32) : Prop :=
  ∀ byteLength ∈ subject.value.byteLength, UInt32.ofNat byteLength = length

variable {subject : Subject} {length : Double}

theorem valueLen_eq_iff (reads : subject.length = .number length) (covered : subject.value ≠ .primitive) :
    Native.valueLen subject = length.toUint32 ↔ subject.CountsBytes length.toUint32 := by
  obtain ⟨value, shadow⟩ := subject
  cases value with
  | array count =>
    cases reads
    rw [toUint32_ofCount, UInt32.ofNat_toNat]
    exact iff_of_true rfl nofun
  | string count =>
    cases reads
    rw [toUint32_ofCount]
    exact iff_of_true rfl nofun
  | arrayBuffer buffer => simp [Native.valueLen, Native.fastLength, CountsBytes, JsValue.byteLength]
  | typedArray view => simp [Native.valueLen, Native.fastLength, CountsBytes, JsValue.byteLength]
  | dataView view => simp [Native.valueLen, Native.fastLength, CountsBytes, JsValue.byteLength]
  | object =>
    have same : Native.valueLen ⟨.object, shadow⟩ = length.toUint32 := by
      simp only [Native.valueLen, Native.fastLength, reads]
    exact iff_of_true same nofun
  | primitive => exact absurd rfl covered

/-- A typed array with its own `length`: each element past the first of its bytes is one too many. -/
theorem countsBytes_typedArray (view : TypedArray) :
    CountsBytes ⟨.typedArray view, none⟩ (UInt32.ofNat view.elements) ↔ 2 ^ 32 ∣ view.elements * (view.width - 1) := by
  have bytes : view.byteLength = view.elements * view.width := (Nat.div_mul_cancel view.whole).symm
  have split : view.elements * view.width = view.elements * (view.width - 1) + view.elements := by
    obtain ⟨width, same⟩ := Nat.exists_eq_succ_of_ne_zero (Nat.pos_iff_ne_zero.mp view.occupied)
    rw [same]
    rfl
  have counted : CountsBytes ⟨.typedArray view, none⟩ (UInt32.ofNat view.elements) ↔
      UInt32.ofNat view.byteLength = UInt32.ofNat view.elements := by
    simp [CountsBytes, JsValue.byteLength]
  rw [counted, bytes, split, ← UInt32.toNat_inj, UInt32.toNat_ofNat', UInt32.toNat_ofNat']
  omega

end Subject

/-- Len is the length that JavaScript reads, just where no bytes are counted for it. For a typed
array with its own `length`, bytes must be elements. -/
theorem len_is_length_iff {held : Held} (usable : held.ctx.Usable) {length : Double}
    (reads : held.subject.length = .number length) (covered : held.subject.value ≠ .primitive) :
    ((held.len.ending = .returned length.toUint32 ∧ held.objectLen.ending = .returned length.toUint32) ↔
      held.subject.CountsBytes length.toUint32) ∧
    ∀ view, held.subject = ⟨.typedArray view, none⟩ →
      (held.subject.CountsBytes length.toUint32 ↔ 2 ^ 32 ∣ view.elements * (view.width - 1)) := by
  constructor
  · rw [len_eq usable, objectLen_eq usable, and_self, Ending.returned.injEq, Subject.valueLen_eq_iff reads covered]
  · intro view own
    rw [own] at reads ⊢
    cases reads
    rw [toUint32_ofCount, Subject.countsBytes_typedArray]

def wideArray : TypedArray where
  buffer := ⟨[1, 0, 2, 0, 3, 0], by decide⟩
  byteOffset := 0
  byteLength := 6
  within := by decide
  width := 2
  occupied := by decide
  whole := by decide

def wideArrayLength : Double := .ofCount 3 (by decide)

theorem len_is_length_iff_wide :
    ¬ ((⟨⟨.typedArray wideArray, none⟩, freshContext 0⟩ : Held).len.ending = .returned wideArrayLength.toUint32 ∧
      (⟨⟨.typedArray wideArray, none⟩, freshContext 0⟩ : Held).objectLen.ending = .returned wideArrayLength.toUint32) := by
  have rule := @len_is_length_iff ⟨⟨.typedArray wideArray, none⟩, freshContext 0⟩ ⟨rfl, rfl, rfl⟩ wideArrayLength rfl nofun
  rw [rule.1, rule.2 wideArray rfl]
  decide

/-- Len counts its bytes. -/
theorem wide_elements_miscounted :
    (⟨⟨.typedArray wideArray, none⟩, freshContext 0⟩ : Held).len.ending = .returned 6 ∧
      (⟨.typedArray wideArray, none⟩ : Subject).length = .number wideArrayLength ∧ wideArrayLength.toUint32 = 3 := by
  refine ⟨rfl, rfl, ?_⟩
  rw [wideArrayLength, toUint32_ofCount]
  rfl

end Gv8.Lengths
