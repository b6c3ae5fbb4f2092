import Mathlib.Data.List.Induction
import ZhuoduControl.Drivers.Fm24clxx

/-! For which ranges the FRAM driver is a memory of 2048 bytes. -/

set_option autoImplicit false

namespace ZhuoduControl.Drivers

open ZhuoduControl.Library
open ZhuoduControl.Data

structure FramRange where
  pos : U32
  size : U32
  inside : pos.toNat ≤ cfgSize.toNat

namespace FramRange

variable (range : FramRange)

/-- The bytes of the range that lie in the array. -/
def count : Nat := min range.size.toNat (cfgSize.toNat - range.pos.toNat)

def Covers (address : Nat) : Prop :=
  range.pos.toNat ≤ address ∧ address < range.pos.toNat + range.count

instance (address : Nat) : Decidable (range.Covers address) :=
  inferInstanceAs (Decidable (_ ∧ _))

/-- The sum of the second check does not wrap, and the range begins in the page that is
always selected. -/
def Addressable : Prop :=
  range.pos.toNat + range.size.toNat < 2 ^ 32 ∧ (range.pos.toNat < 256 ∨ range.count = 0)

def write (retries : Nat) (device : Fm24cl16) (buffer : Memory U8) : DriverResult :=
  fm24clxxWrite retries device range.pos buffer range.size

def read (retries : Nat) (device : Fm24cl16) (buffer : Memory U8) : DriverResult :=
  fm24clxxRead retries device range.pos buffer range.size

structure WriteFaithful (device : Fm24cl16) (buffer : Memory U8) (result : DriverResult) :
    Prop where
  reported : result.ret.toNat = range.count
  stored : result.device.array.memory =
    device.array.memory.store range.pos.toNat (buffer.load 0 range.count)

structure ReadFaithful (device : Fm24cl16) (buffer : Memory U8) (result : DriverResult) :
    Prop where
  reported : result.ret.toNat = range.count
  returned : result.buffer =
    buffer.store 0 (device.array.memory.load range.pos.toNat range.count)
  unchanged : result.device.array.memory = device.array.memory

/-- Whatever the device holds, both calls do what a memory does. -/
def CallFaithful : Prop :=
  ∀ retries device buffer,
    range.WriteFaithful device buffer (range.write retries device buffer) ∧
      range.ReadFaithful device buffer (range.read retries device buffer)

end FramRange

structure FramWrite where
  range : FramRange
  buffer : Memory U8

def FramWrite.run (retries : Nat) (device : Fm24cl16) (write : FramWrite) : Fm24cl16 :=
  (write.range.write retries device write.buffer).device

/-- The byte of the last write that covers the address, or what was there before. -/
def lastWritten (memory : Memory U8) (writes : List FramWrite) : Memory U8 :=
  fun address =>
    match writes.reverse.find? fun write => decide (write.range.Covers address) with
    | some write => write.buffer (address - write.range.pos.toNat)
    | none => memory address

structure Faithful (range : FramRange) : Prop where
  call : range.CallFaithful
  /-- after writes to ranges of this kind -/
  sequence : ∀ writes : List FramWrite, (∀ write ∈ writes, write.range.CallFaithful) →
    ∀ retries device buffer,
      (range.read retries (writes.foldl (FramWrite.run retries) device) buffer).buffer =
        buffer.store 0
          ((lastWritten device.array.memory writes).load range.pos.toNat range.count)

namespace FramRange

variable (range : FramRange)

theorem clampSize_of_wrapping (wraps : 2 ^ 32 ≤ range.pos.toNat + range.size.toNat) :
    clampSize range.pos range.size = some range.size := by
  have inside := range.inside
  have array : cfgSize.toNat = 2048 := rfl
  have wide := range.size.isLt
  have sum : (range.pos + range.size).toNat = range.pos.toNat + range.size.toNat - 2 ^ 32 := by
    rw [BitVec.toNat_add]
    omega
  rw [clampSize, if_neg (Nat.not_lt_of_le inside), if_neg]
  omega

theorem clampSize_of_fitting (fits : range.pos.toNat + range.size.toNat < 2 ^ 32) :
    ∃ size, clampSize range.pos range.size = some size ∧ size.toNat = range.count := by
  have inside := range.inside
  have sum : (range.pos + range.size).toNat = range.pos.toNat + range.size.toNat := by
    rw [BitVec.toNat_add, Nat.mod_eq_of_lt fits]
  rw [clampSize, if_neg (Nat.not_lt_of_le inside), sum]
  by_cases beyond : cfgSize.toNat < range.pos.toNat + range.size.toNat
  · refine ⟨cfgSize - range.pos, if_pos beyond, ?_⟩
    rw [BitVec.toNat_sub_of_le (BitVec.le_def.mpr inside), count]
    omega
  · refine ⟨range.size, if_neg beyond, ?_⟩
    rw [count]
    omega

section Run

variable (retries : Nat) (device : Fm24cl16) (buffer : Memory U8)

theorem count_le : range.pos.toNat + range.count ≤ 2048 := by
  have inside := range.inside
  have array : cfgSize.toNat = 2048 := rfl
  unfold count
  omega

/-- Without wrapping, the transfers move `count` bytes from the address in page 0. -/
theorem write_of_fitting (fits : range.pos.toNat + range.size.toNat < 2 ^ 32) :
    (range.write retries device buffer).ret.toNat = range.count ∧
      (range.write retries device buffer).device.array.memory =
        device.array.memory.store (range.pos.toNat % 256) (buffer.load 0 range.count) := by
  obtain ⟨size, clamped, whole⟩ := range.clampSize_of_fitting fits
  have bound := range.count_le
  have length : (size.setWidth 16 : U16).toNat = range.count := by
    rw [BitVec.toNat_setWidth, whole]
    omega
  simp only [write, fm24clxxWrite, clamped, bitXfer_write, if_true, length]
  refine ⟨whole, ?_⟩
  have latch := addressed_latch device range.pos
  rw [SerialMemory.writeAll_memory, latch]
  · rfl
  · rw [latch, Memory.load_length]
    omega

theorem read_of_fitting (fits : range.pos.toNat + range.size.toNat < 2 ^ 32) :
    let result := range.read retries device buffer
    result.ret.toNat = range.count ∧
      result.buffer =
        buffer.store 0 (device.array.memory.load (range.pos.toNat % 256) range.count) ∧
      result.device.array.memory = device.array.memory := by
  obtain ⟨size, clamped, whole⟩ := range.clampSize_of_fitting fits
  have bound := range.count_le
  have length : (size.setWidth 16 : U16).toNat = range.count := by
    rw [BitVec.toNat_setWidth, whole]
    omega
  simp only [read, fm24clxxRead, clamped, bitXfer_read, if_true, length]
  have latch := addressed_latch device range.pos
  refine ⟨whole, ?_, ?_⟩
  · rw [SerialMemory.readAll_values, latch]
    · rfl
    · rw [latch]
      omega
  · exact SerialMemory.readAll_memory ..

end Run

theorem addressable_callFaithful (addressable : range.Addressable) : range.CallFaithful := by
  obtain ⟨fits, start⟩ := addressable
  intro retries device buffer
  obtain ⟨written, stored⟩ := range.write_of_fitting retries device buffer fits
  obtain ⟨read, returned, unchanged⟩ := range.read_of_fitting retries device buffer fits
  rcases start with firstPage | nothing
  · rw [Nat.mod_eq_of_lt firstPage] at stored returned
    exact ⟨⟨written, stored⟩, ⟨read, returned, unchanged⟩⟩
  · rw [nothing] at stored returned
    refine ⟨⟨written, ?_⟩, ⟨read, ?_, unchanged⟩⟩
    · rw [nothing]
      exact stored
    · rw [nothing]
      exact returned

/-- A write of ones over zeros shows where it begins. -/
theorem addressable_of_callFaithful (faithful : range.CallFaithful) : range.Addressable := by
  let zeros : Fm24cl16 := ⟨⟨fun _ => 0, 0⟩, false⟩
  obtain ⟨⟨reported, stored⟩, _⟩ := faithful 0 zeros fun _ => 1
  have bound := range.count_le
  have fits : range.pos.toNat + range.size.toNat < 2 ^ 32 := by
    by_contra wraps
    have clamped := range.clampSize_of_wrapping (Nat.le_of_not_lt wraps)
    have whole : (range.write 0 zeros fun _ => 1).ret = range.size := by
      simp only [write, fm24clxxWrite, clamped, bitXfer_write, if_true]
    rw [whole] at reported
    omega
  refine ⟨fits, ?_⟩
  by_contra outside
  obtain ⟨behind, some⟩ := not_or.mp outside
  have landed := (range.write_of_fitting 0 zeros (fun _ => 1) fits).2
  have begins : range.pos.toNat % 256 < range.pos.toNat := by omega
  have one := congrFun landed (range.pos.toNat % 256)
  rw [congrFun stored, Memory.store_outside _ _ _ (.inl begins)] at one
  have first := Memory.store_inside zeros.array.memory (range.pos.toNat % 256)
    (Memory.load (fun _ => (1 : U8)) 0 range.count) 0
    (by rw [Memory.load_length]; exact Nat.pos_of_ne_zero some)
  rw [Memory.load_getElem, Nat.add_zero] at first
  cases one.trans first

end FramRange

theorem lastWritten_snoc_apply (memory : Memory U8) (writes : List FramWrite) (write : FramWrite)
    (address : Nat) :
    lastWritten memory (writes ++ [write]) address =
      if write.range.Covers address then write.buffer (address - write.range.pos.toNat)
      else lastWritten memory writes address := by
  unfold lastWritten
  rw [List.reverse_append, List.reverse_cons, List.reverse_nil, List.nil_append,
    List.singleton_append, List.find?_cons]
  by_cases covers : write.range.Covers address
  · simp only [decide_eq_true covers, if_pos covers]
  · simp only [decide_eq_false covers, if_neg covers]

theorem lastWritten_snoc (memory : Memory U8) (writes : List FramWrite) (write : FramWrite) :
    lastWritten memory (writes ++ [write]) =
      (lastWritten memory writes).store write.range.pos.toNat
        (write.buffer.load 0 write.range.count) := by
  funext address
  rw [lastWritten_snoc_apply]
  by_cases covers : write.range.Covers address
  · obtain ⟨lower, upper⟩ := covers
    obtain ⟨index, rfl⟩ := Nat.exists_eq_add_of_le lower
    have bound : index < (write.buffer.load 0 write.range.count).length := by
      rw [Memory.load_length]
      omega
    rw [if_pos ⟨lower, upper⟩, Memory.store_inside _ _ _ _ bound, Memory.load_getElem,
      Nat.add_sub_cancel_left, Nat.zero_add]
  · rw [if_neg covers, Memory.store_outside]
    rw [Memory.load_length]
    unfold FramRange.Covers at covers
    omega

theorem writes_memory {writes : List FramWrite}
    (faithful : ∀ write ∈ writes, write.range.CallFaithful) (retries : Nat) (device : Fm24cl16) :
    (writes.foldl (FramWrite.run retries) device).array.memory =
      lastWritten device.array.memory writes := by
  induction writes using List.reverseRecOn with
  | nil => rfl
  | append_singleton earlier write ih =>
      have before := ih fun other member => faithful other (by simp [member])
      rw [List.foldl_append, List.foldl_cons, List.foldl_nil, lastWritten_snoc, ← before]
      exact ((faithful write (by simp)) retries _ write.buffer).1.stored

theorem framFaithful_iff (range : FramRange) : Faithful range ↔ range.Addressable := by
  constructor
  · exact fun faithful => range.addressable_of_callFaithful faithful.call
  · intro addressable
    have call := range.addressable_callFaithful addressable
    refine ⟨call, ?_⟩
    intro writes faithful retries device buffer
    have read := (call retries (writes.foldl (FramWrite.run retries) device) buffer).2
    rw [read.returned, writes_memory faithful]

/-- A write to address 256 lands in address 0. -/
theorem fram_second_page_aliases : ¬ ∀ range, Faithful range := by
  intro always
  have faithful := (always ⟨256, 1, by decide⟩).call
  rcases (FramRange.addressable_of_callFaithful _ faithful).2 with firstPage | nothing
  · exact absurd firstPage (by decide)
  · exact absurd nothing (by decide)

end ZhuoduControl.Drivers
