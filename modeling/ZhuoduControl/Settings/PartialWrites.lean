import ZhuoduControl.Settings.FactoryReset

/-! The resets when the FRAM stores only the first bytes of what a write is given. Neither
reset reads what `rt_device_write` returns, so each goes on to its next write. -/

set_option autoImplicit false

namespace ZhuoduControl.Settings

open ZhuoduControl.Library
open ZhuoduControl.Data

/-- How many bytes each write of a reset stores; a count past its end stores all. -/
structure Stored where
  opening : Nat
  settings : Nat
  closing : Nat

inductive Reset
  | restoreFactorySettings
  | fullResetEeprom
deriving DecidableEq, Repr

namespace Reset

def eeIng : Reset → U16
  | .restoreFactorySettings => eeResetFactoryIng
  | .fullResetEeprom => eeFullRecoveryIng

def eeOver : Reset → U16
  | .restoreFactorySettings => eeResetFactoryOver
  | .fullResetEeprom => eeFullRecoveryOver

def addr : Reset → Nat
  | .restoreFactorySettings => eeUnprotected
  | .fullResetEeprom => 2

def opened (reset : Reset) (stored : Stored) : List (Nat × U8) :=
  (writeEeprom reset.eeIng).take stored.opening ++
    (writeFactory reset.addr).take stored.settings

/-- The bytes a reset stores, in order. -/
def writes (reset : Reset) (stored : Stored) : List (Nat × U8) :=
  reset.opened stored ++ (writeEeprom reset.eeOver).take stored.closing

/-- After `count` stored bytes, at least one of them a byte of the closing marker. -/
def Closing (reset : Reset) (stored : Stored) (count : Nat) : Prop :=
  (reset.opened stored).length < count ∧ count ≤ (reset.writes stored).length

/-- Whenever the closing marker has made the image a finished one, the reset has left
every byte it is responsible for as the factory has it. -/
def OverTruthful (reset : Reset) (stored : Stored) (image : Memory U8) : Prop :=
  ∀ count, reset.Closing stored count →
    Finished (Crash.cut image (reset.writes stored) count) →
      ∀ address, reset.addr ≤ address → address < e2pSize →
        Crash.cut image (reset.writes stored) count address = cFactorySetting address

/-- The byte that the first byte of the closing marker joins. -/
def highInPlace (reset : Reset) (stored : Stored) (image : Memory U8) : U8 :=
  if 2 ≤ stored.opening then Word.highByte reset.eeIng else image 1

/-- The closing write stores too little for either final marker. -/
def LeavesUnmarked (reset : Reset) (stored : Stored) (image : Memory U8) : Prop :=
  stored.closing = 0 ∨
    (stored.closing = 1 ∧ reset.highInPlace stored image ≠ Word.highByte reset.eeOver)

/-- No byte the settings write misses differs from the factory's. -/
def MissesNothing (reset : Reset) (stored : Stored) (image : Memory U8) : Prop :=
  ∀ address, reset.addr + stored.settings ≤ address → address < e2pSize →
    image address = cFactorySetting address

theorem behind (reset : Reset) : 2 ≤ reset.addr := by
  cases reset with
  | restoreFactorySettings =>
      rw [addr, eeUnprotected_eq]
      decide
  | fullResetEeprom => exact Nat.le_refl 2

theorem finished_iff (reset : Reset) {fram : Memory U8}
    (low : fram 0 = Word.lowByte reset.eeOver) :
    Finished fram ↔ fram 1 = Word.highByte reset.eeOver := by
  unfold Finished
  rw [eeprom_eq_iff, eeprom_eq_iff, low]
  cases reset with
  | restoreFactorySettings => simp [eeOver, eeFullRecoveryOver, eeResetFactoryOver, Word.lowByte]
  | fullResetEeprom => simp [eeOver, eeFullRecoveryOver, eeResetFactoryOver, Word.lowByte]

section Image

variable (reset : Reset) (stored : Stored) (image : Memory U8)

theorem opened_marker :
    image.setAll (reset.opened stored) 1 = reset.highInPlace stored image := by
  unfold opened highInPlace
  rw [Memory.setAll_append, Memory.setAll_untouched, ← Crash.cut, writeEeprom_eq]
  · rcases stored.opening with _ | _ | _
    · rfl
    · rfl
    · simp [Crash.cut]
  · intro write member same
    have lower := writeFactory_cells write (List.mem_of_mem_take member)
    have upper := reset.behind
    omega

theorem opened_settings {address : Nat} (lower : reset.addr ≤ address)
    (upper : address < e2pSize) :
    image.setAll (reset.opened stored) address =
      if address < reset.addr + stored.settings then cFactorySetting address
      else image address := by
  have marker : image.setAll ((writeEeprom reset.eeIng).take stored.opening) address =
      image address :=
    cut_writeEeprom_behind image reset.eeIng stored.opening (Nat.le_trans reset.behind lower)
  rw [opened, Memory.setAll_append, writeFactory, Memory.block_take, Memory.load_take,
    ← Memory.store]
  split
  · exact Memory.store_load_inside _ _ lower (by omega)
  · rw [Memory.store_outside, marker]
    rw [Memory.load_length]
    omega

theorem cut_closing {count : Nat} (closing : reset.Closing stored count) :
    ∃ done, 0 < done ∧ done ≤ stored.closing ∧
      Crash.cut image (reset.writes stored) count =
        Crash.cut (image.setAll (reset.opened stored)) (writeEeprom reset.eeOver) done := by
  obtain ⟨begun, inside⟩ := closing
  rw [writes, List.length_append, List.length_take] at inside
  refine ⟨count - (reset.opened stored).length, Nat.sub_pos_of_lt begun, by omega, ?_⟩
  rw [writes, Crash.cut_append, Crash.cut_complete image (Nat.le_of_lt begun), Crash.cut,
    List.take_take, Nat.min_eq_left (by omega), ← Crash.cut]

/-- What a finished image of the closing marker is made of. -/
theorem closed_marker (done : Nat) (closing : 0 < done) :
    Finished (Crash.cut (image.setAll (reset.opened stored)) (writeEeprom reset.eeOver) done) ↔
      2 ≤ done ∨ reset.highInPlace stored image = Word.highByte reset.eeOver := by
  have marker := reset.opened_marker stored image
  rw [writeEeprom_eq]
  match done with
  | 1 =>
      rw [reset.finished_iff (by simp [Crash.cut]), ← marker]
      simp [Crash.cut, Memory.set]
  | rest + 2 =>
      rw [reset.finished_iff (by simp [Crash.cut, Memory.set])]
      simp [Crash.cut]

theorem closed_settings (done : Nat) {address : Nat} (lower : reset.addr ≤ address)
    (upper : address < e2pSize) :
    Crash.cut (image.setAll (reset.opened stored)) (writeEeprom reset.eeOver) done address =
      if address < reset.addr + stored.settings then cFactorySetting address
      else image address := by
  rw [cut_writeEeprom_behind _ _ _ (Nat.le_trans reset.behind lower)]
  exact reset.opened_settings stored image lower upper

end Image

/-- The final marker is true exactly when the settings write misses no byte that differs
from the factory's, or the closing write stores too little for a final marker. -/
theorem overTruthful_iff (reset : Reset) (stored : Stored) (image : Memory U8) :
    reset.OverTruthful stored image ↔
      reset.MissesNothing stored image ∨ reset.LeavesUnmarked stored image := by
  constructor
  · intro truthful
    by_cases unmarked : reset.LeavesUnmarked stored image
    · exact .inr unmarked
    · refine .inl fun address missed upper => ?_
      have lower : reset.addr ≤ address := Nat.le_trans (Nat.le_add_right _ _) missed
      have stores : 0 < stored.closing := by
        by_contra none
        exact unmarked (.inl (Nat.eq_zero_of_not_pos none))
      have whole : reset.Closing stored (reset.writes stored).length := by
        refine ⟨?_, Nat.le_refl _⟩
        rw [writes, List.length_append, List.length_take, writeEeprom_length]
        omega
      have last : Crash.cut image (reset.writes stored) (reset.writes stored).length =
          Crash.cut (image.setAll (reset.opened stored)) (writeEeprom reset.eeOver)
            stored.closing := by
        rw [Crash.cut_complete image (Nat.le_refl _), writes, Memory.setAll_append, Crash.cut]
      have marked : Finished
          (Crash.cut image (reset.writes stored) (reset.writes stored).length) := by
        rw [last, reset.closed_marker stored image _ stores]
        by_contra neither
        obtain ⟨short, high⟩ := not_or.mp neither
        exact unmarked (.inr ⟨by omega, high⟩)
      have factory := truthful _ whole marked address lower upper
      rw [last, reset.closed_settings stored image _ lower upper,
        if_neg (Nat.not_lt.mpr missed)] at factory
      exact factory
  · rintro enough count closing finished address lower upper
    obtain ⟨done, begun, within, state⟩ := reset.cut_closing stored image closing
    rw [state] at finished ⊢
    rw [reset.closed_settings stored image done lower upper]
    split
    · rfl
    · rename_i missed
      rcases enough with nothing | unmarked
      · exact nothing address (Nat.not_lt.mp missed) upper
      · rw [reset.closed_marker stored image done begun] at finished
        rcases unmarked with none | ⟨one, high⟩
        · omega
        · rcases finished with two | same
          · omega
          · exact absurd same high

/-- An empty FRAM that stores both markers and not one byte of the settings: it now has
the final marker in front of a password of `0xFFFFFFFF`. -/
theorem over_marker_without_settings :
    ¬ ∀ (reset : Reset) (stored : Stored) (image : Memory U8),
      reset.OverTruthful stored image := by
  intro always
  have closing : fullResetEeprom.Closing ⟨2, 0, 2⟩ 4 := by
    constructor <;> decide
  have password := always .fullResetEeprom ⟨2, 0, 2⟩ (fun _ => 0xFF) 4 closing
    (by decide +kernel) 8 (by decide) (by decide +kernel)
  revert password
  decide +kernel

end Reset

end ZhuoduControl.Settings
