import ZhuoduControl.Library.Crash
import ZhuoduControl.Settings.Store

/-! Factory reset and the marker switch of `global_init`, cut by power losses at any
byte written to the FRAM. -/

set_option autoImplicit false

namespace ZhuoduControl.Settings

open ZhuoduControl.Library
open ZhuoduControl.Data

def writeEeprom (eeInit : U16) : List (Nat × U8) :=
  Memory.block 0 (LittleEndian.encode 2 eeInit.toNat)

def writeFactory (addr : Nat) : List (Nat × U8) :=
  Memory.block addr (cFactorySetting.load addr (e2pSize - addr))

/-- Both resets: one marker, the factory settings from `addr` on, another marker. -/
def markedReset (eeIng eeOver : U16) (addr : Nat) : List (Nat × U8) :=
  writeEeprom eeIng ++ writeFactory addr ++ writeEeprom eeOver

def restoreFactorySettings : List (Nat × U8) :=
  markedReset eeResetFactoryIng eeResetFactoryOver eeUnprotected

def fullResetEeprom : List (Nat × U8) :=
  markedReset eeFullRecoveryIng eeFullRecoveryOver 2

/-- The switch over the marker in `global_init`. -/
def globalInitSwitch (fram : Memory U8) : List (Nat × U8) :=
  if eeprom fram = eeFullRecoveryIng then fullResetEeprom
  else if eeprom fram = eeFullRecoveryOver then []
  else if eeprom fram = eeResetFactoryIng then restoreFactorySettings
  else if eeprom fram = eeResetFactoryOver then []
  else fullResetEeprom

def Finished (fram : Memory U8) : Prop :=
  eeprom fram = eeFullRecoveryOver ∨ eeprom fram = eeResetFactoryOver

instance (fram : Memory U8) : Decidable (Finished fram) :=
  inferInstanceAs (Decidable (_ ∨ _))

/-- The bytes between the marker and `unprotected`. -/
def Protected (address : Nat) : Prop := 2 ≤ address ∧ address < eeUnprotected

def Unprotected (address : Nat) : Prop := eeUnprotected ≤ address ∧ address < e2pSize

structure SurvivesPowerLoss (before after : Memory U8) : Prop where
  finished : Finished after
  whole : (∀ address, Unprotected address → after address = before address) ∨
    ∀ address, Unprotected address → after address = cFactorySetting address
  kept : ∀ address, Protected address → after address = before address

/-- The power fails after `count` bytes of the reset and during the start-ups that
follow, until one completes. -/
def resetWithPowerLoss (image : Memory U8) (count : Nat) (restarts : List Nat) : Memory U8 :=
  Crash.restarts globalInitSwitch (Crash.cut image restoreFactorySettings count) restarts

/-- The cut that tears the first marker of a reset: from `EE_FULL_RECOVERY_OVER` both
bytes change, and between them the image has a marker no start-up knows. -/
def TornMarker (image : Memory U8) (count : Nat) : Prop :=
  eeprom image = eeFullRecoveryOver ∧ count = 1

theorem writeEeprom_eq (eeInit : U16) :
    writeEeprom eeInit = [(0, Word.lowByte eeInit), (1, Word.highByte eeInit)] := by
  have low : BitVec.ofNat 8 eeInit.toNat = Word.lowByte eeInit := by
    refine BitVec.eq_of_toNat_eq ?_
    simp [Word.lowByte]
  have high : BitVec.ofNat 8 (eeInit.toNat / 256) = Word.highByte eeInit := by
    refine BitVec.eq_of_toNat_eq ?_
    simp [Word.highByte, Nat.shiftRight_eq_div_pow]
  simp only [writeEeprom, LittleEndian.encode, low, high, Memory.block_cons, Memory.block_nil]

theorem writeEeprom_length (eeInit : U16) : (writeEeprom eeInit).length = 2 := by
  rw [writeEeprom_eq]
  rfl

theorem writeFactory_cells {addr : Nat} :
    ∀ write ∈ writeFactory addr, addr ≤ write.1 := by
  intro write member
  obtain ⟨index, _, place⟩ := Memory.mem_block.mp member
  rw [place]
  exact Nat.le_add_right _ _

theorem writeEeprom_cells {eeInit : U16} : ∀ write ∈ writeEeprom eeInit, write.1 < 2 := by
  intro write member
  rw [writeEeprom_eq] at member
  simp only [List.mem_cons, List.not_mem_nil, or_false] at member
  rcases member with rfl | rfl
  · exact Nat.zero_lt_two
  · exact Nat.one_lt_two

theorem cut_writeEeprom_behind (fram : Memory U8) (eeInit : U16) (count : Nat) {address : Nat}
    (behind : 2 ≤ address) :
    Crash.cut fram (writeEeprom eeInit) count address = fram address :=
  Crash.cut_untouched fram count fun write member same =>
    absurd (writeEeprom_cells write member) (by omega)

theorem eeprom_cut_writeEeprom (fram : Memory U8) (eeInit : U16) (count : Nat) :
    eeprom (Crash.cut fram (writeEeprom eeInit) count) =
      match count with
      | 0 => eeprom fram
      | 1 => Word.bigEndian (Word.highByte (eeprom fram)) (Word.lowByte eeInit)
      | _ => eeInit := by
  rw [writeEeprom_eq]
  match count with
  | 0 => rfl
  | 1 => simp [Crash.cut, eeprom, Memory.set]
  | _ + 2 => simp [Crash.cut, eeprom, Memory.set]

theorem eeprom_cut_writeFactory (fram : Memory U8) {addr : Nat} (behind : 2 ≤ addr)
    (count : Nat) : eeprom (Crash.cut fram (writeFactory addr) count) = eeprom fram := by
  have kept : ∀ address, address < 2 →
      Crash.cut fram (writeFactory addr) count address = fram address := by
    intro address inMarker
    refine Crash.cut_untouched fram count fun write member same => ?_
    have lower := writeFactory_cells write member
    omega
  rw [eeprom, kept 0 (by decide), kept 1 (by decide), eeprom]

theorem setAll_writeFactory (fram : Memory U8) {addr address : Nat} (lower : addr ≤ address)
    (upper : address < e2pSize) :
    fram.setAll (writeFactory addr) address = cFactorySetting address :=
  Memory.store_load_inside fram cFactorySetting lower (by omega)

section MarkedReset

variable {eeIng eeOver : U16} {addr : Nat}

/-- What a reset that has written its first marker may have left. -/
inductive Marked (eeIng eeOver : U16) (addr : Nat) (fram : Memory U8) : Prop
  | underway (marked : eeprom fram = eeIng)
  | done (marked : eeprom fram = eeOver)
      (factory : ∀ address, addr ≤ address → address < e2pSize →
        fram address = cFactorySetting address)

/-- A start-up that finds the first byte of the second marker finds one of the two. -/
def TearsSafely (eeIng eeOver : U16) : Prop :=
  Word.bigEndian (Word.highByte eeIng) (Word.lowByte eeOver) = eeIng ∨
    Word.bigEndian (Word.highByte eeIng) (Word.lowByte eeOver) = eeOver

private theorem eeprom_opened (fram : Memory U8) (eeInit : U16) :
    eeprom (fram.setAll (writeEeprom eeInit)) = eeInit := by
  rw [← Crash.cut_complete fram (Nat.le_of_eq (writeEeprom_length eeInit))]
  exact eeprom_cut_writeEeprom fram eeInit 2

private theorem marked_closing (safe : TearsSafely eeIng eeOver) (behind : 2 ≤ addr)
    (fram : Memory U8) (marked : eeprom fram = eeIng) (count : Nat) :
    Marked eeIng eeOver addr
      (Crash.cut (fram.setAll (writeFactory addr)) (writeEeprom eeOver) count) := by
  let body := fram.setAll (writeFactory addr)
  have word : eeprom body = eeIng := by
    rw [← marked, ← eeprom_cut_writeFactory fram behind (writeFactory addr).length,
      Crash.cut_complete fram (Nat.le_refl _)]
  have factory : ∀ address, addr ≤ address → address < e2pSize →
      Crash.cut body (writeEeprom eeOver) count address = cFactorySetting address := by
    intro address lower upper
    rw [cut_writeEeprom_behind body eeOver count (Nat.le_trans behind lower)]
    exact setAll_writeFactory fram lower upper
  have after := eeprom_cut_writeEeprom body eeOver count
  match count with
  | 0 => exact .underway (after.trans word)
  | 1 =>
      simp only [word] at after
      rcases safe with same | same
      · exact .underway (after.trans same)
      · exact .done (after.trans same) factory
  | _ + 2 => exact .done after factory

/-- A cut of a reset tears its first marker or leaves one of its two markers, the second
with the factory settings. -/
theorem markedReset_cut (safe : TearsSafely eeIng eeOver) (behind : 2 ≤ addr)
    (fram : Memory U8) (count : Nat) :
    (count ≤ 1 ∧ Crash.cut fram (markedReset eeIng eeOver addr) count =
        Crash.cut fram (writeEeprom eeIng) count) ∨
      (2 ≤ count ∧
        Marked eeIng eeOver addr (Crash.cut fram (markedReset eeIng eeOver addr) count)) := by
  have opened := eeprom_opened fram eeIng
  have parts := Crash.cut_parts fram (writeEeprom eeIng) (writeFactory addr)
    (writeEeprom eeOver) count
  rw [writeEeprom_length] at parts
  unfold markedReset
  rcases parts with ⟨early, opening⟩ | ⟨late, ⟨done, body⟩ | ⟨done, closing⟩⟩
  · rcases Nat.lt_or_ge count 2 with torn | whole
    · exact .inl ⟨Nat.le_of_lt_succ torn, opening⟩
    · obtain rfl : count = 2 := Nat.le_antisymm early whole
      refine .inr ⟨whole, .underway ?_⟩
      rw [opening]
      exact eeprom_cut_writeEeprom fram eeIng 2
  · refine .inr ⟨late, .underway ?_⟩
    rw [body, eeprom_cut_writeFactory _ behind, opened]
  · refine .inr ⟨late, ?_⟩
    rw [closing]
    exact marked_closing safe behind _ opened done

theorem markedReset_completes (behind : 2 ≤ addr) (fram : Memory U8) :
    eeprom (fram.setAll (markedReset eeIng eeOver addr)) = eeOver ∧
      ∀ address, addr ≤ address → address < e2pSize →
        fram.setAll (markedReset eeIng eeOver addr) address = cFactorySetting address := by
  unfold markedReset
  rw [Memory.setAll_append]
  refine ⟨eeprom_opened _ eeOver, ?_⟩
  intro address lower upper
  rw [← Crash.cut_complete _ (Nat.le_refl _),
    cut_writeEeprom_behind _ eeOver _ (Nat.le_trans behind lower), Memory.setAll_append]
  exact setAll_writeFactory _ lower upper

theorem markedReset_before (fram : Memory U8) (count : Nat) {address : Nat}
    (lower : 2 ≤ address) (upper : address < addr) :
    Crash.cut fram (markedReset eeIng eeOver addr) count address = fram address := by
  refine Crash.cut_untouched fram count ?_
  intro write member same
  rcases List.mem_append.mp member with earlier | marker
  · rcases List.mem_append.mp earlier with marker | settings
    · have below := writeEeprom_cells write marker
      omega
    · have above := writeFactory_cells write settings
      omega
  · have below := writeEeprom_cells write marker
    omega

end MarkedReset

theorem reset_tearsSafely : TearsSafely eeResetFactoryIng eeResetFactoryOver :=
  .inl (by decide)

theorem recovery_tearsSafely : TearsSafely eeFullRecoveryIng eeFullRecoveryOver :=
  .inr (by decide)

private theorem unprotected_behind : 2 ≤ eeUnprotected := by
  rw [eeUnprotected_eq]
  decide

theorem switch_finished {fram : Memory U8} (finished : Finished fram) :
    globalInitSwitch fram = [] := by
  unfold globalInitSwitch
  rcases finished with marked | marked
  · rw [marked]
    rfl
  · rw [marked]
    rfl

theorem switch_resetting {fram : Memory U8} (marked : eeprom fram = eeResetFactoryIng) :
    globalInitSwitch fram = restoreFactorySettings := by
  unfold globalInitSwitch
  rw [marked]
  rfl

inductive Resetting (image : Memory U8) : Memory U8 → Prop
  | untouched (finished : Finished image) : Resetting image image
  | begun {fram : Memory U8}
      (marked : Marked eeResetFactoryIng eeResetFactoryOver eeUnprotected fram)
      (kept : ∀ address, Protected address → fram address = image address) :
      Resetting image fram

private theorem resetting_cut {image fram : Memory U8} (count : Nat)
    (resetting : Resetting image fram) :
    Resetting image (Crash.cut fram (globalInitSwitch fram) count) := by
  cases resetting with
  | untouched finished =>
      rw [switch_finished finished, Crash.cut_nil]
      exact .untouched finished
  | begun marked kept =>
      cases marked with
      | underway marked =>
          rw [switch_resetting marked]
          have before : ∀ address, Protected address →
              Crash.cut fram restoreFactorySettings count address = image address := by
            rintro address ⟨lower, upper⟩
            rw [← kept address ⟨lower, upper⟩]
            exact markedReset_before fram count lower upper
          refine .begun ?_ before
          rcases markedReset_cut reset_tearsSafely unprotected_behind fram count with
            ⟨early, opening⟩ | ⟨_, marked⟩
          · -- the first marker is written over itself
            have after := eeprom_cut_writeEeprom fram eeResetFactoryIng count
            rw [marked, ← opening] at after
            refine .underway (after.trans ?_)
            match count with
            | 0 => rfl
            | 1 => rfl
          · exact marked
      | done marked factory =>
          rw [switch_finished (.inr marked), Crash.cut_nil]
          exact .begun (.done marked factory) kept

private theorem resetting_completes {image fram : Memory U8} (resetting : Resetting image fram) :
    SurvivesPowerLoss image (fram.setAll (globalInitSwitch fram)) := by
  cases resetting with
  | untouched finished =>
      rw [switch_finished finished]
      exact ⟨finished, .inl fun _ _ => rfl, fun _ _ => rfl⟩
  | begun marked kept =>
      cases marked with
      | underway marked =>
          rw [switch_resetting marked]
          obtain ⟨ended, factory⟩ := markedReset_completes unprotected_behind fram
          refine ⟨.inr ended, .inr fun address inside => factory address inside.1 inside.2, ?_⟩
          rintro address ⟨lower, upper⟩
          rw [← kept address ⟨lower, upper⟩]
          exact Crash.cut_complete fram (Nat.le_refl _) ▸ markedReset_before fram _ lower upper
      | done marked factory =>
          rw [switch_finished (.inr marked)]
          exact ⟨.inr marked, .inr fun address inside => factory address inside.1 inside.2, kept⟩

/-- The marker between the two bytes of a reset that starts from
`EE_FULL_RECOVERY_OVER`. -/
def tornMarker : U16 := 0x6016

inductive Recovering (fram : Memory U8) : Prop
  | torn (marked : eeprom fram = tornMarker)
  | begun (marked : Marked eeFullRecoveryIng eeFullRecoveryOver 2 fram)

theorem switch_recovering {fram : Memory U8}
    (marked : eeprom fram = tornMarker ∨ eeprom fram = eeFullRecoveryIng) :
    globalInitSwitch fram = fullResetEeprom := by
  unfold globalInitSwitch
  rcases marked with marked | marked
  · rw [marked]
    rfl
  · rw [marked]
    rfl

private theorem recovering_cut {fram : Memory U8} (count : Nat) (recovering : Recovering fram) :
    Recovering (Crash.cut fram (globalInitSwitch fram) count) := by
  have cutting := markedReset_cut recovery_tearsSafely (Nat.le_refl 2) fram count
  have after := eeprom_cut_writeEeprom fram eeFullRecoveryIng count
  cases recovering with
  | torn marked =>
      rw [switch_recovering (.inl marked)]
      rcases cutting with ⟨early, opening⟩ | ⟨_, begun⟩
      · rw [marked, ← opening] at after
        match count with
        | 0 => exact .torn after
        | 1 => exact .begun (.underway after)
      · exact .begun begun
  | begun marked =>
      cases marked with
      | underway marked =>
          rw [switch_recovering (.inr marked)]
          rcases cutting with ⟨early, opening⟩ | ⟨_, begun⟩
          · rw [marked, ← opening] at after
            match count with
            | 0 => exact .begun (.underway after)
            | 1 => exact .begun (.underway after)
          · exact .begun begun
      | done marked factory =>
          rw [switch_finished (.inl marked), Crash.cut_nil]
          exact .begun (.done marked factory)

private theorem recovering_completes {fram : Memory U8} (recovering : Recovering fram) :
    eeprom (fram.setAll (globalInitSwitch fram)) = eeFullRecoveryOver ∧
      ∀ address, 2 ≤ address → address < e2pSize →
        fram.setAll (globalInitSwitch fram) address = cFactorySetting address := by
  cases recovering with
  | torn marked =>
      rw [switch_recovering (.inl marked)]
      exact markedReset_completes (Nat.le_refl 2) fram
  | begun marked =>
      cases marked with
      | underway marked =>
          rw [switch_recovering (.inr marked)]
          exact markedReset_completes (Nat.le_refl 2) fram
      | done marked factory =>
          rw [switch_finished (.inl marked)]
          exact ⟨marked, factory⟩

private theorem resetting_of_intact {image : Memory U8} (finished : Finished image) {count : Nat}
    (intact : ¬ TornMarker image count) :
    Resetting image (Crash.cut image restoreFactorySettings count) := by
  rcases markedReset_cut reset_tearsSafely unprotected_behind image count with
    ⟨early, opening⟩ | ⟨_, marked⟩
  · match count with
    | 0 => exact .untouched finished
    | 1 =>
        rcases finished with ended | ended
        · exact absurd ⟨ended, rfl⟩ intact
        · -- both markers of a reset have this low byte
          have low : image 0 = Word.lowByte eeResetFactoryIng := (eeprom_eq_iff.mp ended).1
          have same : Crash.cut image restoreFactorySettings 1 = image := by
            unfold restoreFactorySettings
            rw [opening, writeEeprom_eq]
            exact Memory.set_self low
          rw [same]
          exact .untouched (.inr ended)
  · exact .begun marked fun address inside =>
      markedReset_before image count inside.1 inside.2

private theorem recovering_of_torn {image : Memory U8} {count : Nat}
    (torn : TornMarker image count) :
    Recovering (Crash.cut image restoreFactorySettings count) := by
  obtain ⟨ended, rfl⟩ := torn
  rcases markedReset_cut reset_tearsSafely unprotected_behind image 1 with
    ⟨_, opening⟩ | ⟨late, _⟩
  · have after := eeprom_cut_writeEeprom image eeResetFactoryIng 1
    rw [ended, ← opening] at after
    exact .torn after
  · exact absurd late (by decide)

/-- A reset survives every pattern of power losses except the one that tears its first
marker on an image whose protected bytes are not the factory's. -/
theorem reset_survives_iff (image : Memory U8) (finished : Finished image) (count : Nat)
    (restarts : List Nat) :
    SurvivesPowerLoss image (resetWithPowerLoss image count restarts) ↔
      ¬ (TornMarker image count ∧
        ∃ address, Protected address ∧ image address ≠ cFactorySetting address) := by
  unfold resetWithPowerLoss
  by_cases torn : TornMarker image count
  · obtain ⟨last, recovering, after⟩ := Crash.restarts_invariant
      (fun _ count => recovering_cut count) (recovering_of_torn torn) restarts
    obtain ⟨ended, factory⟩ := recovering_completes recovering
    rw [after]
    have inStore : ∀ address, Protected address → 2 ≤ address ∧ address < e2pSize := by
      rintro address ⟨lower, upper⟩
      rw [eeUnprotected_eq] at upper
      rw [e2pSize_eq]
      exact ⟨lower, by omega⟩
    constructor
    · rintro survives ⟨_, address, inside, different⟩
      obtain ⟨lower, upper⟩ := inStore address inside
      exact different ((survives.kept address inside).symm.trans (factory address lower upper))
    · intro equal
      refine ⟨.inl ended, .inr fun address inside => ?_, fun address inside => ?_⟩
      · exact factory address (Nat.le_trans unprotected_behind inside.1) inside.2
      · obtain ⟨lower, upper⟩ := inStore address inside
        by_contra different
        refine equal ⟨torn, address, inside, fun same => different ?_⟩
        exact (factory address lower upper).trans same.symm
  · obtain ⟨last, resetting, after⟩ := Crash.restarts_invariant
      (fun _ count => resetting_cut count) (resetting_of_intact finished torn) restarts
    rw [after]
    exact iff_of_true (resetting_completes resetting) fun both => torn both.1

def usedImage : Memory U8 :=
  E2PField.password.write 123456 cFactorySetting

theorem reset_survives_iff_late_cut :
    Finished usedImage ∧
      (SurvivesPowerLoss usedImage (resetWithPowerLoss usedImage 20 [1, 30]) ↔
        ¬ (TornMarker usedImage 20 ∧
          ∃ address, Protected address ∧ usedImage address ≠ cFactorySetting address)) :=
  ⟨by decide +kernel, reset_survives_iff usedImage (by decide +kernel) 20 [1, 30]⟩

/-- The power fails after the first byte of the first marker: the next start-up takes
the image for an empty one and writes the factory password. -/
theorem reset_torn_marker_loses_password :
    ¬ ∀ (image : Memory U8) (count : Nat) (restarts : List Nat), Finished image →
      SurvivesPowerLoss image (resetWithPowerLoss image count restarts) := by
  intro always
  have inside : Protected 8 := by
    rw [Protected, eeUnprotected_eq]
    decide
  have kept := (always usedImage 1 [] (by decide +kernel)).kept 8 inside
  revert kept
  decide +kernel

end ZhuoduControl.Settings
