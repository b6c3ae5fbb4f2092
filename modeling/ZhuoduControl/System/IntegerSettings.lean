import ZhuoduControl.Menu.NumberBoxSaves
import ZhuoduControl.Menu.SavingBoxes
import ZhuoduControl.System.MenuTables
import ZhuoduControl.System.NumberValue

/-! The integers that the pages store: each is converted to the type of its setting, and some
go through the `set_integer` of a number box and into the 16 bits of a message. -/

set_option autoImplicit false

namespace ZhuoduControl.System

open ZhuoduControl.Library
open ZhuoduControl.Library.DecimalText
open ZhuoduControl.Data
open ZhuoduControl.Modbus
open ZhuoduControl.Settings (E2PField Persisted)
open ZhuoduControl.Menu (MenuOp sends settings)
open ZhuoduControl.Menu.Box
open ZhuoduControl.Menu.BoxPages
open ZhuoduControl.Menu.Edit
open ZhuoduControl.Menu.Frame

/-- What `menu_slave_rs485_id` passes to its editor. -/
def slaveRs485Id (global : GlobalDef) : SetIntFloat :=
  ⟨.int8, .integer (global.zhuoduData.readHalf .zhuoduAddr).toNat, 1, 247⟩

/-- The case `SET_OK` of `menu_slave_rs485_id`, which no node of the menu has. -/
def menuSlaveRs485Id (retVal : Number) (world : PageWorld) : PageWorld :=
  let stored := world.assign ⟨.zhuoduAddr, .half (BitVec.ofNat 16 (toBits 16 retVal)), rfl⟩
  let byte := (stored.zhuodu.readHalf .zhuoduAddr).toNat
  { stored with
    device := { stored.device with fram := E2PField.zhuoduAddr.write byte stored.device.fram } }

/-- The pages that store an integer; `menu_signal_setup` has a target and a range. -/
inductive IntegerPage
  | signalTarget
  | signalRange
  | zeroTarget
  | rs485Id
  | slaveRs485Id
  | cleanInterval
  | cleanTime
  | tempCompensate
  | serialNo
  | password
  | caliPoint
  | rangeSelect
deriving DecidableEq

namespace IntegerPage

/-- The pages with `set_int_float_min_max` that are in the menu. -/
def numberFunc : IntegerPage → Option PageFunc
  | rs485Id => some .menuRs485Id
  | cleanInterval => some .menuCleanInterval
  | cleanTime => some .menuCleanTime
  | tempCompensate => some .menuTempCompensate
  | serialNo => some .menuSerialNoSetup
  | password => some .menuPasswordSetup
  | _ => none

/-- The setting under its declared type. -/
def member (global : GlobalDef) : IntegerPage → Int
  | signalTarget => (global.zhuoduData.readHalf .canbiSet).toInt
  | signalRange => (global.zhuoduData.readHalf .brightRange).toInt
  | zeroTarget => (global.zhuoduData.readHalf .canbiSet).toInt
  | rs485Id => global.commDeviceId.toNat
  | slaveRs485Id => (global.zhuoduData.readHalf .zhuoduAddr).toNat
  | cleanInterval => global.cleanInterval.toInt
  | cleanTime => global.cleanTime.toInt
  | tempCompensate => global.tempCompensate.toInt
  | serialNo => global.serialNo.toNat
  | password => global.password.toNat
  | caliPoint => (global.zhuoduData.readHalf .numCali).toNat
  | rangeSelect => (global.zhuoduData.readHalf .rangeSel).toInt

def boxShown (page : BoxPage) (index : Nat) (zhuodu : Zhuodu) : Int :=
  ((page.numbers zhuodu index).getD 0).toInt

def bodyShown (global : GlobalDef) : PageBody → Int
  | .number args => (args global).setData.toInt32
  | .select args => ((args global).currIndex % 256 : Nat)
  | _ => 0

/-- The number that the page opens with. -/
def shown (global : GlobalDef) : IntegerPage → Int
  | signalTarget => boxShown .signal 0 global.zhuoduData
  | signalRange => boxShown .signal 1 global.zhuoduData
  | zeroTarget => boxShown .zeroCali 0 global.zhuoduData
  | slaveRs485Id => (System.slaveRs485Id global).setData.toInt32
  | rs485Id => bodyShown global (pageBody .menuRs485Id)
  | cleanInterval => bodyShown global (pageBody .menuCleanInterval)
  | cleanTime => bodyShown global (pageBody .menuCleanTime)
  | tempCompensate => bodyShown global (pageBody .menuTempCompensate)
  | serialNo => bodyShown global (pageBody .menuSerialNoSetup)
  | password => bodyShown global (pageBody .menuPasswordSetup)
  -- the entries are `2`, `3` and `4`
  | caliPoint => bodyShown global (pageBody .menuLinearCaliPoint) + 2
  | rangeSelect => bodyShown global (pageBody .menuRangeSelect)

/-- The register that the page sends its integer to. -/
def register : IntegerPage → Option U16
  | signalTarget => some 256
  | signalRange => some 259
  | zeroTarget => some 256
  | caliPoint => some 291
  | rangeSelect => some 285
  | _ => none

/-- The register under the type of the member behind it. -/
def decoded (word : U16) : IntegerPage → Int
  | caliPoint => word.toNat
  | _ => word.toInt

end IntegerPage

/-- The messages to a register that a page has queued. -/
def sentTo (address : U16) (before after : PageWorld) : List ModbusMsg :=
  (after.queued.drop before.queued.length).filter fun msg => msg.dataAddr = address

/-- A page that has got to `statics` from the startup on is asked to save one of its boxes, and
the text of the box is an integer between its bounds. -/
structure BoxAccepts (clib : Clib) (page : BoxPage) (index : Nat) (statics : BoxPageStatics)
    (input : PageInput) (value : Int) : Prop where
  reached : Reached clib page statics
  saving : (statics.box index).boxStat = .saving
  key : input.msg = .downMenu
  read : (clib.sscanf (statics.box index).text).getD (input.uninit index) = .finite value
  lower : (statics.box index).min < value
  upper : value < (statics.box index).max

/-- `set_integer` after the call. -/
def savedInteger (clib : Clib) (page : BoxPage) (index : Nat) (statics : BoxPageStatics)
    (input : PageInput) : U32 :=
  ((page.call clib input statics).statics.box index).setInteger

/-- The button of a page is pressed, and the box has still the number `setInteger`. -/
structure Confirms (clib : Clib) (page : BoxPage) (index state : Nat) (setInteger : U32)
    (zhuodu : Zhuodu) (statics : BoxPageStatics) (press : PageInput) : Prop where
  reached : Reached clib page statics
  kept : (statics.box index).setInteger = setInteger
  state : statics.setStat = state
  key : press.msg = .downOk
  zhuodu : press.zhuodu = zhuodu

/-- An editor of the page accepts an integer, and the page stores it. `setInteger` is what it
has become in a number box. -/
inductive Stores (clib : Clib) (before : PageWorld) :
    IntegerPage → Int → Option U32 → PageWorld → Prop
  | number {page func args text uninit} {value : Int} (stale : U16)
      (own : page.numberFunc = some func) (body : pageBody func = .number args)
      (accepted : checkNumber (args before.device.global) uninit text = .ok (.finite value)) :
      Stores clib before page value none (saveNumber func stale (.finite value) before)
  | slaveRs485Id {text uninit} {value : Int}
      (accepted : checkNumber (slaveRs485Id before.device.global) uninit text =
        .ok (.finite value)) :
      Stores clib before .slaveRs485Id value none (menuSlaveRs485Id (.finite value) before)
  | rangeSelect {args} {retVal : Nat} (body : pageBody .menuRangeSelect = .select args)
      (inside : retVal < (args before.device.global).array.length) :
      Stores clib before .rangeSelect retVal none
        (saveSelected .menuRangeSelect (BitVec.ofNat 8 retVal) before)
  | caliPoint {args} {retVal : Nat} (body : pageBody .menuLinearCaliPoint = .select args)
      (inside : retVal < (args before.device.global).array.length) :
      Stores clib before .caliPoint (retVal + 2) none
        (saveSelected .menuLinearCaliPoint (BitVec.ofNat 8 retVal) before)
  | signalTarget {statics input value confirming press}
      (accepted : BoxAccepts clib .signal 0 statics input value)
      (confirmed : Confirms clib .signal 0 4 (savedInteger clib .signal 0 statics input)
        before.zhuodu confirming press) :
      Stores clib before .signalTarget value (some (savedInteger clib .signal 0 statics input))
        (before.performAll (BoxPage.signal.call clib press confirming).ops)
  | signalRange {statics input value confirming press}
      (accepted : BoxAccepts clib .signal 1 statics input value)
      (confirmed : Confirms clib .signal 1 4 (savedInteger clib .signal 1 statics input)
        before.zhuodu confirming press) :
      Stores clib before .signalRange value (some (savedInteger clib .signal 1 statics input))
        (before.performAll (BoxPage.signal.call clib press confirming).ops)
  | zeroTarget {statics input value confirming press}
      (accepted : BoxAccepts clib .zeroCali 0 statics input value)
      (confirmed : Confirms clib .zeroCali 0 3 (savedInteger clib .zeroCali 0 statics input)
        before.zhuodu confirming press) :
      Stores clib before .zeroTarget value (some (savedInteger clib .zeroCali 0 statics input))
        (before.performAll (BoxPage.zeroCali.call clib press confirming).ops)

/-- The settings with the stored integer. `menu_zero_cali` only sends it, and its member has it
when the register is read back. -/
def Holds (page : IntegerPage) (before after : PageWorld) (global : GlobalDef) : Prop :=
  match page with
  | .zeroTarget => ∃ msg ∈ sentTo 256 before after,
      msg.dat = .half (global.zhuoduData.readHalf .canbiSet)
  | _ => global = after.device.global

/-- No conversion has changed the integer. -/
structure Exact (page : IntegerPage) (value : Int) (setInteger : Option U32)
    (before after : PageWorld) : Prop where
  boxed : ∀ word, setInteger = some word → (word.toNat : Int) = value
  stored : ∀ global, Holds page before after global → page.member global = value
  sent : ∀ address, page.register = some address → ∃ word,
    sentTo address before after = [wordMsg address word] ∧ page.decoded word = value
  reopened : ∀ global, Holds page before after global → page.shown global = value

/-- Two boxes take numbers that an `int16_t` or a `uint32_t` does not have. The box of the target
in `menu_signal_setup` takes none. -/
def IntegerPage.Fits (value : Int) : IntegerPage → Prop
  | signalRange => 0 ≤ value ∧ value ≤ 32767
  | zeroTarget => 0 ≤ value ∧ value ≤ 32767
  | _ => True

section Conversions

variable {value : Int}

theorem toInt32_kept (lower : -2147483648 ≤ value) (upper : value ≤ 2147483647) :
    (SetData.integer value).toInt32 = value := by
  show max int32Min (min int32Max value) = value
  unfold int32Min int32Max
  omega

theorem checkNumber_integer {args : SetIntFloat} {uninit : Number} {text : List Char}
    {low high : Int} (least : args.min = low) (most : args.max = high)
    (accepted : checkNumber args uninit text = .ok (.finite value)) :
    low ≤ value ∧ value ≤ high := by
  unfold checkNumber at accepted
  dsimp only at accepted
  split at accepted
  · cases accepted
  · next inside =>
      rw [not_or, Bool.not_eq_true, Bool.not_eq_true] at inside
      obtain ⟨below, above⟩ := inside
      rw [Menu.Edit.SetStat.ok.inj accepted] at below above
      have lower := finite_of_lt.2.mp above
      have upper := finite_of_lt.1.mp below
      rw [least] at lower
      rw [most] at upper
      exact ⟨Rat.intCast_le_intCast.mp lower, Rat.intCast_le_intCast.mp upper⟩

theorem lowWord_toInt {bits : Nat} (small : bits ≤ 32767) :
    (Word.lowWord (BitVec.ofNat 32 bits)).toInt = bits := by
  have low : (Word.lowWord (BitVec.ofNat 32 bits)).toNat = bits := by
    rw [Word.lowWord, BitVec.extractLsb'_toNat, BitVec.toNat_ofNat, Nat.shiftRight_zero]
    omega
  rw [BitVec.toInt_eq_toNat_of_lt (by omega), low]

end Conversions

section Worlds

variable {world before : PageWorld} {page : IntegerPage} {value : Int}

theorem performAll_queued (ops : List MenuOp) :
    (world.performAll ops).queued = world.queued ++ sends ops := by
  induction ops generalizing world with
  | nil => exact (List.append_nil _).symm
  | cons op rest ih =>
      cases op with
      | repair setting => exact ih
      | assign setting => exact ih
      | send msg => exact ih.trans (List.append_assoc _ _ _)

theorem performAll_zhuodu (ops : List MenuOp) :
    (world.performAll ops).zhuodu = (settings ops).foldl Zhuodu.assign world.zhuodu := by
  induction ops generalizing world with
  | nil => rfl
  | cons op rest ih => cases op <;> exact ih

theorem sentTo_performAll (address : U16) (ops : List MenuOp) :
    sentTo address before (before.performAll ops) =
      (sends ops).filter fun msg => msg.dataAddr = address := by
  rw [sentTo, performAll_queued, List.drop_left]

theorem readHalf_assigned (zhuodu : Zhuodu) {field : Field} {word : U16}
    (half : (Value.half word).width = field.width) :
    (zhuodu.assign ⟨field, .half word, half⟩).readHalf field = word := by
  obtain ⟨read, value, same⟩ :=
    @readHalf_assign_same zhuodu ⟨field, .half word, half⟩ half.symm
  cases value
  exact same

theorem holds_iff {after : PageWorld} {global : GlobalDef} (other : page ≠ .zeroTarget) :
    Holds page before after global ↔ global = after.device.global := by
  cases page with
  | zeroTarget => exact absurd rfl other
  | _ => exact Iff.rfl

theorem boxShown_signed (zhuodu : Zhuodu) (field : Field) :
    (halfBits zhuodu field).toInt = (zhuodu.readHalf field).toInt :=
  BitVec.toInt_signExtend_of_le (by decide)

theorem Exact.of_stored {after : PageWorld} (other : page ≠ .zeroTarget)
    (unsent : page.register = none) (stored : page.member after.device.global = value)
    (reopened : page.shown after.device.global = value) :
    Exact page value none before after where
  boxed := nofun
  stored := by
    intro global holds
    rw [(holds_iff other).mp holds]
    exact stored
  sent := by
    intro address sends
    rw [unsent] at sends
    cases sends
  reopened := by
    intro global holds
    rw [(holds_iff other).mp holds]
    exact reopened

theorem number_exact {func : PageFunc} {args : GlobalDef → SetIntFloat} {uninit : Number}
    {text : List Char} (stale : U16) (own : page.numberFunc = some func)
    (body : pageBody func = .number args)
    (accepted : checkNumber (args before.device.global) uninit text = .ok (.finite value)) :
    Exact page value none before (saveNumber func stale (.finite value) before) := by
  have shown {member : Int} (kept : member = value) (lower : -2147483648 ≤ value)
      (upper : value ≤ 2147483647) : (SetData.integer member).toInt32 = value := by
    rw [kept]
    exact toInt32_kept lower upper
  cases page with
  | rs485Id =>
      cases own
      cases body
      obtain ⟨lower, upper⟩ : 1 ≤ value ∧ value ≤ 247 := checkNumber_integer rfl rfl accepted
      have kept : ((BitVec.ofNat 8 (toBits 8 (.finite value))).toNat : Int) = value :=
        unsigned_kept (by omega) (by omega)
      exact .of_stored nofun rfl kept (shown kept (by omega) (by omega))
  | cleanInterval =>
      cases own
      cases body
      obtain ⟨lower, upper⟩ : 1 ≤ value ∧ value ≤ 999999999 := checkNumber_integer rfl rfl accepted
      have kept : (BitVec.ofNat 32 (toBits 32 (.finite value))).toInt = value :=
        signed_kept (by decide) (by omega) (by omega)
      exact .of_stored nofun rfl kept (shown kept (by omega) (by omega))
  | cleanTime =>
      cases own
      cases body
      obtain ⟨lower, upper⟩ : 1 ≤ value ∧ value ≤ 999999999 := checkNumber_integer rfl rfl accepted
      have kept : (BitVec.ofNat 32 (toBits 32 (.finite value))).toInt = value :=
        signed_kept (by decide) (by omega) (by omega)
      exact .of_stored nofun rfl kept (shown kept (by omega) (by omega))
  | tempCompensate =>
      cases own
      cases body
      obtain ⟨lower, upper⟩ : -1000 ≤ value ∧ value ≤ 1000 := checkNumber_integer rfl rfl accepted
      have kept : (BitVec.ofNat 16 (toBits 16 (.finite value))).toInt = value :=
        signed_kept (by decide) (by omega) (by omega)
      exact .of_stored nofun rfl kept (shown kept (by omega) (by omega))
  | serialNo =>
      cases own
      cases body
      obtain ⟨lower, upper⟩ : 0 ≤ value ∧ value ≤ 999999 := checkNumber_integer rfl rfl accepted
      have kept : ((BitVec.ofNat 32 (toBits 32 (.finite value))).toNat : Int) = value :=
        unsigned_kept (by omega) (by omega)
      exact .of_stored nofun rfl kept (shown kept (by omega) (by omega))
  | password =>
      cases own
      cases body
      obtain ⟨lower, upper⟩ : 0 ≤ value ∧ value ≤ 999999 := checkNumber_integer rfl rfl accepted
      have kept : ((BitVec.ofNat 32 (toBits 32 (.finite value))).toNat : Int) = value :=
        unsigned_kept (by omega) (by omega)
      exact .of_stored nofun rfl kept (shown kept (by omega) (by omega))
  | _ => cases own

theorem slaveRs485Id_exact {uninit : Number} {text : List Char}
    (accepted : checkNumber (slaveRs485Id before.device.global) uninit text =
      .ok (.finite value)) :
    Exact .slaveRs485Id value none before (menuSlaveRs485Id (.finite value) before) := by
  obtain ⟨lower, upper⟩ : 1 ≤ value ∧ value ≤ 247 := checkNumber_integer rfl rfl accepted
  have kept : ((BitVec.ofNat 16 (toBits 16 (.finite value))).toNat : Int) = value :=
    unsigned_kept (by omega) (by omega)
  have assigned : (menuSlaveRs485Id (.finite value) before).zhuodu.readHalf .zhuoduAddr =
      BitVec.ofNat 16 (toBits 16 (.finite value)) := readHalf_assigned before.zhuodu rfl
  have member : (((menuSlaveRs485Id (.finite value) before).zhuodu.readHalf .zhuoduAddr).toNat : Int) =
      value := by
    rw [assigned]
    exact kept
  have shown : (SetData.integer
      (((menuSlaveRs485Id (.finite value) before).zhuodu.readHalf .zhuoduAddr).toNat : Int)).toInt32 =
        value := by
    rw [member]
    exact toInt32_kept (by omega) (by omega)
  exact .of_stored nofun rfl member shown

/-- The messages of a page carry a word, and the member behind its register has it. -/
structure WordKept (page : IntegerPage) (before after : PageWorld) (word : U16) : Prop where
  holds : ∃ global, Holds page before after global
  member : ∀ global, Holds page before after global → page.member global = page.decoded word
  shown : ∀ global, Holds page before after global → page.shown global = page.decoded word
  sent : ∀ address, page.register = some address →
    sentTo address before after = [wordMsg address word]

theorem WordKept.exact {after : PageWorld} {word : U16} {setInteger : Option U32}
    (kept : WordKept page before after word) (same : page.decoded word = value)
    (boxed : ∀ bits, setInteger = some bits → (bits.toNat : Int) = value) :
    Exact page value setInteger before after where
  boxed := boxed
  stored := fun global holds => (kept.member global holds).trans same
  sent := fun address sends => ⟨word, kept.sent address sends, same⟩
  reopened := fun global holds => (kept.shown global holds).trans same

/-- The integer of a box is kept as long as it is an `int16_t` that is not negative. -/
theorem WordKept.exact_iff {clib : Clib} {after : PageWorld} {bits : U32} (sound : clib.Sound)
    (kept : WordKept page before after (Word.lowWord bits))
    (signed : page.decoded (Word.lowWord bits) = (Word.lowWord bits).toInt)
    (saved : bits = clib.toUint32 value) :
    Exact page value (some bits) before after ↔ 0 ≤ value ∧ value ≤ 32767 := by
  constructor
  · intro exact
    obtain ⟨global, holds⟩ := kept.holds
    have boxed := exact.boxed bits rfl
    have stored := (kept.member global holds).symm.trans (exact.stored global holds)
    have short := (Word.lowWord bits).toInt_lt
    rw [← signed, stored] at short
    exact ⟨by omega, by omega⟩
  · rintro ⟨lower, upper⟩
    obtain ⟨number, rfl⟩ := Int.eq_ofNat_of_zero_le lower
    have whole : bits = BitVec.ofNat 32 number := by
      rw [saved, Rat.intCast_natCast]
      exact sound.keeps number (by omega)
    have small : number ≤ 32767 := by omega
    apply kept.exact
    · rw [signed, whole]
      exact lowWord_toInt small
    · intro other same
      cases same
      rw [whole, BitVec.toNat_ofNat, Nat.mod_eq_of_lt (by omega)]

end Worlds

section Pages

variable {before : PageWorld}

theorem signal_settings (zhuodu : Zhuodu) (numberBox numberBox2 : U32) :
    settings (Menu.menuSignalSetup zhuodu numberBox numberBox2) =
      [⟨.canbiSet, .half (Word.lowWord numberBox), rfl⟩,
        ⟨.brightRange, .half (Word.lowWord numberBox2), rfl⟩] := by
  rw [Menu.menuSignalSetup, Menu.settings_append, darkCommand_silent]
  rfl

theorem signal_sends (zhuodu : Zhuodu) (numberBox numberBox2 : U32) :
    ((sends (Menu.menuSignalSetup zhuodu numberBox numberBox2)).filter fun msg =>
        msg.dataAddr = 256) = [wordMsg 256 (Word.lowWord numberBox)] ∧
      ((sends (Menu.menuSignalSetup zhuodu numberBox numberBox2)).filter fun msg =>
        msg.dataAddr = 259) = [wordMsg 259 (Word.lowWord numberBox2)] := by
  unfold Menu.menuSignalSetup Menu.darkCommand
  split <;> exact ⟨rfl, rfl⟩

theorem signalRange_kept (bits other : U32) :
    WordKept .signalRange before
      (before.performAll (Menu.menuSignalSetup before.zhuodu other bits)) (Word.lowWord bits) := by
  have read : (before.performAll (Menu.menuSignalSetup before.zhuodu other bits)).zhuodu.readHalf
      .brightRange = Word.lowWord bits := by
    rw [performAll_zhuodu, signal_settings]
    exact readHalf_assigned _ rfl
  constructor
  · exact ⟨_, rfl⟩
  · intro global holds
    cases holds
    exact congrArg BitVec.toInt read
  · intro global holds
    cases holds
    exact (boxShown_signed _ .brightRange).trans (congrArg BitVec.toInt read)
  · intro address register
    cases register
    rw [sentTo_performAll]
    exact (signal_sends before.zhuodu other bits).2

theorem zeroTarget_kept (bits : U32) :
    WordKept .zeroTarget before (before.performAll (Menu.btnSetEvent bits)) (Word.lowWord bits) := by
  have sent : sentTo 256 before (before.performAll (Menu.btnSetEvent bits)) =
      [wordMsg 256 (Word.lowWord bits)] := sentTo_performAll 256 (Menu.btnSetEvent bits)
  have read {global : GlobalDef} (holds : Holds .zeroTarget before
      (before.performAll (Menu.btnSetEvent bits)) global) :
      global.zhuoduData.readHalf .canbiSet = Word.lowWord bits := by
    obtain ⟨msg, queued, dat⟩ := holds
    rw [sent] at queued
    cases List.mem_singleton.mp queued
    exact (Value.half.inj dat).symm
  constructor
  · refine ⟨{ before.device.global with
        zhuoduData := before.zhuodu.assign ⟨.canbiSet, .half (Word.lowWord bits), rfl⟩ },
      wordMsg 256 (Word.lowWord bits), ?_, ?_⟩
    · rw [sent]
      exact List.mem_singleton.mpr rfl
    · exact congrArg Value.half (readHalf_assigned before.zhuodu rfl).symm
  · intro global holds
    exact congrArg BitVec.toInt (read holds)
  · intro global holds
    exact (boxShown_signed _ .canbiSet).trans (congrArg BitVec.toInt (read holds))
  · intro address register
    cases register
    exact sent

theorem entry_toNat {retVal : Nat} (inside : retVal < 256) :
    ((BitVec.ofNat 8 retVal).zeroExtend 16).toNat = retVal := by
  rw [BitVec.toNat_setWidth, BitVec.toNat_ofNat]
  omega

theorem entry_toInt {retVal : Nat} (inside : retVal < 256) :
    ((BitVec.ofNat 8 retVal).zeroExtend 16).toInt = retVal := by
  have entry := entry_toNat inside
  rw [BitVec.toInt_eq_toNat_of_lt (by omega), entry]

theorem point_toNat {retVal : Nat} (inside : retVal < 256) :
    ((BitVec.ofNat 8 retVal).zeroExtend 16 + 2 : U16).toNat = retVal + 2 := by
  rw [BitVec.toNat_add, entry_toNat inside]
  exact Nat.mod_eq_of_lt (show retVal + 2 < 65536 by omega)

theorem rangeSelect_kept {retVal : Nat} (inside : retVal < 4) :
    WordKept .rangeSelect before (saveSelected .menuRangeSelect (BitVec.ofNat 8 retVal) before)
      ((BitVec.ofNat 8 retVal).zeroExtend 16) := by
  have read : (saveSelected .menuRangeSelect (BitVec.ofNat 8 retVal) before).zhuodu.readHalf
      .rangeSel = (BitVec.ofNat 8 retVal).zeroExtend 16 := readHalf_assigned before.zhuodu rfl
  constructor
  · exact ⟨_, rfl⟩
  · intro global holds
    cases holds
    exact congrArg BitVec.toInt read
  · intro global holds
    cases holds
    have index : (((saveSelected .menuRangeSelect (BitVec.ofNat 8 retVal) before).zhuodu.readHalf
        .rangeSel).toNat % 256 : Nat) = retVal := by
      rw [read, entry_toNat (by omega)]
      omega
    exact (congrArg Nat.cast index).trans (entry_toInt (by omega)).symm
  · intro address register
    cases register
    exact sentTo_performAll 285 (Menu.menuRangeSelect (BitVec.ofNat 8 retVal))

theorem caliPoint_kept {retVal : Nat} (inside : retVal < 3) :
    WordKept .caliPoint before (saveSelected .menuLinearCaliPoint (BitVec.ofNat 8 retVal) before)
      ((BitVec.ofNat 8 retVal).zeroExtend 16 + 2) := by
  have read : (saveSelected .menuLinearCaliPoint (BitVec.ofNat 8 retVal) before).zhuodu.readHalf
      .numCali = (BitVec.ofNat 8 retVal).zeroExtend 16 + 2 := by
    show (before.performAll _).zhuodu.readHalf .numCali = _
    rw [performAll_zhuodu, Menu.menuLinearCaliPoint, Menu.settings_append, List.foldl_append]
    exact readHalf_assigned _ rfl
  have entry := point_toNat (show retVal < 256 by omega)
  constructor
  · exact ⟨_, rfl⟩
  · intro global holds
    cases holds
    exact congrArg (fun word : U16 => (word.toNat : Int)) read
  · intro global holds
    cases holds
    have index : (((saveSelected .menuLinearCaliPoint (BitVec.ofNat 8 retVal) before).zhuodu.readHalf
        .numCali).toNat - 2) % 256 = retVal := by
      rw [read, entry]
      omega
    exact (congrArg (fun index : Nat => (index : Int) + 2) index).trans (congrArg Nat.cast entry).symm
  · intro address register
    cases register
    refine (sentTo_performAll 291 _).trans ?_
    unfold Menu.menuLinearCaliPoint
    split <;> rfl

theorem save_integer {clib : Clib} {box : NumberBox} {uninit : Number} {value : Int}
    (integer : box.dataType = .integer)
    (read : (clib.sscanf box.text).getD uninit = .finite value)
    (lower : box.min < value) (upper : value < box.max) :
    (box.save clib uninit).setInteger = clib.toUint32 value := by
  unfold NumberBox.save
  rw [read]
  dsimp only
  rw [if_pos ⟨upper, lower⟩, integer]

section Accepted

variable {clib : Clib} {statics : BoxPageStatics} {input : PageInput} {value : Int}

theorem range_toUint32 (accepted : BoxAccepts clib .signal 1 statics input value) :
    savedInteger clib .signal 1 statics input = clib.toUint32 value := by
  obtain ⟨reached, saving, key, read, lower, upper⟩ := accepted
  have config : (statics.box 1).toBoxConfig = shortBox 80 16 .integer (-100) :=
    reached.config rfl rfl (reached.edited saving).1
  rw [savedInteger, reached.range_saved saving key]
  exact save_integer (congrArg BoxConfig.dataType config) read lower upper

theorem zero_toUint32 (accepted : BoxAccepts clib .zeroCali 0 statics input value) :
    savedInteger clib .zeroCali 0 statics input = clib.toUint32 value := by
  obtain ⟨reached, saving, key, read, lower, upper⟩ := accepted
  have config : (statics.box 0).toBoxConfig = zeroCaliBox :=
    reached.config rfl rfl (reached.edited saving).1
  rw [savedInteger, reached.zero_saved saving key]
  exact save_integer (congrArg BoxConfig.dataType config) read lower upper

theorem range_exact_iff {confirming : BoxPageStatics} {press : PageInput} (sound : clib.Sound)
    (accepted : BoxAccepts clib .signal 1 statics input value)
    (confirmed : Confirms clib .signal 1 4 (savedInteger clib .signal 1 statics input)
      before.zhuodu confirming press) :
    Exact .signalRange value (some (savedInteger clib .signal 1 statics input)) before
        (before.performAll (BoxPage.signal.call clib press confirming).ops) ↔
      0 ≤ value ∧ value ≤ 32767 := by
  obtain ⟨_, kept, state, key, read⟩ := confirmed
  rw [signal_commits state key, kept, read]
  exact (signalRange_kept _ _).exact_iff sound rfl (range_toUint32 accepted)

theorem zero_exact_iff {confirming : BoxPageStatics} {press : PageInput} (sound : clib.Sound)
    (accepted : BoxAccepts clib .zeroCali 0 statics input value)
    (confirmed : Confirms clib .zeroCali 0 3 (savedInteger clib .zeroCali 0 statics input)
      before.zhuodu confirming press) :
    Exact .zeroTarget value (some (savedInteger clib .zeroCali 0 statics input)) before
        (before.performAll (BoxPage.zeroCali.call clib press confirming).ops) ↔
      0 ≤ value ∧ value ≤ 32767 := by
  obtain ⟨reached, kept, state, key, _⟩ := confirmed
  rw [reached.zeroCali_commits state key, kept]
  exact (zeroTarget_kept _).exact_iff sound rfl (zero_toUint32 accepted)

end Accepted

end Pages

/-- The conversions keep every accepted integer, but for those that a box takes and an
`int16_t` or a `uint32_t` does not have. -/
theorem integer_exact_iff {clib : Clib} (sound : clib.Sound) {page : IntegerPage} {value : Int}
    {setInteger : Option U32} {before after : PageWorld}
    (stores : Stores clib before page value setInteger after) :
    Exact page value setInteger before after ↔ page.Fits value := by
  cases stores with
  | number stale own body accepted =>
      have fits : page.Fits value := by
        cases page with
        | signalRange => cases own
        | zeroTarget => cases own
        | _ => trivial
      exact iff_of_true (number_exact stale own body accepted) fits
  | slaveRs485Id accepted => exact iff_of_true (slaveRs485Id_exact accepted) trivial
  | @rangeSelect _ retVal body inside =>
      cases body
      have small : retVal < 4 := inside
      exact iff_of_true ((rangeSelect_kept inside).exact (entry_toInt (by omega)) nofun) trivial
  | @caliPoint _ retVal body inside =>
      cases body
      have small : retVal < 3 := inside
      have same := congrArg (fun point : Nat => (point : Int)) (point_toNat (show retVal < 256 by omega))
      exact iff_of_true ((caliPoint_kept inside).exact same nofun) trivial
  | signalTarget accepted _ => exact absurd accepted.saving accepted.reached.target_unsaved
  | signalRange accepted confirmed => exact range_exact_iff sound accepted confirmed
  | zeroTarget accepted confirmed => exact zero_exact_iff sound accepted confirmed

section Instance

open ZhuoduControl.Settings (cFactorySetting)

/-- A key on a page of the unit with its factory setting. -/
def factoryPress (msg : KeyCode) : PageInput :=
  ⟨msg, fun _ => .nan, (boot cFactorySetting).world.zhuodu⟩

/-- The calls from the opening of `menu_signal_setup` to the prompt of its second box, where
`digits` turn `00150` into another number. -/
def rangeKeys (digits : List KeyCode) : List PageInput :=
  ([KeyCode.none, .downDown, .downDown, .downOk] ++ digits ++ [KeyCode.downMenu]).map factoryPress

/-- The keys for `00250`. -/
def digits250 : List KeyCode := [.downOk, .downOk, .downUp]

/-- The keys for `45150`. -/
def digits45150 : List KeyCode :=
  List.replicate 4 .downUp ++ [.downOk] ++ List.replicate 5 .downUp

def rangeAsked (digits : List KeyCode) : BoxPageStatics :=
  called plainClib .signal (rangeKeys digits)

/-- From the save on to the button. -/
def rangeConfirmed (digits : List KeyCode) : BoxPageStatics :=
  called plainClib .signal (rangeKeys digits ++ [KeyCode.downMenu, .downDown].map factoryPress)

theorem range_250 : BoxAccepts plainClib .signal 1 (rangeAsked digits250)
    (factoryPress .downMenu) 250 where
  reached := reached_called _ _ _
  saving := by decide +kernel
  key := rfl
  read := by decide +kernel
  lower := by decide +kernel
  upper := by decide +kernel

theorem range_45150 : BoxAccepts plainClib .signal 1 (rangeAsked digits45150)
    (factoryPress .downMenu) 45150 where
  reached := reached_called _ _ _
  saving := by decide +kernel
  key := rfl
  read := by decide +kernel
  lower := by decide +kernel
  upper := by decide +kernel

theorem factoryPress_zhuodu (msg : KeyCode) :
    (factoryPress msg).zhuodu = (boot cFactorySetting).world.zhuodu := by
  rw [factoryPress]

theorem range_confirmed (digits : List KeyCode)
    (kept : ((rangeConfirmed digits).box 1).setInteger =
      savedInteger plainClib .signal 1 (rangeAsked digits) (factoryPress .downMenu))
    (state : (rangeConfirmed digits).setStat = 4) :
    Confirms plainClib .signal 1 4
      (savedInteger plainClib .signal 1 (rangeAsked digits) (factoryPress .downMenu))
      (boot cFactorySetting).world.zhuodu (rangeConfirmed digits) (factoryPress .downOk) where
  reached := reached_called _ _ _
  kept := kept
  state := state
  key := rfl
  zhuodu := factoryPress_zhuodu .downOk

theorem integer_exact_iff_range :
    Exact .signalRange 250
        (some (savedInteger plainClib .signal 1 (rangeAsked digits250) (factoryPress .downMenu)))
        (boot cFactorySetting).world ((boot cFactorySetting).world.performAll
          (BoxPage.signal.call plainClib (factoryPress .downOk) (rangeConfirmed digits250)).ops) ↔
      IntegerPage.signalRange.Fits 250 :=
  integer_exact_iff plainClib_sound
    (.signalRange range_250 (range_confirmed digits250 (by decide +kernel) (by decide +kernel)))

theorem range_above_int16 :
    ¬ ∀ (clib : Clib), clib.Sound → ∀ (page : IntegerPage) (value : Int) (setInteger : Option U32)
      (before after : PageWorld), Stores clib before page value setInteger after →
        Exact page value setInteger before after := by
  intro always
  have confirmed := range_confirmed digits45150 (by decide +kernel) (by decide +kernel)
  have stores : Stores plainClib (boot cFactorySetting).world _ _ _ _ :=
    .signalRange range_45150 confirmed
  have exact := always plainClib plainClib_sound _ _ _ _ _ stores
  have short := (range_exact_iff plainClib_sound range_45150 confirmed).mp exact
  exact absurd short.2 (by decide)

end Instance

end ZhuoduControl.System
