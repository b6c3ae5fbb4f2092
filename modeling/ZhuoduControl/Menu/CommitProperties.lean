import ZhuoduControl.Menu.Commit
import ZhuoduControl.Queue.MessageQueue

/-! The register map of the settings pages: which messages a confirmation leaves in
the queue, and what a head that stores them answers to the next poll. -/

set_option autoImplicit false

namespace ZhuoduControl.Menu

open ZhuoduControl.Library
open ZhuoduControl.Data
open ZhuoduControl.Modbus
open ZhuoduControl.Queue

/-- The whole confirmation; the consumer has the lower priority and does not run. -/
def runOps (zhuodu : Zhuodu) (mq : MessageQueue ModbusMsg) :
    List MenuOp → Zhuodu × MessageQueue ModbusMsg
  | [] => (zhuodu, mq)
  | .repair setting :: rest => runOps (zhuodu.assign setting) mq rest
  | .assign setting :: rest => runOps (zhuodu.assign setting) mq rest
  | .send msg :: rest => runOps zhuodu (mq.rtMqSend msg) rest

theorem sends_append (left right : List MenuOp) :
    sends (left ++ right) = sends left ++ sends right := by
  induction left with
  | nil => rfl
  | cons op rest ih => cases op <;> simp [sends, ih]

theorem settings_append (left right : List MenuOp) :
    settings (left ++ right) = settings left ++ settings right := by
  induction left with
  | nil => rfl
  | cons op rest ih => cases op <;> simp [settings, ih]

theorem committed_append (left right : List MenuOp) :
    committed (left ++ right) = committed left ++ committed right := by
  induction left with
  | nil => rfl
  | cons op rest ih => cases op <;> simp [committed, ih]

/-- A head that stores what it is sent. -/
def applyMsg (slave : Memory U16) (msg : ModbusMsg) : Memory U16 :=
  slave.store msg.dataAddr.toNat msg.busWords

def applyAll (slave : Memory U16) (msgs : List ModbusMsg) : Memory U16 :=
  msgs.foldl applyMsg slave

def carrier (setting : Setting) : ModbusMsg :=
  match setting.value with
  | .half word => wordMsg setting.field.address word
  | .float bits => floatMsg setting.field.address bits

theorem runOps_eq (zhuodu : Zhuodu) (mq : MessageQueue ModbusMsg) (ops : List MenuOp) :
    runOps zhuodu mq ops =
      ((settings ops).foldl Zhuodu.assign zhuodu,
        (sends ops).foldl MessageQueue.rtMqSend mq) := by
  induction ops generalizing zhuodu mq with
  | nil => rfl
  | cons op rest ih =>
      cases op with
      | repair setting => exact ih _ _
      | assign setting => exact ih _ _
      | send msg => exact ih _ _

theorem runOps_queued (zhuodu : Zhuodu) (mq : MessageQueue ModbusMsg) (ops : List MenuOp) :
    (runOps zhuodu mq ops).2.queued = mq.queued ++ (sends ops).take mq.free := by
  rw [runOps_eq, MessageQueue.foldl_rtMqSend]

def queuedBy (zhuodu : Zhuodu) (mq : MessageQueue ModbusMsg) (ops : List MenuOp) :
    List ModbusMsg :=
  (runOps zhuodu mq ops).2.queued.drop mq.queued.length

theorem queuedBy_eq (zhuodu : Zhuodu) (mq : MessageQueue ModbusMsg) (ops : List MenuOp) :
    queuedBy zhuodu mq ops = (sends ops).take mq.free := by
  rw [queuedBy, runOps_queued, List.drop_left]

@[simp] theorem carrier_dat (setting : Setting) : (carrier setting).dat = setting.value := by
  unfold carrier
  cases setting.value <;> rfl

@[simp] theorem carrier_dataAddr (setting : Setting) :
    (carrier setting).dataAddr = setting.field.address := by
  unfold carrier
  cases setting.value <;> rfl

theorem carrier_busWords (setting : Setting) :
    (carrier setting).busWords = setting.value.registers := by
  rw [ModbusMsg.busWords_eq_registers, carrier_dat]

theorem applyMsg_outside (slave : Memory U16) {msg : ModbusMsg} {register : Nat}
    (apart : ¬ msg.Covers register) : applyMsg slave msg register = slave register := by
  refine Memory.store_outside slave _ _ ?_
  rw [ModbusMsg.busWords_eq_registers, Value.registers_length]
  unfold ModbusMsg.Covers at apart
  omega

theorem applyAll_outside (slave : Memory U16) (msgs : List ModbusMsg) {register : Nat}
    (apart : ∀ msg ∈ msgs, ¬ msg.Covers register) :
    applyAll slave msgs register = slave register := by
  induction msgs generalizing slave with
  | nil => rfl
  | cons msg rest ih =>
      have later : ∀ other ∈ rest, ¬ other.Covers register :=
        fun other member => apart other (.tail _ member)
      exact (ih (applyMsg slave msg) later).trans (applyMsg_outside slave (apart msg (.head _)))

theorem carrier_covers {setting : Setting} {register : Nat} :
    (carrier setting).Covers register ↔ setting.field.Owns register := by
  unfold ModbusMsg.Covers Field.Owns
  rw [carrier_dat, carrier_dataAddr, Field.address_toNat, setting.fits]

theorem decode_carrier (slave : Memory U16) (setting : Setting) :
    setting.field.width.decode (applyMsg slave (carrier setting)) setting.field.register =
      setting.value := by
  unfold applyMsg
  rw [carrier_busWords, carrier_dataAddr, Field.address_toNat, ← setting.fits]
  exact setting.value.decode_store slave _

section Carriers

variable {listed : List Setting} {setting : Setting}

theorem read_foldl_untouched (zhuodu : Zhuodu) {field : Field}
    (absent : field ∉ listed.map Setting.field) :
    (listed.foldl Zhuodu.assign zhuodu).read field = zhuodu.read field := by
  induction listed generalizing zhuodu with
  | nil => rfl
  | cons head rest ih =>
      rw [List.map_cons, List.mem_cons, not_or] at absent
      rw [List.foldl_cons, ih _ absent.2]
      exact Zhuodu.read_assign_other zhuodu absent.1

theorem read_foldl_assign (zhuodu : Zhuodu) (distinct : (listed.map Setting.field).Nodup)
    (member : setting ∈ listed) :
    (listed.foldl Zhuodu.assign zhuodu).read setting.field = setting.value := by
  induction listed generalizing zhuodu with
  | nil => cases member
  | cons head rest ih =>
      obtain ⟨fresh, others⟩ := List.nodup_cons.mp distinct
      rw [List.foldl_cons]
      rcases List.mem_cons.mp member with rfl | later
      · rw [read_foldl_untouched _ fresh]
        exact Zhuodu.read_assign_same zhuodu setting
      · exact ih _ others later

theorem decode_applyAll_carriers (slave : Memory U16)
    (distinct : (listed.map Setting.field).Nodup) (member : setting ∈ listed) :
    setting.field.width.decode (applyAll slave (listed.map carrier)) setting.field.register =
      setting.value := by
  induction listed generalizing slave with
  | nil => cases member
  | cons head rest ih =>
      obtain ⟨fresh, others⟩ := List.nodup_cons.mp distinct
      rcases List.mem_cons.mp member with rfl | later
      · refine Eq.trans (Width.decode_congr _ fun register lower upper => ?_)
          (decode_carrier slave setting)
        refine applyAll_outside (applyMsg slave (carrier setting)) (rest.map carrier)
          fun msg carried covers => ?_
        obtain ⟨other, otherMember, rfl⟩ := List.mem_map.mp carried
        have same := Field.owner_unique (carrier_covers.mp covers) ⟨lower, upper⟩
        exact fresh (List.mem_map.mpr ⟨other, otherMember, same⟩)
      · exact ih _ others later

theorem filter_carriers (distinct : (listed.map Setting.field).Nodup)
    (member : setting ∈ listed) :
    (listed.map carrier).filter (fun msg => msg.dataAddr = setting.field.address) =
      [carrier setting] := by
  have inj : ∀ {left right : Field}, left.address = right.address → left = right := by
    intro left right same
    refine Field.register_inj ?_
    rw [← Field.address_toNat, ← Field.address_toNat, same]
  induction listed with
  | nil => cases member
  | cons head rest ih =>
      obtain ⟨fresh, others⟩ := List.nodup_cons.mp distinct
      rcases List.mem_cons.mp member with rfl | later
      · have none : (rest.map carrier).filter
            (fun msg => msg.dataAddr = setting.field.address) = [] := by
          refine List.filter_eq_nil_iff.mpr fun msg carried same => ?_
          obtain ⟨other, otherMember, rfl⟩ := List.mem_map.mp carried
          have equal := inj (by simpa using same)
          exact fresh (List.mem_map.mpr ⟨other, otherMember, equal⟩)
        rw [List.map_cons, List.filter_cons_of_pos (by simp), none]
      · have different : head.field.address ≠ setting.field.address := by
          intro same
          exact fresh (List.mem_map.mpr ⟨setting, later, (inj same).symm⟩)
        rw [List.map_cons, List.filter_cons_of_neg (by simpa using different)]
        exact ih others later

end Carriers

section Entered

def segRange : Nat → Field
  | 0 => .segRange1
  | 1 => .segRange2
  | 2 => .segRange3
  | _ => .segRange4

def coefficientA : Nat → Field
  | 0 => .a1
  | 1 => .a2
  | 2 => .a3
  | _ => .a4

def coefficientB : Nat → Field
  | 0 => .b1
  | 1 => .b2
  | 2 => .b3
  | _ => .b4

/-- What a confirmation is for: the members behind the page, of the selected range where there is
one for each, with what the operator has entered for them. -/
def Commit.entered (zhuodu : Zhuodu) : Commit → List (Field × Value)
  | rangeSetup _ retVal => [(segRange (rangeSel zhuodu), .float retVal)]
  | rangeSelect retVal => [(.rangeSel, .half (retVal.zeroExtend 16))]
  | coeffAB numberBox numberBox2 =>
      [(coefficientA (rangeSel zhuodu), .float numberBox),
        (coefficientB (rangeSel zhuodu), .float numberBox2)]
  | signalSetup numberBox numberBox2 =>
      [(.canbiSet, .half (Word.lowWord numberBox)),
        (.brightRange, .half (Word.lowWord numberBox2))]
  | canbiZhuodu numberBox => [(.a1k1, .float numberBox)]
  | zeroCompensate retVal => [(coefficientB (rangeSel zhuodu), .float retVal)]
  | linearCaliPoint retVal => [(.numCali, .half (retVal.zeroExtend 16 + 2))]
  | zeroCaliSet _ => []
  | zeroCaliConfirm => []
  | fullCali _ => []
  | linearCali _ => []

/-- How many members a page edits. -/
def Commit.edits : Commit → Nat
  | coeffAB _ _ => 2
  | signalSetup _ _ => 2
  | _ => 1

end Entered

/-- The registers that the answer to a poll of a block has. -/
def pollAnswer (slave : Memory U16) (block : Block) : Memory U16 :=
  Memory.store (fun _ => 0) block.start (slave.load block.start block.count)

theorem register_window (field : Field) : field.block.start ≤ field.register ∧
    field.register + field.width.size ≤ field.block.start + field.block.count := by
  have all : ∀ field ∈ Field.declared, field.block.start ≤ field.register ∧
      field.register + field.width.size ≤ field.block.start + field.block.count := by
    decide +kernel
  exact all field (Field.mem_declared field)

/-- A poll of the block of a member reads the registers of the member. -/
theorem decode_pollAnswer (slave : Memory U16) (field : Field) :
    field.width.decode (pollAnswer slave field.block) field.register =
      field.width.decode slave field.register := by
  obtain ⟨first, last⟩ := register_window field
  refine Width.decode_congr _ fun register lower upper => ?_
  exact Memory.store_load_inside _ slave (by omega) (by omega)

/-- The handler assigns the members that are edited and no others, each as it was entered; each
has one message, of its width and with its value, at its register; the two dark commands apart,
nothing else is addressed; and a poll after the head has worked through the queue carries what
the operator entered. -/
structure AgreesOnRegisters (slave : Memory U16) (zhuodu : Zhuodu) (mq : MessageQueue ModbusMsg)
    (ops : List MenuOp) (entered : List (Field × Value)) : Prop where
  edited : ∀ field : Field, field ∈ (settings ops).map Setting.field ↔ field ∈ entered.map Prod.fst
  stored : ∀ edit ∈ entered, (runOps zhuodu mq ops).1.read edit.1 = edit.2
  delivered : ∀ edit ∈ entered, ∃ msg,
    (queuedBy zhuodu mq ops).filter (fun msg => msg.dataAddr = edit.1.address) = [msg] ∧
      (msg.dataType = 0 ↔ edit.1.width = .half) ∧ msg.dat = edit.2
  foreign : ∀ msg ∈ queuedBy zhuodu mq ops, ∀ register, msg.Covers register →
    register ≠ 538 → register ≠ 539 →
      ∀ field : Field, field.Owns register → field ∈ entered.map Prod.fst
  polled : ∀ edit ∈ entered,
    edit.1.width.decode (pollAnswer (applyAll slave (runOps zhuodu mq ops).2.queued) edit.1.block)
      edit.1.register = edit.2

/-- The members that no page assigns: the dark commands. -/
def Ordinary (field : Field) : Prop :=
  field ≠ .cmdA3Full ∧ field ≠ .cmdA2Zero

instance (field : Field) : Decidable (Ordinary field) :=
  inferInstanceAs (Decidable (_ ∧ _))

/-- The shape of a confirmation whose messages follow its assignments. -/
structure Paired (ops : List MenuOp) (entered : List (Field × Value)) (repairs : List Setting)
    (commands : List ModbusMsg) : Prop where
  entered_eq : entered = (committed ops).map fun setting => (setting.field, setting.value)
  settings_eq : settings ops = repairs ++ committed ops
  repaired : ∀ setting ∈ repairs, setting.field ∈ (committed ops).map Setting.field
  sends_eq : sends ops = (committed ops).map carrier ++ commands
  distinct : ((committed ops).map Setting.field).Nodup
  ordinary : ∀ setting ∈ committed ops, Ordinary setting.field
  commanded : ∀ msg ∈ commands, ∀ register, msg.Covers register → register = 538 ∨ register = 539

namespace Paired

variable {ops : List MenuOp} {entered : List (Field × Value)} {repairs : List Setting}
variable {commands : List ModbusMsg}
variable (slave : Memory U16) (zhuodu : Zhuodu) (mq : MessageQueue ModbusMsg)

theorem setting_of_edit (paired : Paired ops entered repairs commands) {edit : Field × Value}
    (listed : edit ∈ entered) :
    ∃ setting ∈ committed ops, (setting.field, setting.value) = edit := by
  rw [paired.entered_eq] at listed
  exact List.mem_map.mp listed

theorem fields_eq (paired : Paired ops entered repairs commands) :
    entered.map Prod.fst = (committed ops).map Setting.field := by
  rw [paired.entered_eq, List.map_map]
  rfl

theorem mem_fields (paired : Paired ops entered repairs commands) {field : Field} :
    field ∈ (settings ops).map Setting.field ↔ field ∈ (committed ops).map Setting.field := by
  rw [paired.settings_eq, List.map_append, List.mem_append]
  refine or_iff_right_of_imp fun repaired => ?_
  obtain ⟨setting, member, rfl⟩ := List.mem_map.mp repaired
  exact paired.repaired setting member

theorem read_final (paired : Paired ops entered repairs commands) {setting : Setting}
    (member : setting ∈ committed ops) :
    (runOps zhuodu mq ops).1.read setting.field = setting.value := by
  rw [runOps_eq, paired.settings_eq, List.foldl_append]
  exact read_foldl_assign _ paired.distinct member

private theorem command_register {field : Field} {register : Nat} (owns : field.Owns register)
    (command : register = 538 ∨ register = 539) :
    field = .cmdA3Full ∨ field = .cmdA2Zero := by
  rcases command with rfl | rfl
  · exact .inl (Field.owner_unique owns (by decide +kernel))
  · exact .inr (Field.owner_unique owns (by decide +kernel))

theorem command_apart (paired : Paired ops entered repairs commands) {setting : Setting}
    (member : setting ∈ committed ops) {msg : ModbusMsg} (command : msg ∈ commands)
    {register : Nat} (covers : msg.Covers register) : ¬ setting.field.Owns register := by
  intro owns
  have plain := paired.ordinary setting member
  rcases command_register owns (paired.commanded msg command register covers) with hit | hit
  · exact plain.1 hit
  · exact plain.2 hit

theorem filter_commands (paired : Paired ops entered repairs commands) {setting : Setting}
    (member : setting ∈ committed ops) (count : Nat) :
    (commands.take count).filter (fun msg => msg.dataAddr = setting.field.address) = [] := by
  refine List.filter_eq_nil_iff.mpr fun msg taken same => ?_
  have address : msg.dataAddr = setting.field.address := by simpa using same
  have start : msg.dataAddr.toNat = setting.field.register := by
    rw [address, Field.address_toNat]
  have size : 0 < msg.dat.width.size := by cases msg.dat.width <;> decide
  have covers : msg.Covers setting.field.register := ⟨by omega, by omega⟩
  exact paired.command_apart member (List.mem_of_mem_take taken) covers
    ⟨Nat.le_refl _, Nat.lt_add_of_pos_right (Field.size_pos _)⟩

theorem queuedNow (paired : Paired ops entered repairs commands) :
    queuedBy zhuodu mq ops =
      ((committed ops).take mq.free).map carrier ++
        commands.take (mq.free - (committed ops).length) := by
  rw [queuedBy_eq, paired.sends_eq, List.take_append, List.length_map,
    List.map_take]

theorem agrees_of_room (paired : Paired ops entered repairs commands)
    (room : (committed ops).length ≤ mq.free) : AgreesOnRegisters slave zhuodu mq ops entered := by
  have added := paired.queuedNow zhuodu mq
  rw [List.take_of_length_le room] at added
  constructor
  · intro field
    rw [paired.fields_eq]
    exact paired.mem_fields
  · intro edit listed
    obtain ⟨setting, member, rfl⟩ := paired.setting_of_edit listed
    exact paired.read_final zhuodu mq member
  · intro edit listed
    obtain ⟨setting, member, rfl⟩ := paired.setting_of_edit listed
    refine ⟨carrier setting, ?_, ?_, carrier_dat setting⟩
    · rw [added, List.filter_append, filter_carriers paired.distinct member,
        paired.filter_commands member, List.append_nil]
    · rw [← setting.fits, ← carrier_dat setting, (carrier setting).typed]
      split
      · next narrow => exact iff_of_true narrow rfl
      · next wide => exact iff_of_false wide nofun
  · intro msg present register covers notFull notZero field owns
    rw [added] at present
    rw [paired.fields_eq]
    rcases List.mem_append.mp present with carried | command
    · obtain ⟨setting, member, rfl⟩ := List.mem_map.mp carried
      have own := Field.owner_unique owns (carrier_covers.mp covers)
      rw [own]
      exact List.mem_map.mpr ⟨setting, member, rfl⟩
    · rcases paired.commanded msg (List.mem_of_mem_take command) register covers with hit | hit
      · exact absurd hit notFull
      · exact absurd hit notZero
  · intro edit listed
    obtain ⟨setting, member, rfl⟩ := paired.setting_of_edit listed
    have after : (runOps zhuodu mq ops).2.queued = mq.queued ++ ((committed ops).map carrier ++
        commands.take (mq.free - (committed ops).length)) := by
      rw [runOps_queued, paired.sends_eq, List.take_append, List.length_map,
        List.take_of_length_le (by simpa using room)]
    rw [decode_pollAnswer, after]
    unfold applyAll
    rw [List.foldl_append, List.foldl_append]
    refine Eq.trans (Width.decode_congr _ fun register lower upper => ?_)
      (decode_applyAll_carriers (applyAll slave mq.queued) paired.distinct member)
    refine applyAll_outside _ _ fun msg command covers => ?_
    exact paired.command_apart member (List.mem_of_mem_take command) covers ⟨lower, upper⟩

theorem room_of_agrees (paired : Paired ops entered repairs commands)
    (agrees : AgreesOnRegisters slave zhuodu mq ops entered) :
    (committed ops).length ≤ mq.free := by
  rcases Nat.lt_or_ge mq.free (committed ops).length with short | room
  · have member := List.getElem_mem short
    have listed : ((committed ops)[mq.free].field, (committed ops)[mq.free].value) ∈ entered := by
      rw [paired.entered_eq]
      exact List.mem_map.mpr ⟨_, member, rfl⟩
    obtain ⟨msg, only, _⟩ := agrees.delivered _ listed
    have present : msg ∈ queuedBy zhuodu mq ops ∧
        msg.dataAddr = (committed ops)[mq.free].field.address := by
      have single : msg ∈ [msg] := .head _
      rw [← only] at single
      simpa using List.mem_filter.mp single
    obtain ⟨inQueue, address⟩ := present
    have none : mq.free - (committed ops).length = 0 := by omega
    rw [paired.queuedNow, none, List.take_zero, List.append_nil] at inQueue
    obtain ⟨other, earlier, rfl⟩ := List.mem_map.mp inQueue
    obtain ⟨index, bound, found⟩ := List.mem_take_iff_getElem.mp earlier
    rw [carrier_dataAddr] at address
    have fields : other.field = (committed ops)[mq.free].field := by
      refine Field.register_inj ?_
      rw [← Field.address_toNat, address, Field.address_toNat]
    have ordered := List.pairwise_iff_getElem.mp (List.pairwise_map.mp paired.distinct)
      index mq.free (by omega) short (by omega)
    rw [found] at ordered
    exact absurd fields ordered
  · exact room

end Paired

theorem carrier_float {field : Field} {dataAddr : U16} (bits : U32)
    (fits : (Value.float bits).width = field.width) (place : field.address = dataAddr) :
    carrier ⟨field, .float bits, fits⟩ = floatMsg dataAddr bits := by
  simp only [carrier, place]

theorem carrier_half {field : Field} {dataAddr : U16} (word : U16)
    (fits : (Value.half word).width = field.width) (place : field.address = dataAddr) :
    carrier ⟨field, .half word, fits⟩ = wordMsg dataAddr word := by
  simp only [carrier, place]

theorem paired_single {field : Field} {value : Value} {fits : value.width = field.width}
    {msg : ModbusMsg} (carried : carrier ⟨field, value, fits⟩ = msg) (ordinary : Ordinary field) :
    Paired [.assign ⟨field, value, fits⟩, .send msg] [(field, value)] [] [] where
  entered_eq := rfl
  settings_eq := rfl
  repaired := nofun
  sends_eq := by simp [sends, committed, carried]
  distinct := List.pairwise_singleton _ _
  ordinary := by simpa [committed] using ordinary
  commanded := nofun

theorem paired_double {field field2 : Field} {value value2 : Value}
    {fits : value.width = field.width} {fits2 : value2.width = field2.width}
    {msg msg2 : ModbusMsg} (carried : carrier ⟨field, value, fits⟩ = msg)
    (carried2 : carrier ⟨field2, value2, fits2⟩ = msg2) (different : field ≠ field2)
    (ordinary : Ordinary field) (ordinary2 : Ordinary field2) :
    Paired [.assign ⟨field, value, fits⟩, .assign ⟨field2, value2, fits2⟩, .send msg, .send msg2]
      [(field, value), (field2, value2)] [] [] where
  entered_eq := rfl
  settings_eq := rfl
  repaired := nofun
  sends_eq := by simp [sends, committed, carried, carried2]
  distinct := by simpa [committed] using different
  ordinary := by simpa [committed] using And.intro ordinary ordinary2
  commanded := nofun

theorem rangeSetup_paired (zhuodu : Zhuodu) (stale : U16) (retVal : U32)
    (inRange : rangeSel zhuodu < 4) : Paired (menuRangeSetup zhuodu stale retVal)
      ((Commit.rangeSetup stale retVal).entered zhuodu) [] [] := by
  have cases : rangeSel zhuodu = 0 ∨ rangeSel zhuodu = 1 ∨ rangeSel zhuodu = 2 ∨
      rangeSel zhuodu = 3 := by omega
  unfold menuRangeSetup Commit.entered
  rcases cases with range | range | range | range <;> rw [range]
  · exact paired_single (carrier_float retVal rfl (by decide +kernel)) (by decide)
  · exact paired_single (carrier_float retVal rfl (by decide +kernel)) (by decide)
  · exact paired_single (carrier_float retVal rfl (by decide +kernel)) (by decide)
  · exact paired_single (carrier_float retVal rfl (by decide +kernel)) (by decide)

theorem rangeSelect_paired (zhuodu : Zhuodu) (retVal : U8) : Paired (menuRangeSelect retVal)
    ((Commit.rangeSelect retVal).entered zhuodu) [] [] :=
  paired_single (carrier_half _ rfl (by decide +kernel)) (by decide)

theorem coeffAB_paired (zhuodu : Zhuodu) (numberBox numberBox2 : U32)
    (inRange : rangeSel zhuodu < 4) :
    Paired (menuCoeffAB zhuodu numberBox numberBox2)
      ((Commit.coeffAB numberBox numberBox2).entered zhuodu) [] [] := by
  have cases : rangeSel zhuodu = 0 ∨ rangeSel zhuodu = 1 ∨ rangeSel zhuodu = 2 ∨
      rangeSel zhuodu = 3 := by omega
  unfold menuCoeffAB Commit.entered
  rcases cases with range | range | range | range <;> rw [range]
  · exact paired_double (carrier_float numberBox rfl (by decide +kernel))
      (carrier_float numberBox2 rfl (by decide +kernel)) nofun (by decide) (by decide)
  · exact paired_double (carrier_float numberBox rfl (by decide +kernel))
      (carrier_float numberBox2 rfl (by decide +kernel)) nofun (by decide) (by decide)
  · exact paired_double (carrier_float numberBox rfl (by decide +kernel))
      (carrier_float numberBox2 rfl (by decide +kernel)) nofun (by decide) (by decide)
  · exact paired_double (carrier_float numberBox rfl (by decide +kernel))
      (carrier_float numberBox2 rfl (by decide +kernel)) nofun (by decide) (by decide)

theorem canbiZhuodu_paired (zhuodu : Zhuodu) (numberBox : U32) :
    Paired (menuCanbiZhuodu numberBox) ((Commit.canbiZhuodu numberBox).entered zhuodu) [] [] :=
  paired_single (carrier_float _ rfl (by decide +kernel)) (by decide)

theorem zeroCompensate_paired (zhuodu : Zhuodu) (retVal : U32) (first : rangeSel zhuodu = 0) :
    Paired (menuZeroCompensate zhuodu retVal)
      ((Commit.zeroCompensate retVal).entered zhuodu) [] [] := by
  unfold menuZeroCompensate Commit.entered
  rw [first]
  exact paired_single (carrier_float _ rfl (by decide +kernel)) (by decide)

theorem darkCommand_cases (zhuodu : Zhuodu) :
    darkCommand zhuodu = [.send (wordMsg 538 1)] ∨ darkCommand zhuodu = [.send (wordMsg 539 1)] ∨
      darkCommand zhuodu = [] := by
  unfold darkCommand
  split
  · exact .inl rfl
  · exact .inr (.inl rfl)
  · exact .inr (.inr rfl)

theorem signalSetup_paired (zhuodu : Zhuodu) (numberBox numberBox2 : U32) :
    ∃ commands, Paired (menuSignalSetup zhuodu numberBox numberBox2)
      ((Commit.signalSetup numberBox numberBox2).entered zhuodu) [] commands := by
  have target := @carrier_half .canbiSet 256 (Word.lowWord numberBox) rfl (by decide +kernel)
  have swing := @carrier_half .brightRange 259 (Word.lowWord numberBox2) rfl (by decide +kernel)
  have built : ∀ commands : List ModbusMsg,
      (∀ msg ∈ commands, ∀ register, msg.Covers register → register = 538 ∨ register = 539) →
      ∀ dark : List MenuOp, settings dark = [] → committed dark = [] → sends dark = commands →
      Paired ([.assign ⟨.canbiSet, .half (Word.lowWord numberBox), rfl⟩,
        .send (wordMsg 256 (Word.lowWord numberBox)),
        .assign ⟨.brightRange, .half (Word.lowWord numberBox2), rfl⟩,
        .send (wordMsg 259 (Word.lowWord numberBox2))] ++ dark)
        ((Commit.signalSetup numberBox numberBox2).entered zhuodu) [] commands := by
    intro commands commanded dark noSettings noCommitted queued
    exact {
      entered_eq := by simp [Commit.entered, committed, noCommitted]
      settings_eq := by simp [settings, committed, noSettings, noCommitted]
      repaired := fun _ absent => absurd absent List.not_mem_nil
      sends_eq := by simp [sends, committed, noCommitted, queued, target, swing]
      distinct := by simp [committed, noCommitted]
      ordinary := by simp [committed, noCommitted, Ordinary]
      commanded := commanded }
  have single : ∀ dataAddr : U16, dataAddr.toNat = 538 ∨ dataAddr.toNat = 539 →
      ∀ msg ∈ [wordMsg dataAddr 1], ∀ register, msg.Covers register →
        register = 538 ∨ register = 539 := by
    intro dataAddr place msg member register covers
    cases List.mem_singleton.mp member
    obtain ⟨lower, upper⟩ := covers
    simp only [wordMsg, Value.width, Width.size] at lower upper
    omega
  unfold menuSignalSetup
  rcases darkCommand_cases zhuodu with dark | dark | dark
  · rw [dark]
    exact ⟨_, built [wordMsg 538 1] (single 538 (.inl rfl)) _ rfl rfl rfl⟩
  · rw [dark]
    exact ⟨_, built [wordMsg 539 1] (single 539 (.inr rfl)) _ rfl rfl rfl⟩
  · rw [dark]
    exact ⟨_, built [] (fun _ absent => absurd absent List.not_mem_nil) _ rfl rfl rfl⟩

theorem linearCaliPoint_paired (zhuodu : Zhuodu) (retVal : U8) :
    ∃ repairs, Paired (menuLinearCaliPoint zhuodu retVal)
      ((Commit.linearCaliPoint retVal).entered zhuodu) repairs [] := by
  have built : ∀ (word : U16) (repairs : List Setting),
      (∀ setting ∈ repairs, setting.field = .numCali) →
      ∀ repaired : List MenuOp, settings repaired = repairs → committed repaired = [] →
      sends repaired = [] →
      Paired (repaired ++ [.send (wordMsg 291 word), .assign ⟨.numCali, .half word, rfl⟩])
        [(.numCali, .half word)] repairs [] := by
    intro word repairs same repaired noSettings noCommitted noSends
    have point := @carrier_half .numCali 291 word rfl (by decide +kernel)
    exact {
      entered_eq := by simp [committed_append, noCommitted, committed]
      settings_eq := by
        simp [settings_append, committed_append, noSettings, noCommitted, settings, committed]
      repaired := by simpa [committed_append, noCommitted, committed] using same
      sends_eq := by
        simp [sends_append, committed_append, noSends, noCommitted, sends, committed, point]
      distinct := by simp [committed_append, noCommitted, committed]
      ordinary := by simp [committed_append, noCommitted, committed, Ordinary]
      commanded := nofun }
  unfold menuLinearCaliPoint
  simp only
  split
  · exact ⟨_, built _ [⟨.numCali, .half 2, rfl⟩] (by simp) _ rfl rfl rfl⟩
  · exact ⟨_, built _ [] nofun _ rfl rfl rfl⟩

theorem zeroCompensate_disagrees (slave : Memory U16) (zhuodu : Zhuodu)
    (mq : MessageQueue ModbusMsg) (retVal : U32) (inRange : rangeSel zhuodu < 4)
    (wide : rangeSel zhuodu ≠ 0) :
    ¬ AgreesOnRegisters slave zhuodu mq (menuZeroCompensate zhuodu retVal)
        ((Commit.zeroCompensate retVal).entered zhuodu) := by
  have missed : ∀ (field : Field) (fits : (Value.float retVal).width = field.width),
      field.address ≠ 269 → ¬ AgreesOnRegisters slave zhuodu mq
        [.assign ⟨field, .float retVal, fits⟩, .send (floatMsg 269 retVal)]
        [(field, .float retVal)] := by
    intro field fits elsewhere agrees
    obtain ⟨msg, only, _⟩ := agrees.delivered (field, .float retVal) (.head _)
    have single : msg ∈ [msg] := .head _
    rw [← only, queuedBy_eq] at single
    obtain ⟨present, address⟩ := List.mem_filter.mp single
    cases List.mem_singleton.mp (List.mem_of_mem_take present)
    have same : (269 : U16) = field.address := of_decide_eq_true address
    exact elsewhere same.symm
  have cases : rangeSel zhuodu = 1 ∨ rangeSel zhuodu = 2 ∨ rangeSel zhuodu = 3 := by omega
  unfold menuZeroCompensate Commit.entered
  rcases cases with range | range | range <;> rw [range]
  · exact missed .b2 rfl (by decide +kernel)
  · exact missed .b3 rfl (by decide +kernel)
  · exact missed .b4 rfl (by decide +kernel)

def Commit.EditsSettings : Commit → Prop
  | zeroCaliSet _ | zeroCaliConfirm | fullCali _ | linearCali _ => False
  | _ => True

/-- When a confirmation respects the map: a zero offset only in the first range, and a free node
for the message of each member it edits. -/
structure RespectsMap (zhuodu : Zhuodu) (mq : MessageQueue ModbusMsg) (commit : Commit) :
    Prop where
  addressed : ∀ retVal, commit = .zeroCompensate retVal → rangeSel zhuodu = 0
  room : commit.edits ≤ mq.free

private theorem respectsMap_of_paired {slave : Memory U16} {zhuodu : Zhuodu}
    {mq : MessageQueue ModbusMsg} {commit : Commit} {repairs : List Setting}
    {commands : List ModbusMsg}
    (paired : Paired (commit.ops zhuodu) (commit.entered zhuodu) repairs commands)
    (count : (commit.entered zhuodu).length = commit.edits)
    (addressed : ∀ retVal, commit = .zeroCompensate retVal → rangeSel zhuodu = 0) :
    AgreesOnRegisters slave zhuodu mq (commit.ops zhuodu) (commit.entered zhuodu) ↔
      RespectsMap zhuodu mq commit := by
  have assigned : (committed (commit.ops zhuodu)).length = commit.edits := by
    rw [← count, paired.entered_eq, List.length_map]
  constructor
  · intro agrees
    exact ⟨addressed, assigned ▸ paired.room_of_agrees slave zhuodu mq agrees⟩
  · intro respects
    exact paired.agrees_of_room slave zhuodu mq (assigned ▸ respects.room)

theorem commit_agrees_iff (slave : Memory U16) (zhuodu : Zhuodu) (mq : MessageQueue ModbusMsg)
    (commit : Commit) (edits : commit.EditsSettings) (inRange : rangeSel zhuodu < 4) :
    AgreesOnRegisters slave zhuodu mq (commit.ops zhuodu) (commit.entered zhuodu) ↔
      RespectsMap zhuodu mq commit := by
  cases commit with
  | rangeSetup stale retVal =>
      exact respectsMap_of_paired (rangeSetup_paired zhuodu stale retVal inRange) rfl nofun
  | rangeSelect retVal => exact respectsMap_of_paired (rangeSelect_paired zhuodu retVal) rfl nofun
  | coeffAB numberBox numberBox2 =>
      exact respectsMap_of_paired (coeffAB_paired zhuodu numberBox numberBox2 inRange) rfl nofun
  | signalSetup numberBox numberBox2 =>
      obtain ⟨commands, paired⟩ := signalSetup_paired zhuodu numberBox numberBox2
      exact respectsMap_of_paired paired rfl nofun
  | canbiZhuodu numberBox =>
      exact respectsMap_of_paired (canbiZhuodu_paired zhuodu numberBox) rfl nofun
  | zeroCompensate retVal =>
      by_cases first : rangeSel zhuodu = 0
      · exact respectsMap_of_paired (zeroCompensate_paired zhuodu retVal first) rfl
          fun _ _ => first
      · refine iff_of_false (zeroCompensate_disagrees slave zhuodu mq retVal inRange first) ?_
        exact fun respects => first (respects.addressed retVal rfl)
  | linearCaliPoint retVal =>
      obtain ⟨repairs, paired⟩ := linearCaliPoint_paired zhuodu retVal
      exact respectsMap_of_paired paired rfl nofun
  | zeroCaliSet setInteger => cases edits
  | zeroCaliConfirm => cases edits
  | fullCali numberBox => cases edits
  | linearCali numberBox => cases edits

section Instance

/-- The settings of a unit in which only the range is set. -/
def rangeSelected (range : U16) : Zhuodu :=
  Zhuodu.assign (fun _ => 0) ⟨.rangeSel, .half range, rfl⟩

/-- The coefficients 1.0 and 2.0 of the third range, confirmed behind the selection of a range
that is still in the queue. -/
theorem commit_agrees_iff_coeffAB :
    AgreesOnRegisters (fun _ => 0) (rangeSelected 2) (initialQueue.rtMqSend (wordMsg 285 2))
      ((Commit.coeffAB 0x3F800000 0x40000000).ops (rangeSelected 2))
      [(.a3, .float 0x3F800000), (.b3, .float 0x40000000)] :=
  (commit_agrees_iff (fun _ => 0) (rangeSelected 2) (initialQueue.rtMqSend (wordMsg 285 2))
    (.coeffAB 0x3F800000 0x40000000) trivial (by decide +kernel)).mpr ⟨nofun, by decide +kernel⟩

/-- In the second range the offset 1.0 goes to the register of `b1`, and `b2` has no
message. -/
theorem commit_zeroCompensate_disagrees :
    ¬ AgreesOnRegisters (fun _ => 0) (Zhuodu.assign (fun _ => 0) ⟨.rangeSel, .half 1, rfl⟩)
        initialQueue
        ((Commit.zeroCompensate 0x3F800000).ops
          (Zhuodu.assign (fun _ => 0) ⟨.rangeSel, .half 1, rfl⟩))
        ((Commit.zeroCompensate 0x3F800000).entered
          (Zhuodu.assign (fun _ => 0) ⟨.rangeSel, .half 1, rfl⟩)) :=
  zeroCompensate_disagrees _ _ _ _ (by decide +kernel) (by decide +kernel)

end Instance

end ZhuoduControl.Menu
