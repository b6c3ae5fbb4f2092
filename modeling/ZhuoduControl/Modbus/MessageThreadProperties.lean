import ZhuoduControl.Modbus.HoldingCallbackProperties
import ZhuoduControl.Modbus.MessageThread

/-! How often one message reaches the bus. -/

set_option autoImplicit false

namespace ZhuoduControl.Modbus

open ZhuoduControl.Library
open ZhuoduControl.Data

section Request

variable (others : OtherHandlers) {ucSndAddr : U8} (pdu : List U8) (master : Master)

theorem masterRequest_busy :
    (masterRequest others ucSndAddr pdu master .busy).transmitted = false := by
  unfold masterRequest
  split <;> rfl

theorem masterRequest_transmitted (unicast : ucSndAddr.toNat ≤ masterTotalSlaveNum)
    {answer : Answer} (free : answer ≠ .busy) :
    (masterRequest others ucSndAddr pdu master answer).transmitted = true := by
  have known : ¬ masterTotalSlaveNum < ucSndAddr.toNat := Nat.not_lt.mpr unicast
  unfold masterRequest
  rw [if_neg known]
  cases answer with
  | busy => exact absurd rfl free
  | timeout => rfl
  | receiveError => rfl
  | frame stale ucMBFrame usLength =>
      simp only
      split <;> rfl

theorem masterRequest_frame_err (unicast : ucSndAddr.toNat ≤ masterTotalSlaveNum)
    (stale : HoldingRange) (ucMBFrame : Memory U8) (usLength : U16) :
    (masterRequest others ucSndAddr pdu master (.frame stale ucMBFrame usLength)).err = .noErr ↔
      (eMBMasterPollExecute others stale (destRow ucSndAddr)
        { master with pduSndBuf := master.pduSndBuf.store 0 pdu } ucMBFrame usLength).1 =
          exNone := by
  have known : ¬ masterTotalSlaveNum < ucSndAddr.toNat := Nat.not_lt.mpr unicast
  unfold masterRequest
  rw [if_neg known]
  simp only
  split
  · next failed => exact iff_of_false nofun failed
  · next passed => exact iff_of_true rfl (Decidable.not_not.mp passed)

end Request

theorem holdingCallback_accepted (stale : HoldingRange) (row : Row) (mirror : Mirror)
    (pucRegBuffer : Memory U8) {usAddress usNRegs : U16} (lower : 0x100 ≤ usAddress.toNat)
    (upper : usAddress.toNat + usNRegs.toNat ≤ 0x100 + 100) :
    (holdingCallback stale row mirror pucRegBuffer (usAddress + 1) usNRegs).1 = exNone := by
  have back : usAddress + 1 - 1 = usAddress := BitVec.add_sub_cancel usAddress 1
  have accepted := @callback_high_accepted stale row mirror pucRegBuffer (usAddress + 1) usNRegs
    (by rw [back]; exact lower) (by rw [back]; exact upper)
  simp only [holdingCallback, accepted.1]
  rfl

theorem holdingCallback_second_range (stale : HoldingRange) (row : Row) (mirror : Mirror)
    (pucRegBuffer : Memory U8) {usAddress : U16} (usNRegs : U16)
    (lower : 0x200 ≤ usAddress.toNat) :
    holdingCallback stale row mirror pucRegBuffer (usAddress + 1) usNRegs =
      (exIllegalDataAddress, mirror) := by
  have back : usAddress + 1 - 1 = usAddress := BitVec.add_sub_cancel usAddress 1
  have rejected := @callback_high_rejected stale row mirror pucRegBuffer (usAddress + 1) usNRegs
    (by rw [back]; omega) (by rw [back]; omega)
  simp only [holdingCallback, rejected]
  rfl

theorem writeMultiplePdu_pair (usRegAddr first second : U16) :
    writeMultiplePdu usRegAddr [first, second] =
      [16, Word.highByte usRegAddr, Word.lowByte usRegAddr, 0, 2, 4,
        Word.highByte first, Word.lowByte first, Word.highByte second, Word.lowByte second] := by
  simp only [writeMultiplePdu, List.length_cons, List.length_nil, List.flatMap_cons,
    List.flatMap_nil, List.cons_append, List.nil_append, List.cons.injEq, true_and, and_true]
  decide

theorem ModbusMsg.pdu_float {msg : ModbusMsg} {bits : U32} (float : msg.dat = .float bits) :
    msg.pdu = [16, Word.highByte msg.dataAddr, Word.lowByte msg.dataAddr, 0, 2, 4,
      Word.highByte (Word.highWord bits), Word.lowByte (Word.highWord bits),
      Word.highByte (Word.lowWord bits), Word.lowByte (Word.lowWord bits)] := by
  simp only [pdu, float, busWords, swapF32, Word.lowWord_join, Word.highWord_join]
  exact writeMultiplePdu_pair msg.dataAddr (Word.highWord bits) (Word.lowWord bits)

/-- The answer to a multiple write is executed with the bytes of the request. -/
theorem execute_echo (others : OtherHandlers) {msg : ModbusMsg} {bits : U32}
    (float : msg.dat = .float bits) (stale : HoldingRange) (row : Row) (mirror : Mirror)
    (sndBuf ucMBFrame : Memory U8) {usLength : U16}
    (normal : Answer.Normal msg (.frame stale ucMBFrame usLength)) :
    eMBMasterPollExecute others stale row ⟨mirror, sndBuf.store 0 msg.pdu⟩ ucMBFrame usLength =
      holdingCallback stale row mirror (fun index => sndBuf.store 0 msg.pdu (6 + index))
        (msg.dataAddr + 1) 2 := by
  obtain ⟨length, bytes⟩ := normal
  simp only [ModbusMsg.normalPdu, float, Memory.load, List.cons.injEq] at bytes
  obtain ⟨code, _⟩ := bytes
  let sent := sndBuf.store 0 msg.pdu
  have layout := ModbusMsg.pdu_float float
  have image : ∀ index (bound : index < msg.pdu.length), sent index = msg.pdu[index] := by
    intro index bound
    have inside := sndBuf.store_inside 0 msg.pdu index bound
    rwa [Nat.zero_add] at inside
  have address : pduWord sent 1 = msg.dataAddr := by
    unfold pduWord
    rw [image 1 (by simp [layout]), image 2 (by simp [layout])]
    simp [layout]
  have count : pduWord sent 3 = 2 := by
    unfold pduWord
    rw [image 3 (by simp [layout]), image 4 (by simp [layout])]
    simp [layout]
    rfl
  have byteCount : sent 5 = 4 := by
    rw [image 5 (by simp [layout])]
    simp [layout]
  simp only [eMBMasterPollExecute, code, length]
  simp [eMBMasterFuncWriteMultipleHoldingRegister, sent, address, count, byteCount]

theorem execute_normal (others : OtherHandlers) (msg : ModbusMsg) (stale : HoldingRange)
    (row : Row) (mirror : Mirror) (sndBuf ucMBFrame : Memory U8) (usLength : U16)
    (normal : Answer.Normal msg (.frame stale ucMBFrame usLength)) :
    ∃ pucRegBuffer, eMBMasterPollExecute others stale row ⟨mirror, sndBuf.store 0 msg.pdu⟩
        ucMBFrame usLength =
      holdingCallback stale row mirror pucRegBuffer (msg.dataAddr + 1)
        (BitVec.ofNat 16 msg.dat.width.size) := by
  cases kind : msg.dat with
  | half word =>
      obtain ⟨length, bytes⟩ := normal
      simp only [ModbusMsg.normalPdu, kind, Memory.load, writeHoldingPdu, List.cons.injEq] at bytes
      obtain ⟨code, high, low, _⟩ := bytes
      refine ⟨fun index => ucMBFrame (3 + index), ?_⟩
      have address : pduWord ucMBFrame 1 = msg.dataAddr := by
        unfold pduWord
        rw [high, low, Word.bigEndian_bytes]
      simp only [eMBMasterPollExecute, code, length]
      simp [eMBMasterFuncWriteHoldingRegister, address, Value.width, Width.size]
  | float bits => exact ⟨_, execute_echo others kind stale row mirror sndBuf ucMBFrame normal⟩

section Loop

variable (others : OtherHandlers) (msg : ModbusMsg) (attempts : Nat → Attempt) (master : Master)

/-- The master just before attempt `index`, had no earlier attempt ended the loop. -/
def masterAt : Nat → Master
  | 0 => master
  | index + 1 =>
      (msg.request others ((attempts index).interference (masterAt index))
        (attempts index).answer).master

def resultAt (index : Nat) : RequestResult :=
  msg.request others ((attempts index).interference (masterAt others msg attempts master index))
    (attempts index).answer

/-- The loop comes to attempt `index`: no earlier one returned `MB_MRE_NO_ERR`. -/
def Reached (index : Nat) : Prop :=
  ∀ earlier, earlier < index → (resultAt others msg attempts master earlier).err ≠ .noErr

private theorem retryLoop_mem (retry remaining index : Nat) :
    index ∈ (retryLoop others msg attempts retry
        (masterAt others msg attempts master retry) remaining).transmissions ↔
      retry ≤ index ∧ index < retry + remaining ∧
        (∀ earlier, retry ≤ earlier → earlier < index →
          (resultAt others msg attempts master earlier).err ≠ .noErr) ∧
        (resultAt others msg attempts master index).transmitted = true := by
  induction remaining generalizing retry with
  | zero =>
      refine iff_of_false (List.not_mem_nil) ?_
      rintro ⟨lower, upper, _⟩
      omega
  | succ remaining ih =>
      let result := resultAt others msg attempts master retry
      let rest : LoopResult :=
        if result.err = .noErr then ⟨retry, [], result.master⟩
        else retryLoop others msg attempts (retry + 1) result.master remaining
      have unfolded : (retryLoop others msg attempts retry
          (masterAt others msg attempts master retry) (remaining + 1)).transmissions =
          if result.transmitted then retry :: rest.transmissions else rest.transmissions := by
        simp only [retryLoop]
        exact apply_ite LoopResult.transmissions _ _ _
      have later : index ∈ rest.transmissions ↔ retry + 1 ≤ index ∧
          index < retry + (remaining + 1) ∧
          (∀ earlier, retry ≤ earlier → earlier < index →
            (resultAt others msg attempts master earlier).err ≠ .noErr) ∧
          (resultAt others msg attempts master index).transmitted = true := by
        by_cases accepted : result.err = .noErr
        · simp only [rest, if_pos accepted]
          refine iff_of_false List.not_mem_nil ?_
          rintro ⟨lower, _, unfinished, _⟩
          exact unfinished retry (Nat.le_refl _) (by omega) accepted
        · simp only [rest, if_neg accepted]
          rw [show result.master = masterAt others msg attempts master (retry + 1) from rfl, ih]
          constructor
          · rintro ⟨lower, upper, unfinished, sent⟩
            refine ⟨lower, by omega, fun earlier first last => ?_, sent⟩
            rcases Nat.eq_or_lt_of_le first with rfl | after
            · exact accepted
            · exact unfinished earlier after last
          · rintro ⟨lower, upper, unfinished, sent⟩
            exact ⟨lower, by omega, fun earlier first => unfinished earlier (by omega), sent⟩
      rw [unfolded]
      by_cases here : index = retry
      · subst here
        have fresh : index ∉ rest.transmissions := fun member => by
          have := (later.mp member).1
          omega
        by_cases sent : result.transmitted = true
        · rw [if_pos sent]
          refine iff_of_true (.head _) ⟨Nat.le_refl _, by omega, ?_, sent⟩
          intro earlier first last
          omega
        · rw [if_neg sent]
          exact iff_of_false fresh fun reached => sent reached.2.2.2
      · have skip : index ∈ (if result.transmitted = true then retry :: rest.transmissions
            else rest.transmissions) ↔ index ∈ rest.transmissions := by
          split
          · simp [here]
          · rfl
        rw [skip, later]
        constructor
        · rintro ⟨lower, remainder⟩
          exact ⟨by omega, remainder⟩
        · rintro ⟨lower, remainder⟩
          exact ⟨by omega, remainder⟩

private theorem retryLoop_length (retry remaining : Nat) (start : Master) :
    (retryLoop others msg attempts retry start remaining).transmissions.length ≤ remaining := by
  induction remaining generalizing retry start with
  | zero => exact Nat.le_refl _
  | succ remaining ih =>
      have rest := ih (retry + 1)
        (msg.request others ((attempts retry).interference start) (attempts retry).answer).master
      simp only [retryLoop]
      split <;> split
      · simp
      · simp only [List.length_cons]
        omega
      · simp
      · omega

private theorem retryLoop_lower (retry remaining : Nat) (start : Master) :
    ∀ index ∈ (retryLoop others msg attempts retry start remaining).transmissions,
      retry ≤ index := by
  induction remaining generalizing retry start with
  | zero => nofun
  | succ remaining ih =>
      intro index member
      simp only [retryLoop] at member
      have rest := ih (retry + 1)
        (msg.request others ((attempts retry).interference start) (attempts retry).answer).master
        index
      split at member <;> split at member
      · simp at member
        omega
      · rcases List.mem_cons.mp member with rfl | later
        · exact Nat.le_refl _
        · have after := rest later
          omega
      · cases member
      · have after := rest member
        omega

private theorem retryLoop_ascending (retry remaining : Nat) (start : Master) :
    (retryLoop others msg attempts retry start remaining).transmissions.Pairwise (· < ·) := by
  induction remaining generalizing retry start with
  | zero => exact .nil
  | succ remaining ih =>
      let next :=
        (msg.request others ((attempts retry).interference start) (attempts retry).answer).master
      have rest := ih (retry + 1) next
      have above := retryLoop_lower others msg attempts (retry + 1) remaining next
      simp only [retryLoop]
      split <;> split
      · exact List.pairwise_singleton _ _
      · exact .cons (fun index member => above index member) rest
      · exact .nil
      · exact rest

theorem messageqThread_length :
    (messageqThreadEntry others msg attempts master).transmissions.length ≤
      msg.retryTimes.toNat :=
  retryLoop_length others msg attempts 0 _ master

theorem messageqThread_mem (index : Nat) :
    index ∈ (messageqThreadEntry others msg attempts master).transmissions ↔
      index < msg.retryTimes.toNat ∧ Reached others msg attempts master index ∧
        (resultAt others msg attempts master index).transmitted = true := by
  have looped := retryLoop_mem others msg attempts master 0 msg.retryTimes.toNat index
  refine Iff.trans looped ?_
  simp [Reached]

theorem messageqThread_ascending :
    (messageqThreadEntry others msg attempts master).transmissions.Pairwise (· < ·) :=
  retryLoop_ascending others msg attempts 0 _ master

end Loop

structure MenuMsg where
  msg : ModbusMsg
  retries : msg.retryTimes = 5
  slave : msg.devAddr = 1
  inRange : (0x100 ≤ msg.dataAddr.toNat ∧ msg.dataAddr.toNat ≤ 0x124) ∨
    (0x200 ≤ msg.dataAddr.toNat ∧ msg.dataAddr.toNat ≤ 0x21C)

theorem MenuMsg.unicast (queued : MenuMsg) :
    queued.msg.devAddr.toNat ≤ masterTotalSlaveNum := by
  rw [queued.slave]
  decide

theorem MenuMsg.request_normal (queued : MenuMsg) (others : OtherHandlers) (master : Master)
    {answer : Answer} (low : queued.msg.dataAddr.toNat < 0x200)
    (normal : answer.Normal queued.msg) :
    (queued.msg.request others master answer).err = .noErr := by
  cases answer with
  | busy => cases normal
  | timeout => cases normal
  | receiveError => cases normal
  | frame stale ucMBFrame usLength =>
      have range := queued.inRange
      refine (masterRequest_frame_err others _ master queued.unicast stale ucMBFrame usLength).mpr ?_
      obtain ⟨pucRegBuffer, executed⟩ := execute_normal others queued.msg stale
        (destRow queued.msg.devAddr) master.mirror master.pduSndBuf ucMBFrame usLength normal
      refine (congrArg Prod.fst executed).trans (holdingCallback_accepted _ _ _ _ (by omega) ?_)
      cases queued.msg.dat.width with
      | half => simp [Width.size]; omega
      | float => simp [Width.size]; omega

/-- In the range from `0x200` the callback turns it into a request error. -/
theorem MenuMsg.request_normal_refused (queued : MenuMsg) (others : OtherHandlers)
    (master : Master) {answer : Answer} (high : 0x200 ≤ queued.msg.dataAddr.toNat)
    (normal : answer.Normal queued.msg) :
    (queued.msg.request others master answer).err ≠ .noErr := by
  cases answer with
  | busy => cases normal
  | timeout => cases normal
  | receiveError => cases normal
  | frame stale ucMBFrame usLength =>
      intro succeeded
      have executes := (masterRequest_frame_err others _ master queued.unicast stale ucMBFrame
        usLength).mp succeeded
      obtain ⟨pucRegBuffer, executed⟩ := execute_normal others queued.msg stale
        (destRow queued.msg.devAddr) master.mirror master.pduSndBuf ucMBFrame usLength normal
      rw [executed, holdingCallback_second_range _ _ _ _ _ high] at executes
      have refused : exIllegalDataAddress ≠ exNone := by decide
      exact refused executes

structure StopsWhenAnswered (msg : ModbusMsg) (attempts : Nat → Attempt)
    (transmissions : List Nat) : Prop where
  bounded : transmissions.length ≤ msg.retryTimes.toNat
  stops : ∀ index ∈ transmissions, (attempts index).answer.Normal msg →
    ∀ other ∈ transmissions, other ≤ index
  once : (attempts 0).answer.Normal msg → transmissions = [0]

/-- The slave sends at this attempt a frame that is not the normal answer to the message,
and the master accepts it. -/
def AcceptsOther (others : OtherHandlers) (msg : ModbusMsg) (attempts : Nat → Attempt)
    (master : Master) (index : Nat) : Prop :=
  ¬ (attempts index).answer.Normal msg ∧
    (resultAt others msg attempts master index).err = .noErr

/-- A round after a normal answer finds the master busy, unless such a frame has ended
the loop before it. -/
def QuietAfterNormal (others : OtherHandlers) (msg : ModbusMsg) (attempts : Nat → Attempt)
    (master : Master) : Prop :=
  ∀ index later, index < later → later < msg.retryTimes.toNat →
    (attempts index).answer.Normal msg → (attempts later).answer ≠ .busy →
      ∃ earlier, earlier < later ∧ AcceptsOther others msg attempts master earlier

private theorem free_of_normal {msg : ModbusMsg} {answer : Answer} (normal : answer.Normal msg) :
    answer ≠ .busy := by
  intro busy
  rw [busy] at normal
  exact normal

private theorem ascending_eq_zero {transmissions : List Nat}
    (ascending : transmissions.Pairwise (· < ·)) (first : 0 ∈ transmissions)
    (single : ∀ index ∈ transmissions, index ≤ 0) : transmissions = [0] := by
  cases transmissions with
  | nil => cases first
  | cons head tail =>
      have headZero := Nat.le_zero.mp (single head (.head _))
      have tailEmpty : tail = [] := by
        refine List.eq_nil_iff_forall_not_mem.mpr fun index member => ?_
        have above := List.rel_of_pairwise_cons ascending member
        have below := single index (.tail _ member)
        omega
      rw [tailEmpty, headZero]

section MenuMessage

variable (others : OtherHandlers) (queued : MenuMsg) (attempts : Nat → Attempt) (master : Master)

private theorem free_transmitted {index : Nat} (bound : index < queued.msg.retryTimes.toNat)
    (reached : Reached others queued.msg attempts master index)
    (free : (attempts index).answer ≠ .busy) :
    index ∈ (messageqThreadEntry others queued.msg attempts master).transmissions :=
  (messageqThread_mem others queued.msg attempts master index).mpr
    ⟨bound, reached, masterRequest_transmitted others _ _ queued.unicast free⟩

private theorem transmitted_free {index : Nat}
    (sent : (resultAt others queued.msg attempts master index).transmitted = true) :
    (attempts index).answer ≠ .busy := by
  intro busy
  unfold resultAt ModbusMsg.request at sent
  rw [busy, masterRequest_busy] at sent
  cases sent

private theorem quiet_of_stops (high : 0x200 ≤ queued.msg.dataAddr.toNat)
    (sent : StopsWhenAnswered queued.msg attempts
      (messageqThreadEntry others queued.msg attempts master).transmissions) :
    QuietAfterNormal others queued.msg attempts master := by
  intro index later ordered bound normal free
  by_contra silent
  have reached : Reached others queued.msg attempts master later := by
    intro earlier before accepted
    by_cases answered : (attempts earlier).answer.Normal queued.msg
    · exact queued.request_normal_refused others _ high answered accepted
    · exact silent ⟨earlier, before, answered, accepted⟩
  have first := free_transmitted others queued attempts master (Nat.lt_trans ordered bound)
    (fun earlier before => reached earlier (Nat.lt_trans before ordered)) (free_of_normal normal)
  have second := free_transmitted others queued attempts master bound reached free
  exact Nat.not_le_of_lt ordered (sent.stops index first normal later second)

private theorem transmitted_le_normal
    (quiet : queued.msg.dataAddr.toNat < 0x200 ∨
      QuietAfterNormal others queued.msg attempts master)
    {index other : Nat} (normal : (attempts index).answer.Normal queued.msg)
    (member : other ∈ (messageqThreadEntry others queued.msg attempts master).transmissions) :
    other ≤ index := by
  obtain ⟨bound, reached, sent⟩ :=
    (messageqThread_mem others queued.msg attempts master other).mp member
  rcases Nat.lt_or_ge index other with after | before
  · rcases quiet with low | silent
    · exact absurd (queued.request_normal others _ low normal) (reached index after)
    · have free := transmitted_free others queued attempts master sent
      obtain ⟨earlier, preceding, _, accepted⟩ := silent index other after bound normal free
      exact absurd accepted (reached earlier preceding)
  · exact before

end MenuMessage

theorem messageqThread_stops_iff (others : OtherHandlers) (queued : MenuMsg)
    (attempts : Nat → Attempt) (master : Master) :
    StopsWhenAnswered queued.msg attempts
        (messageqThreadEntry others queued.msg attempts master).transmissions ↔
      queued.msg.dataAddr.toNat < 0x200 ∨
        QuietAfterNormal others queued.msg attempts master := by
  constructor
  · intro sent
    rcases Nat.lt_or_ge queued.msg.dataAddr.toNat 0x200 with low | high
    · exact .inl low
    · exact .inr (quiet_of_stops others queued attempts master high sent)
  · intro quiet
    have before : ∀ index, (attempts index).answer.Normal queued.msg →
        ∀ other ∈ (messageqThreadEntry others queued.msg attempts master).transmissions,
          other ≤ index :=
      fun _ normal _ => transmitted_le_normal others queued attempts master quiet normal
    refine ⟨messageqThread_length others _ attempts master,
      fun index _ normal => before index normal, fun normal => ?_⟩
    refine ascending_eq_zero (messageqThread_ascending others queued.msg attempts master) ?_
      (before 0 normal)
    have retried : 0 < queued.msg.retryTimes.toNat := by
      rw [queued.retries]
      decide
    exact free_transmitted others queued attempts master retried
      (fun earlier absent => absurd absent (Nat.not_lt_zero earlier)) (free_of_normal normal)

/-- The calibration trigger `528 := 1`, always answered normally, is sent five times. -/
theorem messageqThread_trigger_repeated :
    ¬ ∀ (others : OtherHandlers) (queued : MenuMsg) (attempts : Nat → Attempt) (master : Master),
      StopsWhenAnswered queued.msg attempts
        (messageqThreadEntry others queued.msg attempts master).transmissions := by
  intro always
  let trigger : MenuMsg := ⟨wordMsg 528 1, rfl, rfl, by decide⟩
  let echo : Memory U8 := fun index => trigger.msg.normalPdu.getD index 0
  let attempt : Attempt := ⟨id, .frame ⟨0, 0⟩ echo 5⟩
  have once := (always (fun _ => none) trigger (fun _ => attempt)
    ⟨⟨fun _ => 0, fun _ => 0⟩, fun _ => 0⟩).once ⟨rfl, rfl⟩
  revert once
  decide +kernel

end ZhuoduControl.Modbus
