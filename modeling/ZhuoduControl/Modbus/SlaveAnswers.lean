import ZhuoduControl.Modbus.SlaveLink
import ZhuoduControl.Modbus.SlaveProtocol
import ZhuoduControl.Modbus.SlaveSafety

/-! The slave from the line to its data: requests come as bytes between silences, and the
bytes that go out are the answers of one bank that served them in order. -/

set_option autoImplicit false

namespace ZhuoduControl.Modbus.Protocol

open ZhuoduControl.Library
open ZhuoduControl.Data
open Rtu Functions

/-- What the line carries between two silences. -/
inductive Traffic
  | own (request : Request)
  | broadcast (request : Request)
  /-- anything that is no frame for the slave -/
  | other (bytes : List U8)

def Traffic.bytes (ucMBAddress : U8) : Traffic → List U8
  | .own request => frame ucMBAddress request.pdu
  | .broadcast request => frame mbAddressBroadcast request.pdu
  | .other bytes => bytes

/-- Requests are shorter than the longest PDU; nothing fills the buffer of the slave to its
last byte. -/
def Traffic.Fits (ucMBAddress : U8) : Traffic → Prop
  | .own request => request.pdu.length < mbPduSizeMax
  | .broadcast request => request.pdu.length < mbPduSizeMax
  | .other bytes => bytes.length ≠ mbSerPduSizeMax ∧
      (bytes.length ≤ mbSerPduSizeMax → Accepted bytes →
        bytes.head? ≠ some ucMBAddress ∧ bytes.head? ≠ some mbAddressBroadcast)

inductive Event
  | heard (traffic : Traffic)
  /-- another thread stores what it has measured or computed -/
  | measured (zhuoduData : Zhuodu)

def Event.traffic? : Event → Option Traffic
  | .heard traffic => some traffic
  | .measured _ => none

def Event.measured? : Event → Option Zhuodu
  | .heard _ => none
  | .measured zhuoduData => some zhuoduData

def store (zhuoduData : Zhuodu) (data : SlaveData) : SlaveData :=
  { data with zhuoduData := zhuoduData }

def Event.input (ucMBAddress : U8) : Event → Input SlaveData
  | .heard traffic => .frame (traffic.bytes ucMBAddress)
  | .measured zhuoduData => .update (store zhuoduData)

/-- A broadcast is served, but not answered. -/
def Bank.follow (bank : Bank) : Event → Bank × Option Response
  | .heard (.own request) =>
      let served := bank.serve request
      (served.1, some served.2)
  | .heard (.broadcast request) => ((bank.serve request).1, none)
  | .heard (.other _) => (bank, none)
  | .measured zhuoduData => ({ bank with turbidity := zhuoduData.readFloat .turbidimeter }, none)

/-- The answers as the line carries them. -/
def onLine (ucMBAddress : U8) (answers : List (Option Response)) : List U8 :=
  answers.flatMap fun answer => answer.elim [] fun response => frame ucMBAddress response.pdu

section Serving

variable {ucMBAddress : U8} {server : Server SlaveData} {bank : Bank}

theorem pdu_nonempty (request : Request) : request.pdu ≠ [] := List.cons_ne_nil _ _

/-- A frame in the buffer is handed up as its address and its PDU. -/
theorem receiveFrom_frame (buffer : Memory U8) (ucAddress : U8) (request : Request) :
    receiveFrom (buffer.store 0 (frame ucAddress request.pdu)) (frame ucAddress request.pdu).length =
        some ⟨ucAddress, request.pdu.length⟩ ∧
      (buffer.store 0 (frame ucAddress request.pdu)).Holds mbSerPduPduOff request.pdu := by
  have stored := Memory.holds_store buffer 0 (frame ucAddress request.pdu)
  obtain ⟨body, _⟩ := Memory.holds_append.mp stored
  obtain ⟨_, pdu⟩ := Memory.holds_cons.mp body
  refine ⟨receiveFrom_iff.mpr ⟨List.length_pos_iff.mpr (pdu_nonempty request), length_frame .., ?_⟩, pdu⟩
  exact stored.trans (congrArg (frame ucAddress) pdu.symm)

/-- A frame for the slave or for all is executed. -/
theorem serve_frame (represents : Represents server.app bank) {ucAddress : U8} {request : Request}
    (fits : request.pdu.length < mbPduSizeMax)
    (addressed : ucAddress = ucMBAddress ∨ ucAddress = mbAddressBroadcast) :
    let next := server.serve slaveHandlers ucMBAddress (.frame (frame ucAddress request.pdu))
    Represents next.app (bank.serve request).1 ∧
      next.answers = server.answers ++
        if ucAddress ≠ mbAddressBroadcast then frame ucMBAddress (bank.serve request).2.pdu
        else [] := by
  have small : (frame ucAddress request.pdu).length ≤ mbSerPduSizeMax := by
    rw [length_frame]
    exact Nat.add_le_of_le_sub (by decide) (Nat.le_of_lt fits)
  obtain ⟨taken, pdu⟩ := receiveFrom_frame server.buffer ucAddress request
  obtain ⟨served, replies, answer⟩ := @execute_serves _ _ _ request.pdu.length ucAddress _ represents
    pdu rfl (Nat.le_of_lt fits)
  unfold Server.serve
  simp only [List.take_of_length_le small, if_pos small, taken, if_pos addressed]
  unfold Server.execute
  by_cases own : ucAddress ≠ mbAddressBroadcast
  · have sends := replies.mpr own
    simp only [sends, if_true, if_pos own]
    exact ⟨served, congrArg (fun pdu => server.answers ++ frame ucMBAddress pdu) (answer sends)⟩
  · have silent := fun sends => own (replies.mp sends)
    simp only [if_neg silent, if_neg own, List.append_nil]
    exact ⟨served, trivial⟩

theorem receiveFrom_store {buffer : Memory U8} {bytes : List U8} {received : Received}
    (taken : receiveFrom (buffer.store 0 bytes) bytes.length = some received) :
    Accepted bytes ∧ bytes.head? = some received.ucRcvAddress := by
  have whole : (buffer.store 0 bytes).load 0 bytes.length = bytes := Memory.holds_store ..
  unfold receiveFrom at taken
  split at taken
  · next accepted =>
    rw [whole] at accepted
    cases taken
    refine ⟨accepted, ?_⟩
    cases bytes with
    | nil => cases accepted.1
    | cons first rest =>
        exact congrArg some (Memory.store_inside buffer 0 (first :: rest) 0 (Nat.zero_lt_succ _)).symm
  · cases taken

theorem serve_other (represents : Represents server.app bank) {bytes : List U8}
    (foreign : bytes.length ≤ mbSerPduSizeMax → Accepted bytes →
      bytes.head? ≠ some ucMBAddress ∧ bytes.head? ≠ some mbAddressBroadcast) :
    let next := server.serve slaveHandlers ucMBAddress (.frame bytes)
    Represents next.app bank ∧ next.answers = server.answers := by
  unfold Server.serve
  simp only
  by_cases small : bytes.length ≤ mbSerPduSizeMax
  · rw [if_pos small, List.take_of_length_le small]
    cases taken : receiveFrom (server.buffer.store 0 bytes) bytes.length with
    | none => exact ⟨represents, rfl⟩
    | some received =>
        obtain ⟨accepted, first⟩ := receiveFrom_store taken
        obtain ⟨notOwn, notAll⟩ := foreign small accepted
        have elsewhere : ¬ (received.ucRcvAddress = ucMBAddress ∨
            received.ucRcvAddress = mbAddressBroadcast) := by
          rintro (same | same)
          · exact notOwn (same ▸ first)
          · exact notAll (same ▸ first)
        simp only [if_neg elsewhere]
        exact ⟨represents, trivial⟩
  · rw [if_neg small]
    exact ⟨represents, rfl⟩

/-- What a server of frames does is what the bank does. -/
theorem serve_follows (own : ucMBAddress ≠ mbAddressBroadcast)
    (represents : Represents server.app bank) {event : Event}
    (fits : ∀ traffic, event.traffic? = some traffic → traffic.Fits ucMBAddress) :
    let next := server.serve slaveHandlers ucMBAddress (event.input ucMBAddress)
    Represents next.app (bank.follow event).1 ∧
      next.answers = server.answers ++ onLine ucMBAddress [(bank.follow event).2] := by
  cases event with
  | measured zhuoduData =>
      exact ⟨{ represents with turbidity := rfl }, (List.append_nil _).symm⟩
  | heard traffic =>
      have fit := fits traffic rfl
      cases traffic with
      | own request =>
          obtain ⟨served, answered⟩ := serve_frame represents fit (.inl rfl)
          rw [if_pos own] at answered
          exact ⟨served, answered.trans (congrArg (server.answers ++ ·) (List.append_nil _).symm)⟩
      | broadcast request =>
          obtain ⟨served, answered⟩ := @serve_frame ucMBAddress _ _ represents _ _ fit (.inr rfl)
          rw [if_neg fun silent => silent rfl] at answered
          exact ⟨served, answered⟩
      | other bytes =>
          obtain ⟨kept, silent⟩ := serve_other represents fit.2
          exact ⟨kept, silent.trans (List.append_nil _).symm⟩

theorem onLine_cons (answer : Option Response) (rest : List (Option Response)) :
    onLine ucMBAddress (answer :: rest) = onLine ucMBAddress [answer] ++ onLine ucMBAddress rest := by
  simp [onLine]

theorem serveAll_follows (own : ucMBAddress ≠ mbAddressBroadcast) {events : List Event}
    (represents : Represents server.app bank)
    (fits : ∀ traffic ∈ events.filterMap Event.traffic?, traffic.Fits ucMBAddress) :
    let final := serveAll slaveHandlers ucMBAddress server (events.map (Event.input ucMBAddress))
    Represents final.app (Service.run Bank.follow bank events).1 ∧
      final.answers = server.answers ++
        onLine ucMBAddress (Service.run Bank.follow bank events).2 := by
  induction events generalizing server bank with
  | nil => exact ⟨represents, (List.append_nil _).symm⟩
  | cons event rest ih =>
      have first : ∀ traffic, event.traffic? = some traffic → traffic.Fits ucMBAddress :=
        fun traffic found => fits traffic (List.mem_filterMap.mpr ⟨event, .head _, found⟩)
      have later : ∀ traffic ∈ rest.filterMap Event.traffic?, traffic.Fits ucMBAddress := by
        intro traffic member
        obtain ⟨other, inRest, found⟩ := List.mem_filterMap.mp member
        exact fits traffic (List.mem_filterMap.mpr ⟨other, .tail _ inRest, found⟩)
      obtain ⟨next, answered⟩ := serve_follows own represents first
      obtain ⟨final, answers⟩ := ih next later
      refine ⟨final, answers.trans ?_⟩
      rw [answered, List.append_assoc]
      exact congrArg (server.answers ++ ·) (onLine_cons ..).symm

/-- An order of frames and updates is an order of events when its parts are. -/
theorem events_of_inputs {inputs : List (Input SlaveData)} {traffic : List Traffic}
    {measured : List Zhuodu}
    (frames : inputs.filterMap Input.frame? = traffic.map (Traffic.bytes ucMBAddress))
    (changes : inputs.filterMap Input.update? = measured.map store) :
    ∃ events : List Event, events.filterMap Event.traffic? = traffic ∧
      events.filterMap Event.measured? = measured ∧
      events.map (Event.input ucMBAddress) = inputs := by
  induction inputs generalizing traffic measured with
  | nil =>
      refine ⟨[], ?_, ?_, rfl⟩
      · exact (List.map_eq_nil_iff.mp frames.symm).symm
      · exact (List.map_eq_nil_iff.mp changes.symm).symm
  | cons input rest ih =>
      cases input with
      | frame bytes =>
          cases traffic with
          | nil => cases frames
          | cons first more =>
              obtain ⟨same, later⟩ := List.cons.inj frames
              obtain ⟨events, heard, told, mapped⟩ := ih later changes
              refine ⟨.heard first :: events, congrArg (first :: ·) heard, told, ?_⟩
              rw [List.map_cons, mapped, same]
              rfl
      | update change =>
          cases measured with
          | nil => cases changes
          | cons first more =>
              obtain ⟨same, later⟩ := List.cons.inj changes
              obtain ⟨events, heard, told, mapped⟩ := ih frames later
              refine ⟨.measured first :: events, heard, congrArg (first :: ·) told, ?_⟩
              rw [List.map_cons, mapped, same]
              rfl

end Serving

section Asserting

variable {App : Type} {handlers : Handlers App} {ucMBAddress : U8} {initial : Server App}
variable {heard : Heard} {inputs : List (Input App)} {line next : SlaveLine App}

theorem complete_grows (labels : List (SlaveLabel App)) :
    heard.complete.tail <+: (labels.foldl Heard.hear heard).complete.tail := by
  induction labels generalizing heard with
  | nil => exact List.prefix_refl _
  | cons label rest ih =>
      refine List.IsPrefix.trans ?_ ih
      cases label with
      | t35 =>
          obtain ⟨complete, current⟩ := heard
          cases complete with
          | nil => exact List.nil_prefix
          | cons first carried => exact List.prefix_append carried [current]
      | received ucByte => exact List.prefix_refl _
      | transmit => exact List.prefix_refl _
      | poll stale => exact List.prefix_refl _
      | update change => exact List.prefix_refl _

/-- A slave that keeps up takes a frame when its bytes are in the buffer and no others. -/
theorem inTime_of_phase {label : SlaveLabel App}
    (phase : Phase handlers ucMBAddress initial heard inputs line)
    (free : ∀ bytes ∈ heard.complete.tail, bytes.length ≠ mbSerPduSizeMax)
    (keepsUp : KeepsUp line label) (stepped : line.step handlers label = some next) :
    line.InTime label := by
  cases SlaveLine.transition stepped with
  | received enabled => exact keepsUp.2.2
  | t35 running => trivial
  | transmit enabled => trivial
  | update => trivial
  | poll stands given =>
      intro takes
      have pending : line.node.rtu.xSlaveOsEvent ≠ .quiet := by
        intro quiet
        rw [quiet] at given
        cases given
      unfold SlaveLine.TakesFrame at takes
      cases phase with
      | startup agrees buffer state events complete none => exact absurd events pending
      | listening agrees buffer reception events complete same =>
          rcases events with none | ready | sent
          · exact absurd none pending
          · rw [ready] at takes
            cases takes
          · rw [sent] at takes
            cases takes
      | @received last agrees buffer state position short events current complete same =>
          rw [position]
          exact free last (same ▸ List.mem_append_right _ (.head _))
      | executing agrees buffer state taken short addressed address length events current complete same =>
          rw [events] at takes
          cases takes
      | sending app sent buffer state xmit place events current complete same =>
          exact absurd events pending
      | ending app sent buffer state xmit place events current complete same =>
          exact absurd stands place

theorem asserted_of_keepsUp (bounded : handlers.Bounded) {labels : List (SlaveLabel App)}
    (sound : line.node.Sound) (own : line.node.ucMBAddress = ucMBAddress)
    (phase : Phase handlers ucMBAddress initial heard inputs line)
    (free : ∀ bytes ∈ (labels.foldl Heard.hear heard).complete.tail,
      bytes.length ≠ mbSerPduSizeMax)
    (guarded : Run.Guarded (SlaveLine.step handlers) KeepsUp line labels) :
    Run.AllSteps (SlaveLine.step handlers) (fun before label _ => before.Asserted label) line
      labels := by
  induction labels generalizing line heard inputs with
  | nil => trivial
  | cons label rest ih =>
      intro next stepped
      obtain ⟨allowed, later⟩ := guarded
      obtain ⟨more, _, held⟩ := phase.step sound.rtu own allowed stepped
      have heardSoFar : ∀ bytes ∈ heard.complete.tail, bytes.length ≠ mbSerPduSizeMax :=
        fun bytes member => free bytes ((complete_grows (label :: rest)).subset member)
      have inTime := inTime_of_phase phase heardSoFar allowed stepped
      refine ⟨(step_asserted_iff sound stepped).mpr inTime, ?_⟩
      exact ih (SlaveLine.step_sound bounded sound stepped) ((step_address stepped).trans own) held
        free (later next stepped)

end Asserting

theorem fits_length {ucMBAddress : U8} {traffic : Traffic} (fits : traffic.Fits ucMBAddress) :
    (traffic.bytes ucMBAddress).length ≠ mbSerPduSizeMax := by
  have limit : mbPduSizeMax + 3 = mbSerPduSizeMax := rfl
  cases traffic with
  | own request =>
      have short : request.pdu.length < mbPduSizeMax := fits
      rw [Traffic.bytes, length_frame]
      omega
  | broadcast request =>
      have short : request.pdu.length < mbPduSizeMax := fits
      rw [Traffic.bytes, length_frame]
      omega
  | other bytes => exact fits.1

/-- A slave whose thread keeps up with the line is its bank: its assertions hold, and what goes out
are the answers of the bank to the requests in the order of the line, with the measurements of other
threads at some moments in between. -/
theorem slave_answers {ucMBAddress : U8} (own : ucMBAddress ≠ mbAddressBroadcast)
    {buffer : Memory U8} {data : SlaveData}
    {labels : List (SlaveLabel SlaveData)} {final : SlaveLine SlaveData}
    {traffic : List Traffic} {measured : List Zhuodu}
    (keepsUp : Run.Guarded (SlaveLine.step slaveHandlers) KeepsUp
      (.start ucMBAddress buffer data) labels)
    (ran : Run.run (SlaveLine.step slaveHandlers) (.start ucMBAddress buffer data) labels =
      some final)
    (carried : segments labels = traffic.map (Traffic.bytes ucMBAddress))
    (fits : ∀ one ∈ traffic, one.Fits ucMBAddress)
    (updated : updates labels = measured.map store) :
    Run.AllSteps (SlaveLine.step slaveHandlers) (fun before label _ => before.Asserted label)
        (.start ucMBAddress buffer data) labels ∧
      ∃ events : List Event, events.filterMap Event.traffic? <+: traffic ∧
        events.filterMap Event.measured? = measured ∧
        Represents final.node.app (Service.run Bank.follow (bankOf data) events).1 ∧
        final.sent <+: onLine ucMBAddress (Service.run Bank.follow (bankOf data) events).2 ∧
        (final.Idle → events.filterMap Event.traffic? = traffic ∧
          final.sent = onLine ucMBAddress (Service.run Bank.follow (bankOf data) events).2) := by
  have free : ∀ bytes ∈ (heard labels).complete.tail, bytes.length ≠ mbSerPduSizeMax := by
    intro bytes member
    have inSegments : bytes ∈ segments labels := member
    rw [carried] at inSegments
    obtain ⟨one, inTraffic, rfl⟩ := List.mem_map.mp inSegments
    exact fits_length (fits one inTraffic)
  have begun : Phase slaveHandlers ucMBAddress ⟨data, buffer, []⟩ ⟨[], []⟩ []
      (.start ucMBAddress buffer data) := .startup ⟨rfl, rfl, rfl⟩ rfl rfl rfl rfl rfl
  refine ⟨asserted_of_keepsUp slaveHandlers_bounded (SlaveLine.start_sound ..) rfl begun free
    keepsUp, ?_⟩
  obtain ⟨inputs, changes, frames, app, sent, idle⟩ :=
    serves_of_bounded slaveHandlers_bounded keepsUp ran
  rw [carried] at frames idle
  obtain ⟨served, front, same⟩ := List.prefix_map_iff.mp frames
  obtain ⟨events, heard, told, mapped⟩ := events_of_inputs same (changes.trans updated)
  have servedFits : ∀ one ∈ events.filterMap Event.traffic?, one.Fits ucMBAddress := by
    intro one member
    rw [heard] at member
    exact fits one (front.subset member)
  have start : Represents (⟨data, buffer, []⟩ : Server SlaveData).app (bankOf data) :=
    represents_bankOf data
  obtain ⟨reached, answers⟩ := serveAll_follows own start servedFits
  rw [mapped] at reached answers
  rw [answers, List.nil_append] at sent idle
  refine ⟨events, heard ▸ front, told, app ▸ reached, sent, fun ended => ?_⟩
  obtain ⟨whole, all⟩ := idle ended
  have lengths : served.length = traffic.length := by
    have mapped := congrArg List.length (same.symm.trans whole)
    rwa [List.length_map, List.length_map] at mapped
  exact ⟨heard.trans (front.eq_of_length lengths), all⟩

def cleared : SlaveData :=
  ⟨fun _ => 0, fun _ => 0, fun _ => 0, fun _ => 0, ⟨fun _ => 0, 0, by decide⟩, fun _ => 0⟩

/-- A request to read three coils; the turbidity changes while it is executed. -/
def coilsRead : List (SlaveLabel SlaveData) :=
  [.t35, .poll none] ++ (frame 1 (Request.readCoils 0 3).pdu).map .received ++
    [.t35, .poll none, .update (store fun _ => 1), .poll none] ++ List.replicate 9 .transmit ++
    [.poll none]

theorem coilsRead_runs : (Run.run (SlaveLine.step slaveHandlers) (.start 1 (fun _ => 0) cleared)
    coilsRead).isSome = true := by
  decide +kernel

/-- The request is answered with the whole frame, and the slave listens again. -/
theorem slave_answers_coilsRead :
    let final := (Run.run (SlaveLine.step slaveHandlers) (.start 1 (fun _ => 0) cleared)
      coilsRead).get coilsRead_runs
    final.Idle ∧ ∃ events : List Event, events.filterMap Event.traffic? = [.own (.readCoils 0 3)] ∧
      events.filterMap Event.measured? = [fun _ => 1] ∧
      final.sent = onLine 1 (Service.run Bank.follow (bankOf cleared) events).2 := by
  have keepsUp : Run.Guarded (SlaveLine.step slaveHandlers) KeepsUp
      (.start 1 (fun _ => 0) cleared) coilsRead := by
    decide +kernel
  have fits : ∀ one ∈ [Traffic.own (.readCoils 0 3)], one.Fits 1 := by
    intro one member
    cases List.mem_singleton.mp member
    have short : (Request.readCoils 0 3).pdu.length < mbPduSizeMax := by decide
    exact short
  have updated : updates coilsRead = [fun _ => 1].map store := rfl
  have ended : ((Run.run (SlaveLine.step slaveHandlers) (.start 1 (fun _ => 0) cleared)
      coilsRead).get coilsRead_runs).Idle := by
    decide +kernel
  obtain ⟨_, events, _, told, _, _, idle⟩ := slave_answers (by decide) keepsUp
    (Option.some_get coilsRead_runs).symm (by decide +kernel) fits updated
  obtain ⟨heard, answered⟩ := idle ended
  exact ⟨ended, events, heard, told, answered⟩

end ZhuoduControl.Modbus.Protocol
