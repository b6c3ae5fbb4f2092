import ZhuoduControl.Modbus.MasterRequest

/-! The retry loop of `messageq_thread_entry` over one message. -/

set_option autoImplicit false

namespace ZhuoduControl.Modbus

/-- One attempt: what other threads did to the master before it, and its answer. -/
structure Attempt where
  interference : Master → Master
  answer : Answer

structure LoopResult where
  retry : Nat
  /-- the attempts that put the message on the bus -/
  transmissions : List Nat
  master : Master

/-- `while (retry < retry_times)`, with `remaining` rounds to go. -/
def retryLoop (others : OtherHandlers) (msg : ModbusMsg) (attempts : Nat → Attempt) (retry : Nat)
    (master : Master) : Nat → LoopResult
  | 0 => ⟨retry, [], master⟩
  | remaining + 1 =>
      let attempt := attempts retry
      let result := msg.request others (attempt.interference master) attempt.answer
      let rest :=
        if result.err = .noErr then ⟨retry, [], result.master⟩
        else retryLoop others msg attempts (retry + 1) result.master remaining
      if result.transmitted then { rest with transmissions := retry :: rest.transmissions }
      else rest

/-- The message thread for one received message. Both empty branches after the loop,
for a message that was never accepted, do nothing. -/
def messageqThreadEntry (others : OtherHandlers) (msg : ModbusMsg) (attempts : Nat → Attempt)
    (master : Master) : LoopResult :=
  retryLoop others msg attempts 0 master msg.retryTimes.toNat

end ZhuoduControl.Modbus
