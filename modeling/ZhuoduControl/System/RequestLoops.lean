import ZhuoduControl.Menu.MenuRuns
import ZhuoduControl.Modbus.MasterRequest
import ZhuoduControl.Settings.GlobalInit

/-! The requests that a page waits for. The two current pages repeat a request until it is
acknowledged. -/

set_option autoImplicit false

namespace ZhuoduControl.System

open ZhuoduControl.Library
open ZhuoduControl.Modbus
open ZhuoduControl.Menu.Edit
open ZhuoduControl.Menu.Frame

/-- What the requests of the menu thread return, one after the other. -/
abbrev Outcomes := Nat → MBMasterReqErrCode

/-- `while(MB_MRE_NO_ERR != eMBMasterReqWriteHoldingRegister(..))`, at most `fuel` requests of
it; `sent` requests have been made before. -/
def waitLoop (outcomes : Outcomes) : Nat → Nat → Option Nat
  | 0, _ => none
  | fuel + 1, sent =>
      if outcomes sent = .noErr then some (sent + 1) else waitLoop outcomes fuel (sent + 1)

/-- The loops behind the editor of a current page. -/
def endingLoop (outcomes : Outcomes) (fuel sent : Nat) :
    Menu.Edit.SetStat DecimalText.Number → Option Nat
  | .ok _ => waitLoop outcomes fuel sent
  | .exit => waitLoop outcomes fuel sent
  | _ => some sent

/-- `menu_4mA_cali` and `menu_20mA_cali` with the number of requests that they make. -/
def invokeCurrent (outcomes : Outcomes) (fuel : Nat) (page : CurrentPage) (own : SetIntFloat)
    (pass : MenuPass) (statics : Statics) : Option (PageResult × Nat) :=
  let opened := openCurrent page own statics
  let edit := setIntFloatMinMax pass.key opened.setIntFloat pass.uninitReal opened
  (if statics.flagCurrent page then some 0 else waitLoop outcomes fuel 0).bind fun sent =>
    (endingLoop outcomes fuel sent edit.2).map fun sent => (currentPage page own pass statics, sent)

/-- The other pages make no request; their messages are put into the queue. -/
def invoke (outcomes : Outcomes) (fuel : Nat) (pass : MenuPass) (statics : Statics) :
    PageBody → Option (PageResult × Nat)
  | .current page own => invokeCurrent outcomes fuel page own pass statics
  | body => some (runPage pass statics body, 0)

def Returns (outcomes : Outcomes) (pass : MenuPass) (statics : Statics) (body : PageBody) : Prop :=
  ∃ fuel done, invoke outcomes fuel pass statics body = some done

def endingAwaits : Menu.Edit.SetStat DecimalText.Number → Nat
  | .ok _ => 1
  | .exit => 1
  | _ => 0

/-- The acknowledgements that the call waits for: one when it enters the page, one when it
sets a current or leaves. -/
def awaited (pass : MenuPass) (statics : Statics) : PageBody → Nat
  | .current page own =>
      let opened := openCurrent page own statics
      let edit := setIntFloatMinMax pass.key opened.setIntFloat pass.uninitReal opened
      if statics.flagCurrent page then endingAwaits edit.2 else endingAwaits edit.2 + 1
  | _ => 0

/-- So many requests from number `sent` on are acknowledged. -/
def Acknowledged (outcomes : Outcomes) (sent : Nat) : Nat → Prop
  | 0 => True
  | count + 1 => ∃ number, sent ≤ number ∧ outcomes number = .noErr ∧
      Acknowledged outcomes (number + 1) count

section Loop

variable {outcomes : Outcomes} {fuel sent stop : Nat}

theorem waitLoop_more (more : Nat) (returned : waitLoop outcomes fuel sent = some stop) :
    waitLoop outcomes (fuel + more) sent = some stop := by
  induction fuel generalizing sent with
  | zero => cases returned
  | succ fuel ih =>
      rw [Nat.add_right_comm]
      unfold waitLoop at returned ⊢
      by_cases acked : outcomes sent = .noErr
      · rw [if_pos acked] at returned ⊢
        exact returned
      · rw [if_neg acked] at returned ⊢
        exact ih returned

/-- The loop ends behind the first acknowledgement. -/
theorem waitLoop_first {number : Nat} (later : sent ≤ number) (acked : outcomes number = .noErr) :
    ∃ fuel stop, waitLoop outcomes fuel sent = some stop ∧ stop ≤ number + 1 := by
  obtain ⟨distance, rfl⟩ := Nat.exists_eq_add_of_le later
  induction distance generalizing sent with
  | zero => exact ⟨1, sent + 1, if_pos acked, Nat.le_refl _⟩
  | succ distance ih =>
      by_cases first : outcomes sent = .noErr
      · exact ⟨1, sent + 1, by rw [waitLoop, if_pos first], by omega⟩
      · have behind : outcomes (sent + 1 + distance) = .noErr := by
          rw [Nat.add_assoc, Nat.add_comm 1 distance]
          exact acked
        obtain ⟨fuel, stop, returned, bound⟩ := ih (Nat.le_add_right _ _) behind
        refine ⟨fuel + 1, stop, ?_, by omega⟩
        rw [waitLoop, if_neg first]
        exact returned

theorem waitLoop_acked (returned : waitLoop outcomes fuel sent = some stop) :
    ∃ number, sent ≤ number ∧ outcomes number = .noErr ∧ stop = number + 1 := by
  induction fuel generalizing sent with
  | zero => cases returned
  | succ fuel ih =>
      unfold waitLoop at returned
      by_cases acked : outcomes sent = .noErr
      · rw [if_pos acked] at returned
        exact ⟨sent, Nat.le_refl _, acked, (Option.some.inj returned).symm⟩
      · rw [if_neg acked] at returned
        obtain ⟨number, later, acked, place⟩ := ih returned
        exact ⟨number, Nat.le_of_succ_le later, acked, place⟩

theorem Acknowledged.earlier {count : Nat} (acknowledged : Acknowledged outcomes stop count)
    (before : sent ≤ stop) : Acknowledged outcomes sent count := by
  cases count with
  | zero => trivial
  | succ count =>
      obtain ⟨number, later, acked, rest⟩ := acknowledged
      exact ⟨number, Nat.le_trans before later, acked, rest⟩

theorem waitLoop_then (count : Nat) :
    Acknowledged outcomes sent (count + 1) ↔
      ∃ fuel stop, waitLoop outcomes fuel sent = some stop ∧ Acknowledged outcomes stop count := by
  constructor
  · rintro ⟨number, later, acked, rest⟩
    obtain ⟨fuel, stop, returned, bound⟩ := waitLoop_first later acked
    exact ⟨fuel, stop, returned, rest.earlier bound⟩
  · rintro ⟨fuel, stop, returned, rest⟩
    obtain ⟨number, later, acked, rfl⟩ := waitLoop_acked returned
    exact ⟨number, later, acked, rest⟩

end Loop

section Pages

variable {outcomes : Outcomes} {page : CurrentPage} {own : SetIntFloat} {pass : MenuPass}
variable {statics : Statics}

theorem endingLoop_more {fuel sent stop : Nat} (more : Nat)
    {setStat : Menu.Edit.SetStat DecimalText.Number}
    (returned : endingLoop outcomes fuel sent setStat = some stop) :
    endingLoop outcomes (fuel + more) sent setStat = some stop := by
  cases setStat with
  | ok retVal => exact waitLoop_more more returned
  | exit => exact waitLoop_more more returned
  | ing => exact returned
  | maxMinError => exact returned

theorem endingLoop_returns (sent : Nat) (setStat : Menu.Edit.SetStat DecimalText.Number) :
    (∃ fuel stop, endingLoop outcomes fuel sent setStat = some stop) ↔
      Acknowledged outcomes sent (endingAwaits setStat) := by
  have loop : (∃ fuel stop, waitLoop outcomes fuel sent = some stop) ↔
      Acknowledged outcomes sent 1 := by
    rw [waitLoop_then]
    exact ⟨fun ⟨fuel, stop, returned⟩ => ⟨fuel, stop, returned, trivial⟩,
      fun ⟨fuel, stop, returned, _⟩ => ⟨fuel, stop, returned⟩⟩
  cases setStat with
  | ok retVal => exact loop
  | exit => exact loop
  | ing => exact iff_of_true ⟨0, sent, rfl⟩ trivial
  | maxMinError => exact iff_of_true ⟨0, sent, rfl⟩ trivial

theorem invokeCurrent_returns :
    (∃ fuel done, invokeCurrent outcomes fuel page own pass statics = some done) ↔
      Acknowledged outcomes 0 (awaited pass statics (.current page own)) := by
  unfold invokeCurrent awaited
  dsimp only
  generalize (setIntFloatMinMax pass.key (openCurrent page own statics).setIntFloat pass.uninitReal
    (openCurrent page own statics)).2 = setStat
  cases entered : statics.flagCurrent page with
  | true =>
      rw [if_pos rfl, ← endingLoop_returns]
      constructor
      · rintro ⟨fuel, done, returned⟩
        obtain ⟨stop, ended, _⟩ := Option.map_eq_some_iff.mp returned
        exact ⟨fuel, stop, ended⟩
      · rintro ⟨fuel, stop, ended⟩
        exact ⟨fuel, _, Option.map_eq_some_iff.mpr ⟨stop, ended, rfl⟩⟩
  | false =>
      rw [if_neg Bool.false_ne_true, waitLoop_then]
      constructor
      · rintro ⟨fuel, done, returned⟩
        obtain ⟨stop, opened, rest⟩ := Option.bind_eq_some_iff.mp returned
        obtain ⟨last, ended, _⟩ := Option.map_eq_some_iff.mp rest
        exact ⟨fuel, stop, opened, (endingLoop_returns stop setStat).mp ⟨fuel, last, ended⟩⟩
      · rintro ⟨fuel, stop, opened, rest⟩
        obtain ⟨more, last, ended⟩ := (endingLoop_returns stop setStat).mpr rest
        have closed : endingLoop outcomes (fuel + more) stop setStat = some last := by
          rw [Nat.add_comm]
          exact endingLoop_more fuel ended
        exact ⟨fuel + more, (currentPage page own pass statics, last),
          Option.bind_eq_some_iff.mpr ⟨stop, waitLoop_more more opened,
            Option.map_eq_some_iff.mpr ⟨last, closed, rfl⟩⟩⟩

/-- A page returns exactly if as many of its requests are acknowledged as it waits for. -/
theorem page_returns_iff (func : PageFunc) (pass : MenuPass) (statics : Statics)
    (outcomes : Outcomes) :
    Returns outcomes pass statics (pageBody func) ↔
      Acknowledged outcomes 0 (awaited pass statics (pageBody func)) := by
  unfold Returns
  cases body : pageBody func with
  | current page own => exact invokeCurrent_returns
  | _ => exact iff_of_true ⟨0, _, rfl⟩ trivial

end Pages

def idlePass : MenuPass := ⟨.none, (Settings.powerOn fun _ => 0).global, [], .nan, 0, false⟩

/-- If no request is acknowledged, the first call of a current page does not return. -/
theorem current_never_returns :
    ¬ ∀ (func : PageFunc) (pass : MenuPass) (statics : Statics) (outcomes : Outcomes),
      Returns outcomes pass statics (pageBody func) := by
  intro always
  obtain ⟨fuel, done, returned⟩ := always .menu4mACali idlePass .cleared fun _ => .timedout
  obtain ⟨sent, opened, _⟩ := Option.bind_eq_some_iff.mp returned
  obtain ⟨number, _, acked, _⟩ := waitLoop_acked opened
  cases acked

end ZhuoduControl.System
