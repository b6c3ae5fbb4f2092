import Mathlib.Algebra.Group.Nat.Defs
import ZhuoduControl.Data.Word

/-! The clock of the kernel, as far as settings in seconds depend on it. -/

set_option autoImplicit false

namespace ZhuoduControl.Kernel

open ZhuoduControl.Data

/-- `RT_TICK_PER_SECOND` -/
def rtTickPerSecond : Nat := 1000

/-- `RT_TICK_MAX` -/
def rtTickMax : Nat := 0xFFFFFFFF

/-- The argument `seconds*RT_TICK_PER_SECOND` of `rt_timer_create`. -/
def timerTicks (seconds : U32) : U32 := seconds * BitVec.ofNat 32 rtTickPerSecond

/-- A signed number of seconds whose product is a time that `rt_timer_start` asserts. -/
def Startable (seconds : U32) : Prop :=
  1 ≤ seconds.toInt ∧ seconds.toInt * (rtTickPerSecond : Int) < (rtTickMax / 2 : Nat)

instance (seconds : U32) : Decidable (Startable seconds) :=
  inferInstanceAs (Decidable (_ ∧ _))

/-- The 32 bits of the clock hold the product. -/
def TicksFit (seconds : U32) : Prop := seconds.toNat * rtTickPerSecond < 2 ^ 32

theorem timerTicks_eq_iff {seconds : U32} :
    (timerTicks seconds).toNat = seconds.toNat * rtTickPerSecond ↔ TicksFit seconds := by
  have product : (timerTicks seconds).toNat = seconds.toNat * rtTickPerSecond % 2 ^ 32 := by
    rw [timerTicks, BitVec.toNat_mul]
    rfl
  rw [product]
  constructor
  · intro whole
    unfold TicksFit
    rw [← whole]
    exact Nat.mod_lt _ (Nat.two_pow_pos 32)
  · exact Nat.mod_eq_of_lt

end ZhuoduControl.Kernel
