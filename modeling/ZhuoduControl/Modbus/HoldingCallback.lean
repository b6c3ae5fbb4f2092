import ZhuoduControl.Data.Global

/-! The master's holding-register callback: it stores the delivered registers in
the buffer of the answering slave and copies that buffer into `zhuodu_data`. -/

set_option autoImplicit false

namespace ZhuoduControl.Modbus

open ZhuoduControl.Library
open ZhuoduControl.Data

inductive MBErrorCode
  | enoerr
  | enoreg
  | einval
  | eporterr
  | enores
  | eio
  | eillstate
  | etimedout
deriving DecidableEq, Repr

abbrev masterTotalSlaveNum : Nat := 8

def mRegHoldingNregs : Nat := 100

/-- What the callback reads and changes: all rows of `usMRegHoldBuf`, one after
another, and the live settings. -/
structure Mirror where
  usMRegHoldBuf : Memory U16
  zhuoduData : Zhuodu

/-- Both the buffer and `global` are static; `default_init` has run. -/
def powerUp : Mirror where
  usMRegHoldBuf := fun _ => 0
  zhuoduData := (defaultInit GlobalDef.cleared).zhuoduData

/-- `ucMBMasterGetDestAddress() - 1`, which selects the row of the buffer. -/
abbrev Row := Fin masterTotalSlaveNum

def Row.base (row : Row) : Nat := row.val * mRegHoldingNregs

def Mirror.row (mirror : Mirror) (row : Row) : Memory U16 :=
  fun index => mirror.usMRegHoldBuf (row.base + index)

/-- `REG_HOLDING_START` and `REG_HOLDING_NREGS`. -/
structure HoldingRange where
  start : U16
  nregs : U16
deriving DecidableEq, Repr

namespace HoldingRange

/-- No branch assigns the two locals for a low address: they keep what the stack
held, which is the parameter `stale`. -/
def select (stale : HoldingRange) (usAddress : U16) : HoldingRange :=
  if 0x100 ≤ usAddress.toNat then ⟨0x100, 100⟩
  else if 0x200 ≤ usAddress.toNat then ⟨0x200, 100⟩
  else stale

/-- The comparison is made in `int`, so the sums do not wrap. -/
def Accepts (range : HoldingRange) (usAddress usNRegs : U16) : Prop :=
  range.start.toNat ≤ usAddress.toNat ∧
    usAddress.toNat + usNRegs.toNat ≤ range.start.toNat + range.nregs.toNat

instance (range : HoldingRange) (usAddress usNRegs : U16) :
    Decidable (range.Accepts usAddress usNRegs) :=
  inferInstanceAs (Decidable (_ ∧ _))

end HoldingRange

/-- The loop over the delivered registers, two bytes each. -/
def fillRow (pucRegBuffer : Memory U8) (position : Nat) (iRegIndex : U16) :
    Nat → List (Nat × U16)
  | 0 => []
  | usNRegs + 1 =>
      (iRegIndex.toNat, Word.bigEndian (pucRegBuffer position) (pucRegBuffer (position + 1))) ::
        fillRow pucRegBuffer (position + 2) (iRegIndex + 1) usNRegs

/-- `p[i] = q[i]; i++;` repeated. -/
def copyPlain (p i : Nat) : Nat → List (Nat × Nat)
  | 0 => []
  | times + 1 => (p + i, i) :: copyPlain p (i + 1) times

/-- `p[i-k] = q[i+1]; p[i-k+1] = q[i]; i += 2;` repeated. -/
def copySwapped (p k i : Nat) : Nat → List (Nat × Nat)
  | 0 => []
  | times + 1 =>
      (p + (i - k), i + 1) :: (p + (i - k + 1), i) :: copySwapped p k (i + 2) times

def copyCanbi : List (Nat × Nat) :=
  let p := Field.offset .canbiSet
  let halves := copyPlain p 0 5
  let p := Field.offset .turbidimeter
  let k := 5
  let floats := copySwapped p k k 12
  let i := k + 12 * 2
  -- from here on the source indexes `p` by `i`, no longer by `i - k`
  halves ++ floats ++ copyPlain p i 2 ++ copySwapped p 0 (i + 2) 1 ++ copyPlain p (i + 4) 4

def copyCali : List (Nat × Nat) :=
  let p := Field.offset (.turbidimeterCaliBuf 0)
  copySwapped p 0 0 8 ++ copyPlain p 16 2 ++ copySwapped p 0 18 4 ++ copyPlain p 26 3

structure CallbackResult where
  status : MBErrorCode
  /-- the indices of the row that were stored to -/
  written : List Nat
  mirror : Mirror

/-- `eMode` is overwritten with `MB_REG_WRITE` before it is read, so it is no
parameter here. -/
def eMBMasterRegHoldingCB (stale : HoldingRange) (row : Row) (mirror : Mirror)
    (pucRegBuffer : Memory U8) (usAddress usNRegs : U16) : CallbackResult :=
  let usAddress := usAddress - 1
  let range := HoldingRange.select stale usAddress
  if range.Accepts usAddress usNRegs then
    let iRegIndex := usAddress - range.start
    let stores := fillRow pucRegBuffer 0 iRegIndex usNRegs.toNat
    let buffer := mirror.usMRegHoldBuf.setAll
      (stores.map fun store => (row.base + store.1, store.2))
    let q : Memory U16 := fun index => buffer (row.base + index)
    let zhuoduData :=
      if 0x100 ≤ usAddress.toNat then mirror.zhuoduData.copyAll q copyCanbi
      else if 0x200 ≤ usAddress.toNat then mirror.zhuoduData.copyAll q copyCali
      else mirror.zhuoduData
    ⟨.enoerr, stores.map Prod.fst, ⟨buffer, zhuoduData⟩⟩
  else
    ⟨.enoreg, [], mirror⟩

end ZhuoduControl.Modbus
