import ZhuoduControl.Menu.Frame

/-! Menus that are trees, and what a scan for the children of a node finds in them. -/

set_option autoImplicit false

namespace ZhuoduControl.Menu.Frame

open ZhuoduControl.Library

variable {Func : Type}

/-- The row is a child of the path `parent` and `number` is the last part of its index. -/
def IsChild (parent : List Char) (row : MenuTree Func) (number : List Char) : Prop :=
  row.pIndex.chars = parent ++ '.' :: number ∧ '.' ∉ number

/-- The children of `parent` are the `count` rows from `start` on, numbered from 0 on. -/
structure Siblings (table : Table Func) (parent : List Char) (start count : Nat) : Prop where
  bound : count ≤ indexMax
  fits : start + count ≤ menuMax
  numbered : ∀ k < count, ∃ row number, table (start + k) = some row ∧
    IsChild parent row number ∧ DecimalText.scanInt 3 number = some (k : Int)
  all : ∀ position < menuMax, ∀ row number, table position = some row →
    IsChild parent row number → start ≤ position ∧ position < start + count

/-- A menu that is a tree under its row `root`. -/
structure WellFormed (table : Table Func) (root : Nat) : Prop where
  root_fits : root < menuMax
  root_row : ∃ row, table root = some row ∧ row.pIndex.chars = ['0']
  dotted : ∀ position < menuMax, ∀ row, table position = some row → position ≠ root →
    '.' ∈ row.pIndex.chars
  siblings : ∀ parent, ∃ start count, Siblings table parent start count
  shallow : ∀ position < menuMax, ∀ row, table position = some row →
    row.pIndex.chars.count '.' ≤ stageMax

theorem startsLevel_iff_isChild {parent : List Char} {row : MenuTree Func} :
    DottedPath.StartsLevel '.' (parent ++ ['.']) row.pIndex.chars ↔
      ∃ number, IsChild parent row number := by
  rw [DottedPath.startsLevel_iff]
  simp [IsChild]

theorem IsChild.dotted {parent number : List Char} {row : MenuTree Func}
    (child : IsChild parent row number) : '.' ∈ row.pIndex.chars := by
  rw [child.1]
  exact List.mem_append_right parent List.mem_cons_self

theorem IsChild.split {parent number : List Char} {row : MenuTree Func}
    (child : IsChild parent row number) : row.pIndex.chars = (parent ++ ['.']) ++ number := by
  rw [child.1, List.append_assoc]
  rfl

theorem IsChild.drop {parent number : List Char} {row : MenuTree Func}
    (child : IsChild parent row number) :
    row.pIndex.chars.drop (parent ++ ['.']).length = number := by
  rw [child.split, List.drop_left]

theorem IsChild.lastPart {parent number : List Char} {row : MenuTree Func}
    (child : IsChild parent row number) : lastPart row.pIndex.chars = number := by
  rw [Frame.lastPart, child.1, DottedPath.afterLast_append child.2]
  rfl

theorem IsChild.parentPart {parent number : List Char} {row : MenuTree Func}
    (child : IsChild parent row number) : parentPart row.pIndex.chars = parent ++ ['.'] := by
  have length : row.pIndex.chars.length - number.length = (parent ++ ['.']).length := by
    rw [child.split, List.length_append, Nat.add_sub_cancel]
  rw [Frame.parentPart, child.lastPart, length, child.split, List.take_left]

theorem scanByte_eq {old k : Nat} {text : List Char}
    (scanned : DecimalText.scanInt 3 text = some (k : Int)) (small : k < 256) :
    scanByte old text = k := by
  rw [scanByte, scanned]
  show ((k : Int) % 256).toNat = k
  omega

section Scan

variable {table : Table Func} {parent : List Char} {start count : Nat}

theorem scanRow_child (siblings : Siblings table parent start count) (scan : NodeScan) {k : Nat}
    (below : k < count) : scanRow table (parent ++ ['.']) scan (start + k) =
      ⟨k, (scan.nSubNode + 1) % 256, scan.currNodeList.set k (some (start + k))⟩ := by
  obtain ⟨row, number, found, child, scanned⟩ := siblings.numbered k below
  have small : k < 256 := Nat.lt_trans (Nat.lt_of_lt_of_le below siblings.bound) (by decide)
  have starts := startsLevel_iff_isChild.mpr ⟨number, child⟩
  simp only [scanRow, found, if_pos starts, child.drop, scanByte_eq scanned small]

theorem scanRow_other (siblings : Siblings table parent start count) (scan : NodeScan)
    {position : Nat} (fits : position < menuMax)
    (outside : ¬(start ≤ position ∧ position < start + count)) :
    scanRow table (parent ++ ['.']) scan position = scan := by
  cases found : table position with
  | none => simp only [scanRow, found]
  | some row =>
      simp only [scanRow, found]
      apply if_neg
      intro starts
      obtain ⟨number, child⟩ := startsLevel_iff_isChild.mp starts
      exact outside (siblings.all position fits row number found child)

/-- What the loop has found after its first `passed` rows. -/
structure Scanned (start count : Nat) (before : Memory (Option Nat)) (passed : Nat)
    (scan : NodeScan) : Prop where
  nSubNode : scan.nSubNode = min passed (start + count) - start
  currNodeList : ∀ i, scan.currNodeList i =
    if i < min passed (start + count) - start then some (start + i) else before i

theorem scan_scanned (siblings : Siblings table parent start count) (uninit : Nat)
    (before : Memory (Option Nat)) (passed : Nat) (fits : passed ≤ menuMax) :
    Scanned start count before passed
      ((List.range passed).foldl (scanRow table (parent ++ ['.'])) ⟨uninit, 0, before⟩) := by
  induction passed with
  | zero => exact ⟨by simp, by simp⟩
  | succ passed ih =>
      have scanned := ih (Nat.le_of_succ_le fits)
      rw [List.range_succ, List.foldl_append]
      generalize (List.range passed).foldl (scanRow table (parent ++ ['.']))
        ⟨uninit, 0, before⟩ = scan at scanned
      obtain ⟨counted, listed⟩ := scanned
      show Scanned start count before (passed + 1) (scanRow table (parent ++ ['.']) scan passed)
      by_cases inside : start ≤ passed ∧ passed < start + count
      · obtain ⟨k, rfl⟩ := Nat.exists_eq_add_of_le inside.1
        have below : k < count := by omega
        have found : min (start + k) (start + count) - start = k := by omega
        have next : min (start + k + 1) (start + count) - start = k + 1 := by omega
        have bound : k < 30 := Nat.lt_of_lt_of_le below siblings.bound
        rw [scanRow_child siblings scan below]
        rw [found] at counted listed
        refine ⟨?_, ?_⟩
        · show (scan.nSubNode + 1) % 256 = _
          omega
        · intro i
          show (if i = k then _ else scan.currNodeList i) = _
          rw [next, listed i]
          by_cases here : i = k
          · simp [here]
          · have same : i < k + 1 ↔ i < k := by omega
            simp [here, same]
      · rw [scanRow_other siblings scan fits inside]
        have same : min (passed + 1) (start + count) - start =
            min passed (start + count) - start := by omega
        exact ⟨same ▸ counted, same ▸ listed⟩

/-- The list of a frame shows `count` rows from `start` on. -/
def Shows (frame : Frame Func) (start count : Nat) : Prop :=
  frame.nSubNode = count ∧ ∀ k < count, frame.currNodeList k = some (start + k)

theorem updateNodeList_empty (siblings : Siblings table parent start 0) (uninit : Nat)
    (frame : Frame Func) :
    updateNodeList table uninit (parent ++ ['.']) frame = (frame, false) := by
  obtain ⟨counted, listed⟩ :=
    scan_scanned siblings uninit frame.currNodeList menuMax (Nat.le_refl _)
  have none_found : min menuMax (start + 0) - start = 0 := by omega
  rw [none_found] at counted listed
  rw [updateNodeList]
  simp only [counted, if_true]
  congr
  funext i
  simp [listed i]

theorem updateNodeList_shows (siblings : Siblings table parent start count)
    (some_child : 0 < count) (uninit : Nat) (frame : Frame Func) :
    ∃ list, updateNodeList table uninit (parent ++ ['.']) frame =
        ({ frame with currNodeList := list, nSubNode := count }, true) ∧
      ∀ k < count, list k = some (start + k) := by
  obtain ⟨counted, listed⟩ :=
    scan_scanned siblings uninit frame.currNodeList menuMax (Nat.le_refl _)
  have fits := siblings.fits
  have found : min menuMax (start + count) - start = count := by omega
  rw [found] at counted listed
  refine ⟨_, ?_, fun k below => (listed k).trans (if_pos below)⟩
  rw [updateNodeList, if_neg (by omega), counted]

end Scan

end ZhuoduControl.Menu.Frame
