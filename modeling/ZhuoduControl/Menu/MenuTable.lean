import ZhuoduControl.Menu.FrameProperties

/-! `s_Menu`, and the evaluation that shows it to be a tree. -/

set_option autoImplicit false

namespace ZhuoduControl.Menu.Frame

open ZhuoduControl.Library

/-- The page functions of the menu, and `pass_proc`. -/
inductive PageFunc
  | menuMainDisp
  | menuUnit
  | menuRangeSetup
  | menuZeroCali
  | menuFullCali
  | menuZeroCompensate
  | menuDisplayZhuoduXiguangdu
  | menuDisplayFormula
  | menuDisplayCh123
  | menuTempSelect
  | menuTempCompensate
  | menuRelay1AlarmSel
  | menuRelay1AlarmValue
  | menuRelay1AlarmDelay
  | menuRelay2AlarmSel
  | menuRelay2AlarmValue
  | menuRelay2AlarmDelay
  | menuCleanInterval
  | menuCleanTime
  | menu4mACali
  | menu20mACali
  | menuBacklightSetup
  | menuPasswordSetup
  | menuSerialNoSetup
  | menuRs485Id
  | menuRs485Baud
  | menuRs485Databit
  | menuRs485Check
  | menuRelayTest
  | menuAfterServiceSetup
  | menuResetFactory
  | menuRangeSelect
  | menuCoeffABSetup
  | menuLinearCaliPoint
  | menuLinearCali
  | menuSignalSetup
  | menuCanbiZhuodu
  | passProc
deriving DecidableEq, Repr

def menuRow (pIndex : String) (pFunc : Option PageFunc)
    (short : pIndex.toList.length ≤ 16 := by decide) : MenuTree PageFunc :=
  ⟨⟨pIndex.toList, short⟩, pFunc⟩

def menuRows : List (MenuTree PageFunc) :=
  [menuRow "0" (some .menuMainDisp),
    menuRow "0.0" none, menuRow "0.1" none, menuRow "0.2" none, menuRow "0.3" none,
    menuRow "0.4" none, menuRow "0.5" none, menuRow "0.6" none,
    menuRow "0.7" (some .menuResetFactory),
    menuRow "0.0.0" (some .menuUnit), menuRow "0.0.1" (some .menuRangeSetup),
    menuRow "0.0.2" (some .menuZeroCali), menuRow "0.0.3" (some .menuFullCali),
    menuRow "0.0.4" (some .menuZeroCompensate), menuRow "0.0.5" none, menuRow "0.0.6" none,
    menuRow "0.0.5.0" (some .menuDisplayZhuoduXiguangdu),
    menuRow "0.0.5.1" (some .menuDisplayFormula), menuRow "0.0.5.2" (some .menuDisplayCh123),
    menuRow "0.0.6.0" (some .menuTempSelect), menuRow "0.0.6.1" (some .menuTempCompensate),
    menuRow "0.1.0" (some .menuRelay1AlarmSel), menuRow "0.1.1" (some .menuRelay1AlarmValue),
    menuRow "0.1.2" (some .menuRelay1AlarmDelay), menuRow "0.1.3" (some .menuRelay2AlarmSel),
    menuRow "0.1.4" (some .menuRelay2AlarmValue), menuRow "0.1.5" (some .menuRelay2AlarmDelay),
    menuRow "0.2.0" (some .menuCleanInterval), menuRow "0.2.1" (some .menuCleanTime),
    menuRow "0.3.0" (some .menu4mACali), menuRow "0.3.1" (some .menu20mACali),
    menuRow "0.4.0" none, menuRow "0.4.1" (some .menuBacklightSetup),
    menuRow "0.4.2" (some .menuPasswordSetup), menuRow "0.4.3" (some .menuSerialNoSetup),
    menuRow "0.5.0" (some .menuRs485Id), menuRow "0.5.1" (some .menuRs485Baud),
    menuRow "0.5.2" (some .menuRs485Databit), menuRow "0.5.3" (some .menuRs485Check),
    menuRow "0.6.0" (some .menuRelayTest), menuRow "0.6.1" (some .menuAfterServiceSetup),
    menuRow "1.0" none, menuRow "1.1" none, menuRow "1.2" none, menuRow "1.3" none,
    menuRow "1.4" (some .menuUnit),
    menuRow "1.0.0" (some .menuRangeSelect), menuRow "1.0.1" (some .menuRangeSetup),
    menuRow "1.0.2" (some .menuCoeffABSetup),
    menuRow "1.1.0" (some .menuLinearCaliPoint), menuRow "1.1.1" (some .menuLinearCali),
    menuRow "1.2.0" (some .menu4mACali), menuRow "1.2.1" (some .menu20mACali),
    menuRow "1.3.0" (some .menuSignalSetup), menuRow "1.3.1" (some .menuCanbiZhuodu),
    menuRow "1.3.2" (some .menuZeroCali)]

/-- `s_Menu`; the rows behind the last initializer are cleared. -/
def sMenu : Table PageFunc := fun position => menuRows[position]?

section Rows

variable {Func : Type} (rows : List (MenuTree Func))

/-- The rows one level below `parent` with the numbers that are scanned there. -/
def childRows (parent : List Char) : List (Nat × Option Int) :=
  ((List.range rows.length).filter fun position => (rows[position]?).any fun row =>
      DottedPath.StartsLevel '.' (parent ++ ['.']) row.pIndex.chars).map fun position =>
    (position, (rows[position]?).bind fun row =>
      DecimalText.scanInt 3 (row.pIndex.chars.drop (parent.length + 1)))

/-- The children of `parent` as a tree has them. -/
def numberedFrom (start count : Nat) : List (Nat × Option Int) :=
  (List.range count).map fun k => (start + k, some (k : Int))

variable {rows}

theorem mem_childRows {parent : List Char} {position : Nat} {scanned : Option Int} :
    (position, scanned) ∈ childRows rows parent ↔ ∃ row number, rows[position]? = some row ∧
      IsChild parent row number ∧ DecimalText.scanInt 3 number = scanned := by
  simp only [childRows, List.mem_map, List.mem_filter, List.mem_range, Prod.mk.injEq]
  constructor
  · intro listed
    obtain ⟨_, ⟨_, matching⟩, rfl, rfl⟩ := listed
    obtain ⟨row, found, starts⟩ := (Option.any_eq_true _ _).mp matching
    obtain ⟨number, child⟩ := startsLevel_iff_isChild.mp (of_decide_eq_true starts)
    refine ⟨row, number, found, child, ?_⟩
    rw [found, Option.bind_some, ← child.drop, List.length_append]
    rfl
  · intro exists_row
    obtain ⟨row, number, found, child, rfl⟩ := exists_row
    refine ⟨position, ⟨(List.getElem?_eq_some_iff.mp found).1, ?_⟩, rfl, ?_⟩
    · rw [found]
      exact decide_eq_true (startsLevel_iff_isChild.mpr ⟨number, child⟩)
    · rw [found, Option.bind_some, ← child.drop, List.length_append]
      rfl

theorem siblings_of_childRows {parent : List Char} {start count : Nat}
    (bound : count ≤ indexMax) (fits : start + count ≤ menuMax)
    (listed : childRows rows parent = numberedFrom start count) :
    Siblings (fun position => rows[position]?) parent start count where
  bound := bound
  fits := fits
  numbered := by
    intro k below
    have member : (start + k, some (k : Int)) ∈ childRows rows parent := by
      rw [listed]
      exact List.mem_map.mpr ⟨k, List.mem_range.mpr below, rfl⟩
    exact mem_childRows.mp member
  all := by
    intro position _ row number found child
    have member : (position, DecimalText.scanInt 3 number) ∈ childRows rows parent :=
      mem_childRows.mpr ⟨row, number, found, child, rfl⟩
    rw [listed] at member
    obtain ⟨k, below, same⟩ := List.mem_map.mp member
    have here : start + k = position := congrArg Prod.fst same
    subst here
    exact ⟨Nat.le_add_right start k, Nat.add_lt_add_left (List.mem_range.mp below) start⟩

theorem siblings_of_no_child {parent : List Char}
    (none_there : ∀ row ∈ rows, ∀ number, ¬ IsChild parent row number) :
    Siblings (fun position => rows[position]?) parent 0 0 where
  bound := Nat.zero_le _
  fits := Nat.zero_le _
  numbered := fun _ below => absurd below (Nat.not_lt_zero _)
  all := fun _ _ row number found child =>
    absurd child (none_there row (List.mem_of_getElem? found) number)

/-- Nodes with the first row and the number of their children make a tree of rows. -/
theorem wellFormed_of_nodes {rows : List (MenuTree Func)} {root : MenuTree Func}
    (nodes : List (List Char × Nat × Nat)) (rootIndex : root.pIndex.chars = ['0'])
    (dotted : ∀ row ∈ rows, '.' ∈ row.pIndex.chars ∧ row.pIndex.chars.count '.' ≤ stageMax)
    (listed : ∀ node ∈ nodes, node.2.2 ≤ indexMax ∧ node.2.1 + node.2.2 ≤ menuMax ∧
      childRows (root :: rows) node.1 = numberedFrom node.2.1 node.2.2)
    (covered : ∀ row ∈ rows, parentPart row.pIndex.chars ∈ nodes.map fun node => node.1 ++ ['.']) :
    WellFormed (fun position => (root :: rows)[position]?) 0 where
  root_fits := by decide
  root_row := ⟨root, rfl, rootIndex⟩
  dotted := by
    intro position _ row found notRoot
    cases position with
    | zero => exact absurd rfl notRoot
    | succ position => exact (dotted row (List.mem_of_getElem? found)).1
  siblings := by
    intro parent
    by_cases inner : parent ∈ nodes.map Prod.fst
    · obtain ⟨node, member, rfl⟩ := List.mem_map.mp inner
      obtain ⟨bound, fits, children⟩ := listed node member
      exact ⟨node.2.1, node.2.2, siblings_of_childRows bound fits children⟩
    · refine ⟨0, 0, siblings_of_no_child ?_⟩
      intro row member number child
      cases member with
      | head =>
          have dot := child.dotted
          rw [rootIndex] at dot
          exact absurd dot (by decide)
      | tail _ member =>
          have parentListed := covered row member
          rw [child.parentPart] at parentListed
          obtain ⟨node, isNode, same⟩ := List.mem_map.mp parentListed
          exact inner (List.mem_map.mpr ⟨node, isNode, List.append_cancel_right same⟩)
  shallow := by
    intro position _ row found
    cases position with
    | zero =>
        cases found
        rw [rootIndex]
        decide
    | succ position => exact (dotted row (List.mem_of_getElem? found)).2

end Rows

/-- The inner nodes with the first row and the number of their children. -/
def menuNodes : List (List Char × Nat × Nat) :=
  [("0".toList, 1, 8), ("0.0".toList, 9, 7), ("0.0.5".toList, 16, 3), ("0.0.6".toList, 19, 2),
    ("0.1".toList, 21, 6), ("0.2".toList, 27, 2), ("0.3".toList, 29, 2), ("0.4".toList, 31, 4),
    ("0.5".toList, 35, 4), ("0.6".toList, 39, 2), ("1".toList, 41, 5), ("1.0".toList, 46, 3),
    ("1.1".toList, 49, 2), ("1.2".toList, 51, 2), ("1.3".toList, 53, 3)]

theorem menuNodes_listed : ∀ node ∈ menuNodes, node.2.2 ≤ indexMax ∧
    node.2.1 + node.2.2 ≤ menuMax ∧ childRows menuRows node.1 = numberedFrom node.2.1 node.2.2 := by
  decide +kernel

theorem menuRows_dotted : ∀ row ∈ menuRows.tail, '.' ∈ row.pIndex.chars ∧
    row.pIndex.chars.count '.' ≤ stageMax := by
  decide +kernel

theorem menuRows_covered : ∀ row ∈ menuRows.tail,
    parentPart row.pIndex.chars ∈ menuNodes.map fun node => node.1 ++ ['.'] := by
  decide +kernel

theorem sMenu_wellFormed : WellFormed sMenu 0 :=
  wellFormed_of_nodes menuNodes rfl menuRows_dotted menuNodes_listed menuRows_covered

end ZhuoduControl.Menu.Frame
