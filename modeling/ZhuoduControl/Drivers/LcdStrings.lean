import ZhuoduControl.Drivers.Lcd12864

/-! `LCD_DisplayString` on a string in memory: the bytes it looks at, and the places of
`lcd_buf` that it writes. -/

set_option autoImplicit false

namespace ZhuoduControl.Drivers

open ZhuoduControl.Library
open ZhuoduControl.Data

/-- The loop from `position` on with its columns and the positions it reads. The condition is
joined with `&`, so that the byte is read even when `i` has reached its bound. -/
def displayLoop (font : Font) (ptr : Memory U8) : Nat → Nat → Nat → List (U8 × U8) × List Nat
  | 0, _, position => ([], [position])
  | count + 1, len, position =>
      let code1 := ptr position
      if code1 = 0 then ([], [position])
      else if code1.toNat < 0x80 then
        if 128 ≤ len + 8 then (asciiColumns font code1, [position])
        else
          let later := displayLoop font ptr count (len + 8) (position + 1)
          (asciiColumns font code1 ++ later.1, position :: later.2)
      else
        let code2 := ptr (position + 1)
        let code3 := ptr (position + 2)
        let reads := [position, position + 1, position + 2]
        if code2.toNat < 0x80 ∨ code3.toNat < 0x80 then (asciiColumns font 0x20, reads)
        else if 128 ≤ len + 16 then (hzColumns font code1 code2 code3, reads)
        else
          let later := displayLoop font ptr count (len + 16) (position + 3)
          (hzColumns font code1 code2 code3 ++ later.1, reads ++ later.2)

/-- The bytes of `text` from `position` on, and the NUL behind them. -/
def Spells (ptr : Memory U8) : Nat → List U8 → Prop
  | position, [] => ptr position = 0
  | position, byte :: rest => ptr position = byte ∧ byte ≠ 0 ∧ Spells ptr (position + 1) rest

def displayString (font : Font) (xpos ypos : Nat) (ptr : Memory U8) (reverse : Bool)
    (lcd : Memory U8) : Memory U8 :=
  lcd.setAll (columnWrites reverse (ypos / 8 * 128 + xpos) (displayLoop font ptr 16 0 0).1)

/-- A byte of the two rows of the text, from its first column on. -/
def InRow (xpos ypos address : Nat) : Prop :=
  ∃ row column, address = row * 128 + column ∧ (row = ypos / 8 ∨ row = ypos / 8 + 1) ∧
    xpos ≤ column ∧ column < 128

structure StaysInside (font : Font) (xpos ypos : Nat) (ptr : Memory U8) (text : List U8)
    (reverse : Bool) : Prop where
  reads : ∀ position ∈ (displayLoop font ptr 16 0 0).2, position ≤ text.length
  changes : ∀ lcd address, displayString font xpos ypos ptr reverse lcd address ≠ lcd address →
    InRow xpos ypos address
  /-- eight rows of 128 bytes -/
  buffer : ∀ write ∈ columnWrites reverse (ypos / 8 * 128 + xpos) (displayLoop font ptr 16 0 0).1,
    write.1 < 8 * 128

/-- The characters of a text; an incomplete one of three bytes is the last. -/
inductive Glyph
  | ascii
  | hz
  /-- a blank for a character that is not one -/
  | blank
  /-- a blank for a character of which only the first byte is there -/
  | cut
deriving DecidableEq, Repr

def Glyph.width : Glyph → Nat
  | hz => 16
  | _ => 8

def glyphs : List U8 → List Glyph
  | [] => []
  | [code1] => if code1.toNat < 0x80 then [.ascii] else [.cut]
  | [code1, code2] => if code1.toNat < 0x80 then .ascii :: glyphs [code2] else [.blank]
  | code1 :: code2 :: code3 :: behind =>
      if code1.toNat < 0x80 then .ascii :: glyphs (code2 :: code3 :: behind)
      else if code2.toNat < 0x80 ∨ code3.toNat < 0x80 then [.blank]
      else .hz :: glyphs behind

/-- At most `count` characters, and none behind 128 columns. -/
def shownGlyphs : Nat → Nat → List Glyph → List Glyph
  | 0, _, _ => []
  | _ + 1, _, [] => []
  | count + 1, len, glyph :: rest =>
      glyph :: if 128 ≤ len + glyph.width then [] else shownGlyphs count (len + glyph.width) rest

def widthOf (shown : List Glyph) : Nat := shown.foldr (fun glyph width => glyph.width + width) 0

/-- No character that is shown lacks all but its first byte, and they end in the row. -/
structure Fits (xpos : Nat) (text : List U8) : Prop where
  whole : .cut ∉ shownGlyphs 16 0 (glyphs text)
  columns : xpos + widthOf (shownGlyphs 16 0 (glyphs text)) ≤ 128

/-- How a text begins. -/
inductive Begins : List U8 → Prop
  | nothing : Begins []
  | ascii {code1 rest} (ascii : code1.toNat < 0x80) : Begins (code1 :: rest)
  | cut {code1} (lead : ¬ code1.toNat < 0x80) : Begins [code1]
  | short {code1 code2} (lead : ¬ code1.toNat < 0x80) : Begins [code1, code2]
  | blank {code1 code2 code3 behind} (lead : ¬ code1.toNat < 0x80)
      (bad : code2.toNat < 0x80 ∨ code3.toNat < 0x80) : Begins (code1 :: code2 :: code3 :: behind)
  | hz {code1 code2 code3 behind} (lead : ¬ code1.toNat < 0x80)
      (good : ¬ (code2.toNat < 0x80 ∨ code3.toNat < 0x80)) :
      Begins (code1 :: code2 :: code3 :: behind)

theorem begins (text : List U8) : Begins text := by
  match text with
  | [] => exact .nothing
  | code1 :: rest =>
      by_cases ascii : code1.toNat < 0x80
      · exact .ascii ascii
      · match rest with
        | [] => exact .cut ascii
        | [code2] => exact .short ascii
        | code2 :: code3 :: behind =>
            by_cases bad : code2.toNat < 0x80 ∨ code3.toNat < 0x80
            · exact .blank ascii bad
            · exact .hz ascii bad

section Loop

variable {font : Font} {ptr : Memory U8} {code1 : U8} {rest text : List U8}
variable {count len position : Nat}

theorem glyphs_ascii (ascii : code1.toNat < 0x80) :
    glyphs (code1 :: rest) = .ascii :: glyphs rest := by
  match rest with
  | [] => simp [glyphs, ascii]
  | [code2] => simp [glyphs, ascii]
  | code2 :: code3 :: behind => simp [glyphs, ascii]

theorem displayLoop_ascii (nonzero : ptr position ≠ 0) (ascii : (ptr position).toNat < 0x80) :
    displayLoop font ptr (count + 1) len position =
      if 128 ≤ len + 8 then (asciiColumns font (ptr position), [position])
      else
        let later := displayLoop font ptr count (len + 8) (position + 1)
        (asciiColumns font (ptr position) ++ later.1, position :: later.2) :=
  (if_neg nonzero).trans (if_pos ascii)

theorem displayLoop_blank (nonzero : ptr position ≠ 0) (lead : ¬ (ptr position).toNat < 0x80)
    (bad : (ptr (position + 1)).toNat < 0x80 ∨ (ptr (position + 2)).toNat < 0x80) :
    displayLoop font ptr (count + 1) len position =
      (asciiColumns font 0x20, [position, position + 1, position + 2]) :=
  (if_neg nonzero).trans ((if_neg lead).trans (if_pos bad))

theorem displayLoop_hz (nonzero : ptr position ≠ 0) (lead : ¬ (ptr position).toNat < 0x80)
    (good : ¬ ((ptr (position + 1)).toNat < 0x80 ∨ (ptr (position + 2)).toNat < 0x80)) :
    displayLoop font ptr (count + 1) len position =
      let columns := hzColumns font (ptr position) (ptr (position + 1)) (ptr (position + 2))
      let reads := [position, position + 1, position + 2]
      if 128 ≤ len + 16 then (columns, reads)
      else
        let later := displayLoop font ptr count (len + 16) (position + 3)
        (columns ++ later.1, reads ++ later.2) :=
  (if_neg nonzero).trans ((if_neg lead).trans (if_neg good))

theorem displayLoop_columns (spells : Spells ptr position text) :
    (displayLoop font ptr count len position).1 = textColumns font count len text := by
  induction count generalizing len position text with
  | zero => rfl
  | succ count ih =>
      cases begins text with
      | nothing =>
          have nul : ptr position = 0 := spells
          simp [displayLoop, textColumns, nul]
      | ascii ascii =>
          obtain ⟨rfl, nonzero, later⟩ := spells
          rw [textColumns.eq_def, displayLoop_ascii nonzero ascii]
          simp only [ascii, if_true]
          split
          · exact (List.append_nil _).symm
          · rw [ih later]
      | cut lead =>
          obtain ⟨rfl, nonzero, nul⟩ := spells
          have second : ptr (position + 1) = 0 := nul
          rw [displayLoop_blank nonzero lead (.inl (by simp [second]))]
          simp [textColumns, lead]
      | short lead =>
          obtain ⟨rfl, nonzero, rfl, _, nul⟩ := spells
          have third : ptr (position + 2) = 0 := nul
          rw [displayLoop_blank nonzero lead (.inr (by simp [third]))]
          simp [textColumns, lead]
      | blank lead bad =>
          obtain ⟨rfl, nonzero, rfl, _, rfl, _, later⟩ := spells
          rw [displayLoop_blank nonzero lead bad]
          simp only [textColumns, lead, bad, if_true, if_false]
      | hz lead good =>
          obtain ⟨rfl, nonzero, rfl, _, rfl, _, later⟩ := spells
          rw [displayLoop_hz nonzero lead good]
          simp only [textColumns, lead, good, if_false]
          split
          · exact (List.append_nil _).symm
          · rw [ih later]

@[simp] theorem widthOf_nil : widthOf [] = 0 := rfl

@[simp] theorem widthOf_cons (glyph : Glyph) (shown : List Glyph) :
    widthOf (glyph :: shown) = glyph.width + widthOf shown := rfl

theorem shownGlyphs_cons {glyph : Glyph} {width : Nat} (wide : glyph.width = width)
    (shown : List Glyph) :
    shownGlyphs (count + 1) len (glyph :: shown) =
      glyph :: if 128 ≤ len + width then [] else shownGlyphs count (len + width) shown := by
  rw [← wide]
  rfl

theorem shownGlyphs_alone (count len : Nat) (glyph : Glyph) :
    shownGlyphs (count + 1) len [glyph] = [glyph] := by
  cases count <;> simp [shownGlyphs]

theorem textColumns_length (font : Font) (count len : Nat) (text : List U8) :
    (textColumns font count len text).length = widthOf (shownGlyphs count len (glyphs text)) := by
  induction count generalizing len text with
  | zero => rfl
  | succ count ih =>
      have blank (glyph : Glyph) (width : glyph.width = 8) :
          (asciiColumns font 0x20).length = widthOf (shownGlyphs (count + 1) len [glyph]) := by
        rw [shownGlyphs_alone, asciiColumns_length]
        simp [width]
      cases begins text with
      | nothing => rfl
      | @ascii code1 rest ascii =>
          have wide : Glyph.ascii.width = 8 := rfl
          rw [textColumns.eq_def, glyphs_ascii ascii, shownGlyphs_cons wide]
          simp only [ascii, if_true, widthOf_cons, wide, List.length_append, asciiColumns_length]
          by_cases stops : 128 ≤ len + 8
          · rw [if_pos stops, if_pos stops]
            rfl
          · rw [if_neg stops, if_neg stops, ih]
      | cut lead =>
          simp only [textColumns, glyphs, lead, if_false]
          exact blank .cut rfl
      | short lead =>
          simp only [textColumns, glyphs, lead, if_false]
          exact blank .blank rfl
      | blank lead bad =>
          simp only [textColumns, glyphs, lead, bad, if_false, if_true]
          exact blank .blank rfl
      | hz lead good =>
          have wide : Glyph.hz.width = 16 := rfl
          simp only [textColumns, glyphs, lead, good, if_false, shownGlyphs_cons wide, widthOf_cons,
            wide, List.length_append, hzColumns_length]
          by_cases stops : 128 ≤ len + 16
          · rw [if_pos stops, if_pos stops]
            rfl
          · rw [if_neg stops, if_neg stops, ih]

/-- The loop reads behind the NUL exactly where a character is cut off behind its first byte. -/
theorem displayLoop_reads (spells : Spells ptr position text) :
    (∀ read ∈ (displayLoop font ptr count len position).2, read ≤ position + text.length) ↔
      .cut ∉ shownGlyphs count len (glyphs text) := by
  induction count generalizing len position text with
  | zero => simp [displayLoop, shownGlyphs]
  | succ count ih =>
      cases begins text with
      | nothing =>
          have nul : ptr position = 0 := spells
          simp [displayLoop, nul, glyphs, shownGlyphs]
      | ascii ascii =>
          obtain ⟨rfl, nonzero, later⟩ := spells
          rw [displayLoop_ascii nonzero ascii, glyphs_ascii ascii,
            shownGlyphs_cons (show Glyph.ascii.width = 8 from rfl), List.length_cons]
          by_cases stops : 128 ≤ len + 8
          · rw [if_pos stops, if_pos stops]
            simp
          · have rest := @ih _ (len + 8) _ later
            rw [if_neg stops, if_neg stops, List.mem_cons, ← Nat.add_assoc, Nat.add_right_comm]
            simp only [List.mem_cons, forall_eq_or_imp, reduceCtorEq, false_or, rest]
            exact and_iff_right (by omega)
      | cut lead =>
          obtain ⟨rfl, nonzero, nul⟩ := spells
          have second : ptr (position + 1) = 0 := nul
          rw [displayLoop_blank nonzero lead (.inl (by simp [second]))]
          simp [glyphs, lead, shownGlyphs_alone]
      | short lead =>
          obtain ⟨rfl, nonzero, rfl, _, nul⟩ := spells
          have third : ptr (position + 2) = 0 := nul
          rw [displayLoop_blank nonzero lead (.inr (by simp [third]))]
          simp [glyphs, lead, shownGlyphs_alone]
      | blank lead bad =>
          obtain ⟨rfl, nonzero, rfl, _, rfl, _, later⟩ := spells
          rw [displayLoop_blank nonzero lead bad]
          simp only [glyphs, lead, bad, if_false, if_true, shownGlyphs_alone, List.length_cons]
          simp
      | @hz code1 code2 code3 behind lead good =>
          obtain ⟨rfl, nonzero, rfl, _, rfl, _, later⟩ := spells
          rw [displayLoop_hz nonzero lead good]
          simp only [glyphs, lead, good, if_false,
            shownGlyphs_cons (show Glyph.hz.width = 16 from rfl), List.length_cons]
          by_cases stops : 128 ≤ len + 16
          · rw [if_pos stops, if_pos stops]
            simp
          · have rest : (∀ read ∈ (displayLoop font ptr count (len + 16) (position + 3)).2,
                read ≤ position + 3 + behind.length) ↔
                  .cut ∉ shownGlyphs count (len + 16) (glyphs behind) := ih later
            have place : position + (behind.length + 1 + 1 + 1) = position + 3 + behind.length := by
              omega
            rw [if_neg stops, if_neg stops, place, List.forall_mem_append, rest]
            simp
            omega

end Loop

section Rows

variable {reverse : Bool} {columns : List (U8 × U8)} {address : Nat}

theorem mem_columnWrites {write : Nat × U8} (member : write ∈ columnWrites reverse address columns) :
    ∃ index, index < columns.length ∧
      (write.1 = address + index ∨ write.1 = address + index + 128) := by
  induction columns generalizing address with
  | nil => cases member
  | cons column rest ih =>
      rcases List.mem_cons.mp member with rfl | later
      · exact ⟨0, Nat.zero_lt_succ _, .inl rfl⟩
      · rcases List.mem_cons.mp later with rfl | behind
        · exact ⟨0, Nat.zero_lt_succ _, .inr rfl⟩
        · obtain ⟨index, inside, place⟩ := ih behind
          refine ⟨index + 1, Nat.succ_lt_succ inside, ?_⟩
          omega

theorem columnWrites_reach {index : Nat} (inside : index < columns.length) :
    ∃ value, (address + index + 128, value) ∈ columnWrites reverse address columns := by
  induction columns generalizing address index with
  | nil => cases inside
  | cons column rest ih =>
      cases index with
      | zero => exact ⟨_, .tail _ (.head _)⟩
      | succ index =>
          obtain ⟨value, member⟩ := @ih (address + 1) index (Nat.lt_of_succ_lt_succ inside)
          refine ⟨value, .tail _ (.tail _ ?_)⟩
          rw [← Nat.add_assoc, Nat.add_right_comm address index 1]
          exact member

/-- What a cell holds after it has been written does not depend on the memory before. -/
theorem setAll_written {Cell : Type} {writes : List (Nat × Cell)} {address : Nat}
    (written : ∃ write ∈ writes, write.1 = address) (first second : Memory Cell) :
    first.setAll writes address = second.setAll writes address := by
  induction writes generalizing first second with
  | nil =>
      obtain ⟨write, member, _⟩ := written
      cases member
  | cons head rest ih =>
      by_cases again : ∃ write ∈ rest, write.1 = address
      · exact ih again _ _
      · have untouched : ∀ write ∈ rest, write.1 ≠ address :=
          fun write member same => again ⟨write, member, same⟩
        obtain ⟨write, member, same⟩ := written
        have here : write = head := (List.mem_cons.mp member).resolve_right fun later =>
          untouched write later same
        rw [Memory.setAll_cons, Memory.setAll_cons, Memory.setAll_untouched _ _ untouched,
          Memory.setAll_untouched _ _ untouched, ← same, here, Memory.set_same, Memory.set_same]

theorem setAll_changes {writes : List (Nat × U8)} {address : Nat} {value : U8}
    (member : (address, value) ∈ writes) :
    ∃ lcd : Memory U8, lcd.setAll writes address ≠ lcd address := by
  let blank : Memory U8 := fun _ => 0
  refine ⟨fun _ => ~~~blank.setAll writes address, fun same => ?_⟩
  have written : ∃ write ∈ writes, write.1 = address := ⟨_, member, rfl⟩
  rw [setAll_written written _ blank] at same
  have complement : ∀ byte : U8, byte ≠ ~~~byte := by decide
  exact complement _ same

variable {font : Font} {ptr : Memory U8} {text : List U8} {xpos ypos : Nat}

/-- The columns end in the row exactly if all that is written is in it. -/
theorem writes_inRow (fits : xpos + columns.length ≤ 128) {write : Nat × U8}
    (member : write ∈ columnWrites reverse (ypos / 8 * 128 + xpos) columns) :
    InRow xpos ypos write.1 := by
  obtain ⟨index, inside, place⟩ := mem_columnWrites member
  rcases place with upper | lower
  · exact ⟨ypos / 8, xpos + index, by omega, .inl rfl, by omega, by omega⟩
  · exact ⟨ypos / 8 + 1, xpos + index, by omega, .inr rfl, by omega, by omega⟩

/-- A column behind the row is written below the text. -/
theorem overflow_below (short : xpos < 128) (wide : 128 < xpos + columns.length) :
    ∃ value, ((ypos / 8 + 2) * 128, value) ∈ columnWrites reverse (ypos / 8 * 128 + xpos) columns := by
  have inside : 128 - xpos < columns.length := by omega
  obtain ⟨value, member⟩ := @columnWrites_reach reverse columns (ypos / 8 * 128 + xpos) _ inside
  refine ⟨value, ?_⟩
  have place : ypos / 8 * 128 + xpos + (128 - xpos) + 128 = (ypos / 8 + 2) * 128 := by omega
  rw [← place]
  exact member

theorem displayLoop_length (font : Font) (spells : Spells ptr 0 text) :
    (displayLoop font ptr 16 0 0).1.length = widthOf (shownGlyphs 16 0 (glyphs text)) := by
  rw [displayLoop_columns spells, textColumns_length]

theorem reads_iff (font : Font) (spells : Spells ptr 0 text) :
    (∀ read ∈ (displayLoop font ptr 16 0 0).2, read ≤ text.length) ↔
      .cut ∉ shownGlyphs 16 0 (glyphs text) := by
  have reads := @displayLoop_reads font ptr text 16 0 0 spells
  rw [Nat.zero_add] at reads
  exact reads

theorem fits_of_stays (column : xpos < 128) (spells : Spells ptr 0 text)
    (stays : StaysInside font xpos ypos ptr text reverse) : Fits xpos text := by
  refine ⟨(reads_iff font spells).mp stays.reads, Nat.le_of_not_lt fun wide => ?_⟩
  rw [← displayLoop_length font spells] at wide
  obtain ⟨value, member⟩ := @overflow_below reverse _ xpos ypos column wide
  obtain ⟨lcd, changed⟩ := setAll_changes member
  obtain ⟨line, place, same, lines, _⟩ := stays.changes lcd _ changed
  omega

theorem stays_of_fits (row : ypos / 8 ≤ 6) (spells : Spells ptr 0 text) (fits : Fits xpos text) :
    StaysInside font xpos ypos ptr text reverse := by
  have columns := fits.columns
  rw [← displayLoop_length font spells] at columns
  refine ⟨(reads_iff font spells).mpr fits.whole, fun lcd address changed => ?_,
    fun write member => ?_⟩
  · refine Classical.byContradiction fun outside => changed ?_
    refine Memory.setAll_untouched _ _ fun write member same => outside ?_
    rw [← same]
    exact writes_inRow columns member
  · obtain ⟨line, place, same, lines, _⟩ := writes_inRow columns member
    omega

/-- A text stays in its row and in its string exactly if it fits and is not cut off. -/
theorem displayString_stays_iff (font : Font) {xpos ypos : Nat} {ptr : Memory U8} {text : List U8}
    (reverse : Bool) (column : xpos < 128) (row : ypos ∈ [0, 16, 32, 48])
    (spells : Spells ptr 0 text) :
    StaysInside font xpos ypos ptr text reverse ↔ Fits xpos text := by
  have last : ypos / 8 ≤ 6 := by
    simp only [List.mem_cons, List.not_mem_nil, or_false] at row
    omega
  exact ⟨fits_of_stays column spells, stays_of_fits last spells⟩

end Rows

def unitText : Memory U8 := fun position => [0x6D, 0x67, 0x2F, 0x4C].getD position 0

theorem unitText_spells : Spells unitText 0 [0x6D, 0x67, 0x2F, 0x4C] := by
  simp [Spells, unitText]

def blankFont : Font := ⟨fun _ _ => 0, fun _ _ _ _ => 0⟩

theorem displayString_stays_iff_unit :
    StaysInside blankFont 96 16 unitText [0x6D, 0x67, 0x2F, 0x4C] false ↔
      Fits 96 [0x6D, 0x67, 0x2F, 0x4C] :=
  displayString_stays_iff blankFont false (by decide) (by decide) unitText_spells

/-- The unit where its page shows it goes on in the first columns of the lines below. -/
theorem unit_overflows :
    ¬ ∀ (font : Font) (xpos ypos : Nat) (ptr : Memory U8) (text : List U8) (reverse : Bool),
      xpos < 128 → ypos ∈ [0, 16, 32, 48] → Spells ptr 0 text →
        StaysInside font xpos ypos ptr text reverse := by
  intro always
  have stays := always blankFont 104 16 unitText _ false (by decide) (by decide) unitText_spells
  have wide : ¬ 104 + widthOf (shownGlyphs 16 0 (glyphs [0x6D, 0x67, 0x2F, 0x4C])) ≤ 128 := by
    decide
  exact wide (fits_of_stays (by decide) unitText_spells stays).columns

end ZhuoduControl.Drivers
