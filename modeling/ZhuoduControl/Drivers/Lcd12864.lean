import ZhuoduControl.Data.Word
import ZhuoduControl.Library.Memory

/-! `lcd_buf`: eight rows of 128 bytes. A text line takes two of them. -/

set_option autoImplicit false

namespace ZhuoduControl.Drivers

open ZhuoduControl.Library
open ZhuoduControl.Data

/-- `Ascii16`, and the glyph that `get_hz_font` finds for three bytes. -/
structure Font where
  ascii16 : U8 → Nat → U8
  hzFont : U8 → U8 → U8 → Nat → U8

section Columns

variable (font : Font)

/-- The columns of a glyph, with their bytes in the upper and in the lower row. -/
def asciiColumns (code : U8) : List (U8 × U8) :=
  (List.range 8).map fun i => (font.ascii16 code i, font.ascii16 code (i + 8))

def hzColumns (code1 code2 code3 : U8) : List (U8 × U8) :=
  let glyph := font.hzFont code1 code2 code3
  (List.range 16).map fun i => (glyph i, glyph (i + 16))

/-- The loop of `LCD_DisplayString` over at most `count` glyphs, behind `len` columns. An
incomplete glyph of three bytes ends it with a blank. -/
def textColumns : Nat → Nat → List U8 → List (U8 × U8)
  | 0, _, _ => []
  | _ + 1, _, [] => []
  | count + 1, len, code1 :: rest =>
      if code1.toNat < 0x80 then
        asciiColumns font code1 ++
          if 128 ≤ len + 8 then [] else textColumns count (len + 8) rest
      else
        match rest with
        | code2 :: code3 :: behind =>
            if code2.toNat < 0x80 ∨ code3.toNat < 0x80 then asciiColumns font 0x20
            else
              hzColumns font code1 code2 code3 ++
                if 128 ≤ len + 16 then [] else textColumns count (len + 16) behind
        | _ => asciiColumns font 0x20

end Columns

def columnWrites (reverse : Bool) : Nat → List (U8 × U8) → List (Nat × U8)
  | _, [] => []
  | address, (up, down) :: rest =>
      (address, if reverse then ~~~up else up) ::
        (address + 128, if reverse then ~~~down else down) ::
          columnWrites reverse (address + 1) rest

def lcdDisplayString (font : Font) (xpos ypos : Nat) (text : List U8) (reverse : Bool)
    (lcd : Memory U8) : Memory U8 :=
  lcd.setAll (columnWrites reverse (ypos / 8 * 128 + xpos) (textColumns font 16 0 text))

/-- `buf` is the place in the memory that the bytes are copied to. -/
def getLineDat (line : Nat) (lcd : Memory U8) (buf : Nat) (memory : Memory U8) : Memory U8 :=
  memory.store buf (lcd.load (line * 128) 128)

def setLineDat (line : Nat) (memory : Memory U8) (buf : Nat) (lcd : Memory U8) : Memory U8 :=
  lcd.store (line * 128) (memory.load buf 128)

section Bounds

variable {font : Font}

theorem asciiColumns_length (code : U8) : (asciiColumns font code).length = 8 := by
  rw [asciiColumns, List.length_map, List.length_range]

theorem hzColumns_length (code1 code2 code3 : U8) :
    (hzColumns font code1 code2 code3).length = 16 := by
  rw [hzColumns, List.length_map, List.length_range]

theorem if_length_le (stops : Prop) [Decidable stops] {columns : List (U8 × U8)} {bound : Nat}
    (fits : columns.length ≤ bound) : (if stops then [] else columns).length ≤ bound := by
  split
  · exact Nat.zero_le _
  · exact fits

/-- No character takes more than eight columns. -/
theorem textColumns_length_le (count len : Nat) (text : List U8) :
    (textColumns font count len text).length ≤ 8 * text.length := by
  induction count generalizing len text with
  | zero => exact Nat.zero_le _
  | succ count ih =>
      have blank (rest : List U8) (code1 : U8) :
          (asciiColumns font 0x20).length ≤ 8 * (code1 :: rest).length := by
        rw [asciiColumns_length, List.length_cons]
        omega
      cases text with
      | nil => exact Nat.le_refl _
      | cons code1 rest =>
          by_cases ascii : code1.toNat < 0x80
          · have later := if_length_le (128 ≤ len + 8) (ih (len + 8) rest)
            rw [textColumns.eq_def]
            simp only [if_pos ascii, List.length_append, asciiColumns_length, List.length_cons]
            omega
          · rcases rest with _ | ⟨code2, _ | ⟨code3, behind⟩⟩
            · simp only [textColumns, if_neg ascii]
              exact blank _ _
            · simp only [textColumns, if_neg ascii]
              exact blank _ _
            · have later := if_length_le (128 ≤ len + 16) (ih (len + 16) behind)
              simp only [textColumns, if_neg ascii]
              split
              · exact blank _ _
              · simp only [List.length_append, hzColumns_length, List.length_cons]
                omega

theorem columnWrites_bounds {reverse : Bool} {address : Nat} {columns : List (U8 × U8)}
    {write : Nat × U8} (member : write ∈ columnWrites reverse address columns) :
    address ≤ write.1 ∧ write.1 < address + 128 + columns.length := by
  induction columns generalizing address with
  | nil => cases member
  | cons column rest ih =>
      rw [List.length_cons]
      rcases List.mem_cons.mp member with rfl | later
      · constructor
        · exact Nat.le_refl _
        · dsimp only
          omega
      · rcases List.mem_cons.mp later with rfl | behind
        · constructor
          · exact Nat.le_add_right _ _
          · dsimp only
            omega
        · have bounds := ih behind
          omega

/-- The bytes in front of the upper row of a text and behind its lower row stay. -/
theorem lcdDisplayString_outside {xpos ypos : Nat} {text : List U8} {reverse : Bool}
    (lcd : Memory U8) {address : Nat}
    (outside : address < ypos / 8 * 128 + xpos ∨
      ypos / 8 * 128 + xpos + 128 + (textColumns font 16 0 text).length ≤ address) :
    lcdDisplayString font xpos ypos text reverse lcd address = lcd address := by
  refine Memory.setAll_untouched _ _ fun write member same => ?_
  have bounds := columnWrites_bounds member
  omega

end Bounds

end ZhuoduControl.Drivers
