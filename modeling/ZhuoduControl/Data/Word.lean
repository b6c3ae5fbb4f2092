/-! Machine words of the target: bytes, 16-bit registers and 32-bit values. A
`float` is carried as its 32-bit pattern, which is all the modelled code moves. -/

set_option autoImplicit false

namespace ZhuoduControl.Data

abbrev U8 := BitVec 8
abbrev U16 := BitVec 16
abbrev U32 := BitVec 32

namespace Word

def bigEndian (high low : U8) : U16 := high ++ low

def highByte (word : U16) : U8 := word.extractLsb' 8 8

def lowByte (word : U16) : U8 := word.extractLsb' 0 8

def join (high low : U16) : U32 := high ++ low

def highWord (value : U32) : U16 := value.extractLsb' 16 16

def lowWord (value : U32) : U16 := value.extractLsb' 0 16

@[simp] theorem bigEndian_bytes (word : U16) : bigEndian (highByte word) (lowByte word) = word :=
  BitVec.extractLsb'_append_extractLsb'_eq_extractLsb' (by decide) |>.trans (by simp)

@[simp] theorem highByte_bigEndian (high low : U8) : highByte (bigEndian high low) = high := by
  unfold highByte bigEndian
  rw [BitVec.extractLsb'_append_eq_of_le (by decide)]
  exact BitVec.extractLsb'_eq_self

@[simp] theorem lowByte_bigEndian (high low : U8) : lowByte (bigEndian high low) = low := by
  unfold lowByte bigEndian
  rw [BitVec.extractLsb'_append_eq_of_add_le (by decide)]
  exact BitVec.extractLsb'_eq_self

@[simp] theorem join_words (value : U32) : join (highWord value) (lowWord value) = value :=
  BitVec.extractLsb'_append_extractLsb'_eq_extractLsb' (by decide) |>.trans (by simp)

@[simp] theorem highWord_join (high low : U16) : highWord (join high low) = high := by
  unfold highWord join
  rw [BitVec.extractLsb'_append_eq_of_le (by decide)]
  exact BitVec.extractLsb'_eq_self

@[simp] theorem lowWord_join (high low : U16) : lowWord (join high low) = low := by
  unfold lowWord join
  rw [BitVec.extractLsb'_append_eq_of_add_le (by decide)]
  exact BitVec.extractLsb'_eq_self

theorem join_inj {high low otherHigh otherLow : U16} :
    join high low = join otherHigh otherLow ↔ high = otherHigh ∧ low = otherLow := by
  constructor
  · intro same
    have highs := congrArg highWord same
    have lows := congrArg lowWord same
    simpa using And.intro highs lows
  · rintro ⟨rfl, rfl⟩
    rfl

end Word

end ZhuoduControl.Data
