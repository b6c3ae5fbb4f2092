import ZhuoduControl.Menu.Editors

/-! What the editors leave alone, when they end their session, and the text a session
starts from. -/

set_option autoImplicit false

namespace ZhuoduControl.Menu.Edit

open ZhuoduControl.Library
open ZhuoduControl.Data
open ZhuoduControl.Menu.Frame

section Text

/-- The string that `snprintf` makes of a text. -/
def cString (size : Nat) (text : List U8) : List U8 :=
  (text.take (size - 1)).takeWhile fun byte => byte != 0

theorem takeWhile_terminated (text rest : List U8) :
    (text ++ 0 :: rest).takeWhile (fun byte => byte != 0) =
      text.takeWhile fun byte => byte != 0 := by
  induction text with
  | nil => rfl
  | cons byte text ih =>
      rw [List.cons_append, List.takeWhile_cons, List.takeWhile_cons, ih]

/-- A buffer that holds the text up to its terminator. -/
theorem load_printTo {size capacity : Nat} (text : List U8) (buffer : Memory U8)
    (fits : 0 < size ∧ size ≤ capacity) :
    ((printTo size text buffer).load 0 capacity).takeWhile (fun byte => byte != 0) =
      cString size text := by
  have short : (text.take (size - 1) ++ [(0 : U8)]).length ≤ capacity := by
    have taken := List.length_take_le (size - 1) text
    rw [List.length_append, List.length_singleton]
    omega
  obtain ⟨behind, rfl⟩ := Nat.exists_eq_add_of_le short
  rw [printTo, Memory.load_append, Memory.load_store_same, List.append_assoc,
    List.singleton_append, takeWhile_terminated]
  rfl

theorem setText_printTo {size : Nat} (text : List U8) (buffer : Memory U8)
    (fits : 0 < size ∧ size ≤ 25) : setText (printTo size text buffer) = cString size text :=
  load_printTo text buffer fits

end Text

/-- What `set_select` leaves alone. -/
structure SelectFrame (before after : Statics) : Prop where
  number : after.number = before.number
  password : after.password = before.password
  sCur : after.sCur = before.sCur
  setIntFloat : after.setIntFloat = before.setIntFloat
  flag4mA : after.flag4mA = before.flag4mA
  flag20mA : after.flag20mA = before.flag20mA

/-- What `set_int_float_min_max` leaves alone. -/
structure NumberFrame (before after : Statics) : Prop where
  select : after.select = before.select
  password : after.password = before.password
  setIntFloat : after.setIntFloat = before.setIntFloat
  flag4mA : after.flag4mA = before.flag4mA
  flag20mA : after.flag20mA = before.flag20mA

/-- What `get_password` leaves alone. -/
structure PasswordFrame (before after : Statics) : Prop where
  select : after.select = before.select
  number : after.number = before.number
  setIntFloat : after.setIntFloat = before.setIntFloat
  flag4mA : after.flag4mA = before.flag4mA
  flag20mA : after.flag20mA = before.flag20mA

section Select

theorem SelectFrame.withSelect (statics : Statics) (select : SelectStatics) :
    SelectFrame statics (statics.withSelect select) :=
  ⟨rfl, rfl, rfl, rfl, rfl, rfl⟩

theorem SelectFrame.trans {before middle after : Statics} (first : SelectFrame before middle)
    (second : SelectFrame middle after) : SelectFrame before after where
  number := second.number.trans first.number
  password := second.password.trans first.password
  sCur := second.sCur.trans first.sCur
  setIntFloat := second.setIntFloat.trans first.setIntFloat
  flag4mA := second.flag4mA.trans first.flag4mA
  flag20mA := second.flag20mA.trans first.flag20mA

theorem openSelect_frame (args : SelectArgs) (stray : List U8) (statics : Statics) :
    SelectFrame statics (openSelect args stray statics) := by
  rw [openSelect, showSelect, beginSelect]
  split
  · exact ⟨rfl, rfl, rfl, rfl, rfl, rfl⟩
  · exact ⟨rfl, rfl, rfl, rfl, rfl, rfl⟩

/-- What a key makes of the selection. The arrows stay in the table. -/
inductive SelectStep (sizeArray : Nat) (statics : Statics) : Statics × SetStat Nat → Prop
  | edits (select : SelectStatics)
      (entry : statics.select.eeVal < sizeArray → select.eeVal < sizeArray) :
      SelectStep sizeArray statics (statics.withSelect select, .ing)
  | saves : SelectStep sizeArray statics
      (statics.withSelect { statics.select with flag1st := false }, .ok statics.select.eeVal)
  | exits : SelectStep sizeArray statics
      (statics.withSelect { statics.select with flag1st := false }, .exit)

theorem selectMenu_step (sizeArray : Nat) (statics : Statics) :
    SelectStep sizeArray statics (selectMenu statics) := by
  unfold selectMenu
  split
  · exact .saves
  · exact .edits _ id

theorem selectKey_step (msg : KeyCode) (sizeArray : Nat) (statics : Statics) :
    SelectStep sizeArray statics (selectKey msg sizeArray statics) := by
  have stays : SelectStep sizeArray statics (statics, .ing) := .edits statics.select id
  cases msg with
  | downUp =>
      rw [selectKey]
      split
      · exact stays
      · split
        · exact .edits _ fun inside => Nat.sub_one_lt_of_lt (Nat.zero_lt_of_lt inside)
        · exact .edits _ fun inside => Nat.lt_of_le_of_lt (Nat.sub_le _ 1) inside
  | downDown =>
      rw [selectKey]
      split
      · exact stays
      · split
        · exact .edits _ Nat.zero_lt_of_lt
        · split
          · next more => exact .edits _ fun _ => Nat.add_lt_of_lt_sub more
          · exact selectMenu_step sizeArray statics
  | downMenu => exact selectMenu_step sizeArray statics
  | downOk =>
      rw [selectKey]
      split
      · exact .exits
      · split
        · exact .edits _ Nat.zero_lt_of_lt
        · split
          · next more => exact .edits _ fun _ => Nat.add_lt_of_lt_sub more
          · exact .exits
  | none => exact stays
  | downMenuAndOk => exact stays
  | other => exact stays

/-- A key changes the statics of the selection alone, and the session ends on the returns
that leave the page. -/
theorem selectKey_cases (msg : KeyCode) (sizeArray : Nat) (statics : Statics) :
    ∃ select setStat, selectKey msg sizeArray statics = (statics.withSelect select, setStat) ∧
      (setStat.leaves = true → select.flag1st = false) := by
  have step := selectKey_step msg sizeArray statics
  generalize selectKey msg sizeArray statics = result at step
  cases step with
  | edits select entry => exact ⟨select, _, rfl, nofun⟩
  | saves => exact ⟨_, _, rfl, fun _ => rfl⟩
  | exits => exact ⟨_, _, rfl, fun _ => rfl⟩

/-- The keys keep the entry in the table, and it is what is returned. -/
theorem selectKey_inTable (msg : KeyCode) {sizeArray : Nat} {statics : Statics}
    (inside : statics.select.eeVal < sizeArray) :
    (selectKey msg sizeArray statics).1.select.eeVal < sizeArray ∧
      ∀ retVal, (selectKey msg sizeArray statics).2 = .ok retVal → retVal < sizeArray := by
  have step := selectKey_step msg sizeArray statics
  generalize selectKey msg sizeArray statics = result at step
  cases step with
  | edits select entry => exact ⟨entry inside, nofun⟩
  | saves =>
      refine ⟨inside, fun retVal ok => ?_⟩
      cases ok
      exact inside
  | exits => exact ⟨inside, nofun⟩

theorem setSelect_frame (msg : KeyCode) (args : SelectArgs) (stray : List U8)
    (statics : Statics) : SelectFrame statics (setSelect msg args stray statics).1 := by
  obtain ⟨select, setStat, result, _⟩ :=
    selectKey_cases msg args.array.length (openSelect args stray statics)
  rw [setSelect, result]
  exact (openSelect_frame args stray statics).trans (.withSelect _ select)

theorem setSelect_closes {msg : KeyCode} {args : SelectArgs} {stray : List U8}
    {statics : Statics} (leaves : (setSelect msg args stray statics).2.leaves = true) :
    (setSelect msg args stray statics).1.select.flag1st = false := by
  obtain ⟨select, setStat, result, closes⟩ :=
    selectKey_cases msg args.array.length (openSelect args stray statics)
  rw [setSelect, result] at leaves ⊢
  exact closes leaves

end Select

section Number

theorem NumberFrame.refl (statics : Statics) : NumberFrame statics statics :=
  ⟨rfl, rfl, rfl, rfl, rfl⟩

theorem NumberFrame.trans {before middle after : Statics} (first : NumberFrame before middle)
    (second : NumberFrame middle after) : NumberFrame before after where
  select := second.select.trans first.select
  password := second.password.trans first.password
  setIntFloat := second.setIntFloat.trans first.setIntFloat
  flag4mA := second.flag4mA.trans first.flag4mA
  flag20mA := second.flag20mA.trans first.flag20mA

theorem openNumber_frame (args : SetIntFloat) (statics : Statics) :
    NumberFrame statics (openNumber args statics).1 := by
  rw [openNumber]
  split
  · exact .refl statics
  · dsimp only
    split
    · exact ⟨rfl, rfl, rfl, rfl, rfl⟩
    · exact ⟨rfl, rfl, rfl, rfl, rfl⟩

/-- The type of the number is one of those that the editor knows. -/
def SetIntFloat.Printed (args : SetIntFloat) : Prop :=
  ∃ size text, args.dataType.print args.setData = some (size, text)

theorem openNumber_goes_on {args : SetIntFloat} (printed : args.Printed) (statics : Statics) :
    (openNumber args statics).2 = true := by
  obtain ⟨size, text, isText⟩ := printed
  rw [openNumber, isText]
  split
  · rfl
  · rfl

/-- A key leaves the other statics alone, and the session ends on every return but
`SET_ING`. -/
theorem numberKey_cases (msg : KeyCode) (args : SetIntFloat) (uninit : DecimalText.Number)
    (statics : Statics) : ∃ edited setStat, numberKey msg args uninit statics = (edited, setStat) ∧
      NumberFrame statics edited ∧ (setStat.leaves = true → edited.number.flag1st = false) := by
  cases msg with
  | downUp =>
      rw [numberKey]
      split
      · exact ⟨_, _, rfl, .refl statics, nofun⟩
      · exact ⟨_, _, rfl, ⟨rfl, rfl, rfl, rfl, rfl⟩, nofun⟩
  | downDown =>
      rw [numberKey]
      split
      · exact ⟨_, _, rfl, .refl statics, nofun⟩
      · exact ⟨_, _, rfl, ⟨rfl, rfl, rfl, rfl, rfl⟩, nofun⟩
  | downMenu =>
      rw [numberKey]
      split
      · exact ⟨_, _, rfl, ⟨rfl, rfl, rfl, rfl, rfl⟩, fun _ => rfl⟩
      · exact ⟨_, _, rfl, ⟨rfl, rfl, rfl, rfl, rfl⟩, nofun⟩
  | downOk =>
      rw [numberKey]
      split
      · exact ⟨_, _, rfl, ⟨rfl, rfl, rfl, rfl, rfl⟩, fun _ => rfl⟩
      · split
        · exact ⟨_, _, rfl, ⟨rfl, rfl, rfl, rfl, rfl⟩, nofun⟩
        · exact ⟨_, _, rfl, .refl statics, nofun⟩
  | none => exact ⟨_, _, rfl, .refl statics, nofun⟩
  | downMenuAndOk => exact ⟨_, _, rfl, .refl statics, nofun⟩
  | other => exact ⟨_, _, rfl, .refl statics, nofun⟩

theorem setIntFloatMinMax_frame (msg : KeyCode) (args : SetIntFloat)
    (uninit : DecimalText.Number) (statics : Statics) :
    NumberFrame statics (setIntFloatMinMax msg args uninit statics).1 := by
  have opened := openNumber_frame args statics
  rw [setIntFloatMinMax]
  dsimp only
  split
  · obtain ⟨edited, setStat, result, kept, _⟩ :=
      numberKey_cases msg args uninit (openNumber args statics).1
    rw [result]
    exact opened.trans kept
  · exact opened

theorem setIntFloatMinMax_closes {msg : KeyCode} {args : SetIntFloat}
    {uninit : DecimalText.Number} {statics : Statics} (printed : args.Printed)
    (leaves : (setIntFloatMinMax msg args uninit statics).2.leaves = true) :
    (setIntFloatMinMax msg args uninit statics).1.number.flag1st = false := by
  obtain ⟨edited, setStat, result, _, closes⟩ :=
    numberKey_cases msg args uninit (openNumber args statics).1
  have runs : setIntFloatMinMax msg args uninit statics = (edited, setStat) := by
    rw [setIntFloatMinMax]
    dsimp only
    rw [if_pos (openNumber_goes_on printed statics), result]
  rw [runs] at leaves ⊢
  exact closes leaves

end Number

section Password

theorem openPassword_frame (statics : Statics) : PasswordFrame statics (openPassword statics) := by
  rw [openPassword]
  split
  · exact ⟨rfl, rfl, rfl, rfl, rfl⟩
  · exact ⟨rfl, rfl, rfl, rfl, rfl⟩

theorem getPassword_frame (msg : KeyCode) (statics : Statics) :
    PasswordFrame statics (getPassword msg statics).1 := by
  obtain ⟨select, number, setIntFloat, flag4mA, flag20mA⟩ := openPassword_frame statics
  cases msg <;> exact ⟨select, number, setIntFloat, flag4mA, flag20mA⟩

theorem downMenu_of_entered {msg : KeyCode} {statics : Statics} {passWord : List U8}
    (entered : (getPassword msg statics).2 = some passWord) : msg = .downMenu := by
  cases msg with
  | downMenu => rfl
  | none => cases entered
  | downUp => cases entered
  | downDown => cases entered
  | downOk => cases entered
  | downMenuAndOk => cases entered
  | other => cases entered

theorem getPassword_closes {msg : KeyCode} {statics : Statics} {passWord : List U8}
    (entered : (getPassword msg statics).2 = some passWord) :
    (getPassword msg statics).1.password.flag = false := by
  rw [downMenu_of_entered entered]
  rfl

end Password

end ZhuoduControl.Menu.Edit
