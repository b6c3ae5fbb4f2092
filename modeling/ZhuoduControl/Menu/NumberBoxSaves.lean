import ZhuoduControl.Menu.NumberBoxText

/-! When a number box takes a number, and what it leaves on the screen. -/

set_option autoImplicit false

namespace ZhuoduControl.Menu.Box

open ZhuoduControl.Library
open ZhuoduControl.Library.DecimalText
open ZhuoduControl.Data
open ZhuoduControl.Drivers
open ZhuoduControl.Menu.Frame
open ZhuoduControl.Menu.Edit

/-- `set_integer` or `set_float` is the number, as far as a `float` can be. -/
def NumberBox.Holds (box : NumberBox) (value : Rat) : Prop :=
  match box.dataType with
  | .integer => (box.setInteger.toNat : Rat) = value
  | .float => box.setFloat = Binary32.ofRat value

def NumberBox.SameNumber (before after : NumberBox) : Prop :=
  after.setInteger = before.setInteger ∧ after.setFloat = before.setFloat

/-- The complete text is a number strictly between the bounds. -/
def NumberBox.Offers (box : NumberBox) (value : Rat) : Prop :=
  readSigned (bytesChars box.text) = some value ∧ box.min < value ∧ value < box.max

def Saves (session : BoxSession) (event : BoxEvent) : Prop :=
  ∃ uninit, event = .call .downMenu uninit ∧ session.box.boxStat = .saving

structure SavesValid (before : BoxSession) (event : BoxEvent) (after : BoxSession) : Prop where
  kept : ¬ Saves before event → before.box.SameNumber after.box
  refused : (∀ value, ¬ before.box.Offers value) → before.box.SameNumber after.box
  taken : Saves before event → ∀ value, before.box.Offers value → after.box.Holds value
  unedited : before.box.isReadonly = true ∨ before.box.boxStat = .unfocused →
    before.box.SameNumber after.box
  /-- both rows of the prompt -/
  restored : ∀ msg uninit, event = .call msg uninit → before.box.boxStat = .saving →
    after.box.boxStat ≠ .saving → ∀ column < 256,
      after.screen.lcd (before.box.promptY / 8 * 128 + column) =
        before.began (before.box.promptY / 8 * 128 + column)

/-- A text that is not a number is saved, and what `sscanf` makes of it, or leaves in
`retVal`, is between the bounds. -/
def Misreads (clib : Clib) (session : BoxSession) (event : BoxEvent) : Prop :=
  ∃ uninit value, event = .call .downMenu uninit ∧ session.box.boxStat = .saving ∧
    readSigned (bytesChars session.box.text) = none ∧
    (clib.sscanf session.box.text).getD uninit = .finite value ∧
    session.box.min < value ∧ value < session.box.max

/-- `set_integer` has no sign and no places behind the point. -/
def CutsNumber (session : BoxSession) (event : BoxEvent) : Prop :=
  Saves session event ∧ session.box.dataType = .integer ∧
    ∃ value, session.box.Offers value ∧ ∀ count : Nat, value ≠ count

/-- The text runs from the row above the prompt into the first row of it. -/
def Overdraws (font : Font) (session : BoxSession) (event : BoxEvent) : Prop :=
  ∃ msg uninit, event = .call msg uninit ∧ session.box.closes msg = true ∧
    session.box.isShow = true ∧ session.box.y = 16 ∧
    128 < session.box.x + (textColumns font 16 0 session.box.text).length

def Faulty (clib : Clib) (font : Font) (session : BoxSession) (event : BoxEvent) : Prop :=
  Misreads clib session event ∨ CutsNumber session event ∨ Overdraws font session event

theorem pageBoxes_places : ∀ config ∈ pageBoxes,
    config.x ≤ 88 ∧ (config.y = 0 ∨ config.y = 16 ∨ config.y = 32 ∨ config.y = 48) := by
  decide +kernel

section Rows

variable {box : NumberBox} {lcd buf : Memory U8}

theorem promptY_keptLine : box.promptY / 8 = box.keptLine := by
  unfold NumberBox.promptY NumberBox.keptLine
  split
  · rfl
  · rfl

theorem capture_inside {index : Nat} (inside : index < 256) :
    box.capture lcd buf index = lcd (box.keptLine * 128 + index) := by
  unfold NumberBox.capture getLineDat
  rcases Nat.lt_or_ge index 128 with first | second
  · have length : index < (lcd.load (box.keptLine * 128) 128).length := by
      rw [Memory.load_length]
      exact first
    rw [Memory.store_outside _ _ _ (.inl first)]
    have stored := Memory.store_inside buf 0 _ index length
    rw [Nat.zero_add] at stored
    rw [stored, Memory.load_getElem]
  · obtain ⟨place, rfl⟩ := Nat.exists_eq_add_of_le second
    have length : place < (lcd.load ((box.keptLine + 1) * 128) 128).length := by
      rw [Memory.load_length]
      omega
    rw [Memory.store_inside _ 128 _ place length, Memory.load_getElem]
    exact congrArg lcd (by omega)

theorem restore_inside {index : Nat} (inside : index < 256) :
    box.restore buf lcd (box.keptLine * 128 + index) = buf index := by
  unfold NumberBox.restore setLineDat
  rcases Nat.lt_or_ge index 128 with first | second
  · have length : index < (buf.load 0 128).length := by
      rw [Memory.load_length]
      exact first
    rw [Memory.store_outside _ _ _ (.inl (by omega)), Memory.store_inside _ _ _ index length,
      Memory.load_getElem, Nat.zero_add]
  · obtain ⟨place, rfl⟩ := Nat.exists_eq_add_of_le second
    have length : place < (buf.load 128 128).length := by
      rw [Memory.load_length]
      omega
    have address : box.keptLine * 128 + (128 + place) = (box.keptLine + 1) * 128 + place := by
      omega
    rw [address, Memory.store_inside _ _ _ place length, Memory.load_getElem]

theorem stringAt_length_le (setBuf : Memory U8) (start : Nat) :
    (stringAt setBuf start).length ≤ 17 - start :=
  Nat.le_trans (List.takeWhile_prefix _).length_le (Nat.le_of_eq (Memory.load_length _ _ _))

theorem dispNumberBox_focused {font : Font} (stat : box.boxStat = .focused)
    (config : box.toBoxConfig ∈ pageBoxes)
    (clear : box.isShow = true → box.y = 16 →
      box.x + (textColumns font 16 0 box.text).length ≤ 128) {column : Nat} (inside : column < 256) :
    dispNumberBox font box lcd (box.keptLine * 128 + column) =
      lcd (box.keptLine * 128 + column) := by
  obtain ⟨left, line⟩ := pageBoxes_places _ config
  unfold dispNumberBox
  split
  · next shown =>
      rw [stat]
      refine lcdDisplayString_outside lcd ?_
      have columns : (textColumns font 16 0 box.text).length ≤ 136 := by
        have length := stringAt_length_le box.setBuf 0
        refine Nat.le_trans (textColumns_length_le 16 0 box.text) ?_
        unfold NumberBox.text
        omega
      rcases line with line | line | line | line
      · have kept : box.keptLine = 4 := by rw [NumberBox.keptLine, line]; rfl
        omega
      · have kept : box.keptLine = 4 := by rw [NumberBox.keptLine, line]; rfl
        have fits := clear shown line
        omega
      · have kept : box.keptLine = 2 := by rw [NumberBox.keptLine, line]; rfl
        omega
      · have kept : box.keptLine = 4 := by rw [NumberBox.keptLine, line]; rfl
        omega
  · rfl

end Rows

section Saves

variable {clib : Clib} {uninit : Number} {box : NumberBox}

/-- Nothing is saved of a text that is no number between the bounds, unless it is misread. -/
theorem save_refused (sound : clib.Sound)
    (read : readSigned (bytesChars box.text) = none → ∀ value,
      (clib.sscanf box.text).getD uninit = .finite value → box.min < value → ¬ value < box.max)
    (refused : ∀ value, ¬ box.Offers value) : box.save clib uninit = box := by
  rcases box.save_cases clib uninit with same | ⟨value, scanned, lower, upper, _⟩
  · exact same
  · cases complete : readSigned (bytesChars box.text) with
    | none => exact absurd upper (read complete value scanned lower)
    | some number =>
        rw [sound.reads _ _ complete] at scanned
        cases Number.finite.inj scanned
        exact absurd ⟨complete, lower, upper⟩ (refused _)

theorem save_taken (sound : clib.Sound) (config : box.toBoxConfig ∈ pageBoxes) {value : Rat}
    (offers : box.Offers value)
    (whole : box.dataType = .integer → ∃ count : Nat, value = count) :
    (box.save clib uninit).Holds value := by
  obtain ⟨complete, lower, upper⟩ := offers
  have scanned : (clib.sscanf box.text).getD uninit = .finite value := by
    rw [sound.reads _ _ complete]
    rfl
  rcases type : box.dataType with _ | _
  · obtain ⟨count, rfl⟩ := whole type
    have small : count < 2 ^ 32 := by
      have bound := lt_of_lt_of_le upper (pageBoxes_bounds _ config).2
      rw [← Rat.intCast_natCast] at bound
      have less : (count : Int) < 65535 := Rat.intCast_lt_intCast.mp bound
      omega
    have saved : box.save clib uninit = { box with setInteger := clib.toUint32 count } := by
      unfold NumberBox.save
      rw [scanned]
      dsimp only
      rw [if_pos ⟨upper, lower⟩, type]
    rw [saved, sound.keeps count small]
    unfold NumberBox.Holds
    dsimp only
    rw [type]
    dsimp only
    rw [BitVec.toNat_ofNat, Nat.mod_eq_of_lt small]
  · have saved : box.save clib uninit = { box with setFloat := Binary32.ofRat value } := by
      unfold NumberBox.save
      rw [scanned]
      dsimp only
      rw [if_pos ⟨upper, lower⟩, type]
    rw [saved]
    unfold NumberBox.Holds
    dsimp only
    rw [type]

variable {msg : KeyCode} {after : NumberBox}

theorem Edited.sameNumber (edited : Edited clib uninit box msg after)
    (other : ¬ (msg = .downMenu ∧ box.boxStat = .saving)) : box.SameNumber after := by
  cases edited with
  | saves stat => exact absurd ⟨rfl, stat⟩ other
  | _ => exact ⟨rfl, rfl⟩

theorem Edited.isReadonly (edited : Edited clib uninit box msg after) :
    after.isReadonly = box.isReadonly := by
  cases edited with
  | saves => exact (box.save_kept clib uninit).2.1
  | _ => rfl

theorem editing_of_stat (stat : box.boxStat = .modifing ∨ box.boxStat = .saving) :
    box.editing = true := by
  unfold NumberBox.editing
  rcases stat with stat | stat
  · rw [stat]
    rfl
  · rw [stat]
    rfl

theorem Edited.editing_cases (edited : Edited clib uninit box msg after)
    (editing : after.editing = true) :
    box.opens msg = true ∨ (box.opens msg = false ∧ box.editing = true) := by
  have changing (stat : box.boxStat = .modifing ∨ box.boxStat = .saving) :
      box.opens msg = false ∧ box.editing = true := by
    refine ⟨?_, editing_of_stat stat⟩
    unfold NumberBox.opens
    rcases stat with stat | stat
    · rw [stat]
      rfl
    · rw [stat]
      rfl
  cases edited with
  | unfocused stat =>
      rw [NumberBox.editing, show box.display.boxStat = .unfocused from stat] at editing
      cases editing
  | focused stat =>
      rw [NumberBox.editing, show box.display.boxStat = .focused from stat] at editing
      cases editing
  | opens stat writable =>
      left
      rw [NumberBox.opens, stat, writable]
      rfl
  | up stat => exact .inr (changing (.inl stat))
  | down stat => exact .inr (changing (.inl stat))
  | asks stat => exact .inr (changing (.inl stat))
  | moves stat => exact .inr (changing (.inl stat))
  | idles stat => exact .inr (changing (.inl stat))
  | saves => cases editing
  | cancels => cases editing
  | waits stat => exact .inr (changing (.inr stat))

theorem Edited.closed (edited : Edited clib uninit box msg after) (stat : box.boxStat = .saving)
    (left : after.boxStat ≠ .saving) :
    box.closes msg = true ∧ after.boxStat = .focused ∧ after.setBuf = box.setBuf ∧
      after.isShow = box.isShow := by
  cases edited with
  | saves =>
      refine ⟨by rw [NumberBox.closes, stat]; rfl, rfl, (box.save_kept clib uninit).2.2, ?_⟩
      rcases box.save_cases clib uninit with same | ⟨value, _, _, _, ⟨_, same⟩ | ⟨_, same⟩⟩
      · rw [same]
      · rw [same]
      · rw [same]
  | cancels => exact ⟨by rw [NumberBox.closes, stat]; rfl, rfl, rfl, rfl⟩
  | waits => exact absurd stat left
  | unfocused other => cases stat.symm.trans other
  | focused other => cases stat.symm.trans other
  | opens other => cases stat.symm.trans other
  | up other => cases stat.symm.trans other
  | down other => cases stat.symm.trans other
  | asks other => cases stat.symm.trans other
  | moves other => cases stat.symm.trans other
  | idles other => cases stat.symm.trans other

end Saves

/-- What holds of a box between two events. -/
structure SaveSession (session : BoxSession) : Prop where
  config : session.box.toBoxConfig ∈ pageBoxes
  writable : session.box.editing = true → session.box.isReadonly = false
  captured : session.box.editing = true → ∀ index < 256,
    session.screen.buf index = session.began (session.box.keptLine * 128 + index)

section Steps

variable {clib : Clib} {font : Font} {session after : BoxSession} {event : BoxEvent}

theorem page_save {focus : Option Bool} {isShow : Bool} {screen : BoxScreen}
    (good : SaveSession session) : SaveSession (session.page focus isShow screen) := by
  have before (editing : (session.page focus isShow screen).box.editing = true) :
      session.box.editing = true := by
    cases focus with
    | none => exact editing
    | some focused => cases focused <;> cases editing
  refine ⟨good.config, fun editing => good.writable (before editing), ?_⟩
  intro editing index inside
  have kept : (session.page focus isShow screen).screen.buf = session.screen.buf := if_pos editing
  rw [kept]
  exact good.captured (before editing) index inside

theorem call_save {msg : KeyCode} {uninit : Number} (good : SaveSession session) :
    SaveSession (session.call clib font msg uninit) := by
  have edited := session.box.edited clib msg uninit
  have config := edited.config
  have line : (session.box.edit clib msg uninit).keptLine = session.box.keptLine := by
    unfold NumberBox.keptLine
    rw [config]
  refine ⟨config ▸ good.config, ?_, ?_⟩
  · intro editing
    refine edited.isReadonly.trans ?_
    rcases edited.editing_cases editing with opens | ⟨_, before⟩
    · unfold NumberBox.opens at opens
      simp only [Bool.and_eq_true, Bool.not_eq_true'] at opens
      exact opens.2
    · exact good.writable before
  · intro editing index inside
    have place : (session.call clib font msg uninit).box.keptLine = session.box.keptLine := line
    rw [place]
    rcases edited.editing_cases editing with opens | ⟨closed, before⟩
    · have buf : (session.call clib font msg uninit).screen.buf =
          session.box.capture session.screen.lcd session.screen.buf := if_pos opens
      have began : (session.call clib font msg uninit).began = session.screen.lcd := if_pos opens
      rw [buf, began]
      exact capture_inside inside
    · have buf : (session.call clib font msg uninit).screen.buf = session.screen.buf :=
        if_neg (by rw [closed]; decide)
      have began : (session.call clib font msg uninit).began = session.began :=
        if_neg (by rw [closed]; decide)
      rw [buf, began]
      exact good.captured before index inside

theorem call_restored {msg : KeyCode} {uninit : Number} (good : SaveSession session)
    (clear : ¬ Overdraws font session (.call msg uninit)) (stat : session.box.boxStat = .saving)
    (left : (session.call clib font msg uninit).box.boxStat ≠ .saving) :
    ∀ column < 256,
      (session.call clib font msg uninit).screen.lcd
          (session.box.promptY / 8 * 128 + column) =
        session.began (session.box.promptY / 8 * 128 + column) := by
  intro column inside
  have edited := session.box.edited clib msg uninit
  obtain ⟨closes, focused, setBuf, isShow⟩ := edited.closed stat left
  have config := edited.config
  have line : (session.box.edit clib msg uninit).keptLine = session.box.keptLine := by
    unfold NumberBox.keptLine
    rw [config]
  have text : (session.box.edit clib msg uninit).text = session.box.text := by
    unfold NumberBox.text
    rw [setBuf]
  have lcd : (session.call clib font msg uninit).screen.lcd =
      dispNumberBox font (session.box.edit clib msg uninit)
        (session.box.restore session.screen.buf session.screen.lcd) :=
    congrArg (dispNumberBox font _) (if_pos closes)
  rw [lcd, promptY_keptLine, ← line, dispNumberBox_focused focused (config ▸ good.config) ?_ inside,
    line, restore_inside inside]
  · exact good.captured (editing_of_stat (.inr stat)) column inside
  · intro shown row
    rw [text, config]
    refine Nat.le_of_not_lt fun wide => clear ?_
    exact ⟨msg, uninit, rfl, closes, isShow ▸ shown, config ▸ row, wide⟩

theorem call_saves {uninit : Number} (stat : session.box.boxStat = .saving) :
    (session.call clib font .downMenu uninit).box =
      { session.box.save clib uninit with boxStat := .focused } := by
  have edit : session.box.edit clib .downMenu uninit =
      { session.box.save clib uninit with boxStat := .focused } := by
    unfold NumberBox.edit
    rw [stat]
  exact edit

theorem call_saveValid {msg : KeyCode} {uninit : Number} (sound : clib.Sound)
    (good : SaveSession session) (careful : ¬ Faulty clib font session (.call msg uninit)) :
    SavesValid session (.call msg uninit) (session.call clib font msg uninit) := by
  have edited := session.box.edited clib msg uninit
  have kept (other : ¬ Saves session (.call msg uninit)) :
      session.box.SameNumber (session.box.edit clib msg uninit) := by
    refine edited.sameNumber ?_
    rintro ⟨rfl, stat⟩
    exact other ⟨uninit, rfl, stat⟩
  refine ⟨kept, ?_, ?_, ?_, ?_⟩
  · intro refused
    by_cases saves : Saves session (.call msg uninit)
    · obtain ⟨_, same, stat⟩ := saves
      cases same
      have unread : session.box.save clib uninit = session.box :=
        save_refused sound
          (fun complete value scanned lower upper => careful (.inl
            ⟨uninit, value, rfl, stat, complete, scanned, lower, upper⟩)) refused
      rw [call_saves stat, unread]
      exact ⟨rfl, rfl⟩
    · exact kept saves
  · rintro ⟨_, same, stat⟩ value offers
    cases same
    have taken : (session.box.save clib uninit).Holds value := by
      refine save_taken sound good.config offers ?_
      intro integer
      by_contra none
      exact careful (.inr (.inl ⟨⟨uninit, rfl, stat⟩, integer, value, offers,
        fun count same => none ⟨count, same⟩⟩))
    rw [call_saves stat]
    exact taken
  · intro unedited
    refine kept ?_
    rintro ⟨_, _, stat⟩
    rcases unedited with readonly | unfocused
    · cases (good.writable (editing_of_stat (.inr stat))).symm.trans readonly
    · cases stat.symm.trans unfocused
  · intro _ _ same stat left
    cases same
    exact call_restored good (fun wide => careful (.inr (.inr wide))) stat left

theorem boxStep_save (sound : clib.Sound) (good : SaveSession session)
    (stepped : boxStep clib font session event = some after)
    (careful : ¬ Faulty clib font session event) : SavesValid session event after := by
  cases event with
  | call msg uninit =>
      cases Option.some.inj stepped
      exact call_saveValid sound good careful
  | page focus isShow screen =>
      cases Option.some.inj stepped
      refine ⟨fun _ => ⟨rfl, rfl⟩, fun _ => ⟨rfl, rfl⟩, ?_, fun _ => ⟨rfl, rfl⟩, ?_⟩
      · rintro ⟨_, same, _⟩
        cases same
      · intro _ _ same
        cases same

end Steps

/-- A box takes a number only by a save of a text that is one, and gives the screen back, in
every run without a faulty save. -/
theorem boxes_saveValid (clib : Clib) (sound : clib.Sound) (font : Font) (start : BoxSession)
    (config : start.box.toBoxConfig ∈ pageBoxes) (idle : start.box.editing = false)
    (events : List BoxEvent)
    (careful : Run.AllSteps (boxStep clib font)
      (fun before event _ => ¬ Faulty clib font before event) start events) :
    Run.AllSteps (boxStep clib font) SavesValid start events := by
  have begins : SaveSession start := by
    refine ⟨config, fun editing => ?_, fun editing => ?_⟩
    · cases idle.symm.trans editing
    · cases idle.symm.trans editing
  refine Run.allSteps_of_invariant ?_ ?_ begins careful
  · intro session event after good stepped _
    cases event with
    | call msg uninit =>
        cases Option.some.inj stepped
        exact call_save good
    | page focus isShow screen =>
        cases Option.some.inj stepped
        exact page_save good
  · intro session event after good stepped careful
    exact boxStep_save sound good stepped careful

section Instance

theorem plainClib_sound : plainClib.Sound where
  reads := by
    intro text value read
    have length : (bytesChars text).length = text.length := List.length_map _
    show scanReal text.length (bytesChars text) = _
    rw [← length]
    exact scanReal_of_readSigned read
  keeps := by
    intro value _
    show BitVec.ofNat 32 ((value : Rat).num.tdiv (value : Rat).den).toNat = _
    rw [Rat.num_natCast, Rat.den_natCast]
    exact congrArg (BitVec.ofNat 32) (congrArg Int.toNat (Int.tdiv_one _))

/-- A box for floats whose text ends on the display and is a number when it is saved. -/
def Readable (box : NumberBox) : Prop :=
  box.dataType = .float ∧ box.x + (textColumns blankFont 16 0 box.text).length ≤ 128 ∧
    (box.boxStat = .saving → readSigned (bytesChars box.text) ≠ none)

instance (box : NumberBox) : Decidable (Readable box) :=
  inferInstanceAs (Decidable (_ ∧ _ ∧ (_ → _)))

theorem Readable.careful {clib : Clib} {session : BoxSession} {event : BoxEvent}
    (readable : Readable session.box) : ¬ Faulty clib blankFont session event := by
  obtain ⟨float, short, number⟩ := readable
  rintro (⟨_, _, _, stat, unread, _⟩ | ⟨_, integer, _⟩ | ⟨_, _, _, _, _, _, wide⟩)
  · exact number stat unread
  · cases integer.symm.trans float
  · exact absurd wide (Nat.not_lt.mpr short)

/-- The keys from `0.000` to a save of `1.200`. -/
def onePointTwo : List KeyCode :=
  [.downOk, .downUp, .downOk, .downOk, .downUp, .downUp, .downMenu, .downMenu]

theorem boxes_saveValid_coeffAB :
    Run.AllSteps (boxStep plainClib blankFont) SavesValid
        (focusedBox (shortBox 80 16 .float (-100)) 0) (keys onePointTwo) ∧
      (Run.run (boxStep plainClib blankFont) (focusedBox (shortBox 80 16 .float (-100)) 0)
        (keys onePointTwo)).map (fun session => session.box.setFloat) = some 0x3F99999A := by
  refine ⟨boxes_saveValid plainClib plainClib_sound blankFont
    (focusedBox (shortBox 80 16 .float (-100)) 0) (by decide +kernel) rfl (keys onePointTwo) ?_,
    by decide +kernel⟩
  have readable : Run.AllSteps (boxStep plainClib blankFont) (fun before _ _ => Readable before.box)
      (focusedBox (shortBox 80 16 .float (-100)) 0) (keys onePointTwo) := by
    decide +kernel
  exact readable.mono fun _ _ _ _ => Readable.careful

/-- The keys from `0.000` to a save of `1.0.0`. -/
def secondPoint : List KeyCode :=
  [.downOk, .downUp, .downOk, .downOk, .downOk, .downDown, .downMenu]

theorem second_point_saved :
    ¬ ∀ (clib : Clib) (font : Font) (start : BoxSession) (events : List BoxEvent),
      clib.Sound → start.box.toBoxConfig ∈ pageBoxes → start.box.editing = false →
        Run.AllSteps (boxStep clib font) SavesValid start events := by
  intro always
  have all := always plainClib blankFont (focusedBox (shortBox 80 16 .float (-100)) 0)
    (keys secondPoint ++ keys [.downMenu]) plainClib_sound (by decide +kernel) rfl
  have saved : (Run.run (boxStep plainClib blankFont)
      (focusedBox (shortBox 80 16 .float (-100)) 0) (keys secondPoint)).map (fun session =>
        (decide (readSigned (bytesChars session.box.text) = none), session.box.setFloat,
          (session.call plainClib blankFont .downMenu .nan).box.setFloat)) =
        some (true, 0, 0x3F800000) := by
    decide +kernel
  obtain ⟨session, ran, found⟩ := Option.map_eq_some_iff.mp saved
  obtain ⟨unread, numbers⟩ := Prod.mk.inj found
  obtain ⟨old, new⟩ := Prod.mk.inj numbers
  have valid : SavesValid session (.call .downMenu .nan)
      (session.call plainClib blankFont .downMenu .nan) := all.last ran rfl
  have same := (valid.refused fun value offers => by
    cases (of_decide_eq_true unread).symm.trans offers.1).2
  rw [old, new] at same
  exact absurd same (by decide)

end Instance

end ZhuoduControl.Menu.Box
