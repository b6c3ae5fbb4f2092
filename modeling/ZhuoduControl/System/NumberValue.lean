import ZhuoduControl.Menu.NumberText
import ZhuoduControl.System.PageSaves

/-! The value that `set_int_float_min_max` accepts against the text it shows. -/

set_option autoImplicit false

namespace ZhuoduControl.System

open ZhuoduControl.Library
open ZhuoduControl.Library.DecimalText
open ZhuoduControl.Data
open ZhuoduControl.Menu.Edit
open ZhuoduControl.Menu.Frame

section Conversions

variable {width : Nat} {value : Int}

theorem truncated_integer (value : Int) : truncated (.finite value) = value := by
  show (value : Rat).num.tdiv (value : Rat).den = value
  rw [Rat.num_intCast, Rat.den_intCast]
  exact Int.tdiv_one value

theorem ofNat_toBits (width : Nat) (value : Int) :
    BitVec.ofNat width (toBits width (.finite value)) = BitVec.ofInt width value := by
  rw [toBits, truncated_integer, BitVec.ofNat_toNat]
  exact BitVec.setWidth_eq _

theorem unsigned_kept (lower : 0 ≤ value) (upper : value < 2 ^ width) :
    ((BitVec.ofNat width (toBits width (.finite value))).toNat : Int) = value := by
  have power : ((2 ^ width : Nat) : Int) = 2 ^ width := Int.natCast_pow 2 width
  rw [ofNat_toBits, BitVec.toNat_ofInt, power, Int.emod_eq_of_lt lower upper]
  exact Int.toNat_of_nonneg lower

theorem signed_kept (some_bit : 0 < width) (lower : -2 ^ (width - 1) ≤ value)
    (upper : value < 2 ^ (width - 1)) :
    (BitVec.ofNat width (toBits width (.finite value))).toInt = value := by
  rw [ofNat_toBits]
  exact BitVec.toInt_ofInt_eq_self some_bit lower upper

end Conversions

/-- The text on the screen when the key of a call is looked at. -/
def shownText (session : EditorSession) (call : EditorCall) : List Char :=
  bytesChars (setText (call.opened session).sSetBuf)

/-- A value is accepted only as the number that is shown, and in range; on every other
return the page is left with what it had. -/
structure AcceptsShown (before : EditorSession) (call : EditorCall) (_ : EditorSession) :
    Prop where
  accepted : ∀ retVal, (call.result before).2 = .ok retVal →
    ∃ value, readDecimal (shownText before call) = some value ∧ retVal = .finite value ∧
      call.args.min ≤ value ∧ value ≤ call.args.max
  unwritten : (∀ retVal, (call.result before).2 ≠ .ok retVal) →
    ∀ func stale world, afterNumber func stale (call.result before).2 world = world

/-- The text is a number, and the places that are scanned are a number of the same value. -/
def Readable (dataType : DataType) (text : List Char) : Prop :=
  ∃ value, readDecimal text = some value ∧
    readDecimal (text.take dataType.scanned) = some value

instance (dataType : DataType) (text : List Char) : Decidable (Readable dataType text) :=
  match read : readDecimal text with
  | none => .isFalse fun ⟨_, found, _⟩ => by
      rw [read] at found
      cases found
  | some value =>
      decidable_of_iff (readDecimal (text.take dataType.scanned) = some value)
        ⟨fun same => ⟨value, read, same⟩, fun ⟨_, found, same⟩ => by
          cases read.symm.trans found
          exact same⟩

def scannedValue (session : EditorSession) (call : EditorCall) : Number :=
  (scanReal call.args.dataType.scanned (shownText session call)).getD call.uninit

/-- A save of a text that is not read as the number it shows, where the range check lets
pass what is read instead. The types that are printed as integers have no such text. -/
def Misreads (session : EditorSession) (call : EditorCall) : Prop :=
  call.key = .downMenu ∧ (call.opened session).number.state = true ∧
    call.args.dataType.integral = false ∧
    ¬ Readable call.args.dataType (shownText session call) ∧
    (Number.finite call.args.max).lt (scannedValue session call) = false ∧
    (scannedValue session call).lt (.finite call.args.min) = false

instance (session : EditorSession) (call : EditorCall) : Decidable (Misreads session call) :=
  inferInstanceAs (Decidable (_ ∧ _ ∧ _ ∧ _ ∧ _ ∧ _))

theorem char_of_onWheel {first : Bool} {byte : U8} (wheel : onWheel first false byte = true) :
    isDigit (Char.ofNat byte.toNat) = true ∨ (first = true ∧ Char.ofNat byte.toNat = '-') := by
  cases first <;> revert byte <;> decide +kernel

theorem decimal_of_onWheel {text : List U8} (wheel : OnWheel false text)
    (long : 2 ≤ text.length) : ∃ value : Int, Decimal (bytesChars text) value := by
  match text, long with
  | head :: next :: rest, _ =>
      have digits : ∀ c ∈ bytesChars (next :: rest), isDigit c = true := by
        intro c member
        obtain ⟨byte, inRest, rfl⟩ := List.mem_map.mp member
        obtain ⟨index, found⟩ := List.getElem?_of_mem inRest
        rcases char_of_onWheel (wheel (index + 1) byte found) with digit | ⟨first, _⟩
        · exact digit
        · cases first
      have shape : bytesChars (head :: next :: rest) =
          Char.ofNat head.toNat :: bytesChars (next :: rest) := rfl
      rw [shape]
      rcases char_of_onWheel (wheel 0 head rfl) with digit | ⟨_, minus⟩
      · have figures : ∀ c ∈ Char.ofNat head.toNat :: bytesChars (next :: rest),
            isDigit c = true := by
          intro c member
          rcases List.mem_cons.mp member with rfl | inRest
          · exact digit
          · exact digits c inRest
        have whole := Magnitude.whole figures (List.cons_ne_nil _ _)
        rw [Rat.mkRat_one] at whole
        exact ⟨_, .positive whole⟩
      · have whole := Magnitude.whole digits (List.cons_ne_nil _ _)
        rw [Rat.mkRat_one] at whole
        rw [minus]
        refine ⟨-(digitsValue (bytesChars (next :: rest)) : Int), ?_⟩
        rw [Rat.intCast_neg]
        exact .negative whole

section Calls

variable {session : EditorSession} {call : EditorCall}

theorem scanned_ge (dataType : DataType) : 3 ≤ dataType.scanned := by
  cases dataType <;> decide

/-- A type that is not printed returns at once, in a session that shows no prompt. -/
theorem unprompted_of_early (early : (openNumber call.args session.statics).2 = false) :
    (call.opened session).number.state = false := by
  unfold EditorCall.opened
  unfold openNumber at early ⊢
  split at early
  · cases early
  · next closed =>
      cases printed : call.args.dataType.print call.args.setData with
      | some text =>
          rw [printed] at early
          cases early
      | none => simp [closed]

theorem numberKey_ok_iff {key : KeyCode} {args : SetIntFloat} {uninit retVal : Number}
    {statics : Statics} :
    (numberKey key args uninit statics).2 = .ok retVal ↔
      key = .downMenu ∧ statics.number.state = true ∧
        checkNumber args uninit (bytesChars (setText statics.sSetBuf)) = .ok retVal := by
  cases key with
  | downMenu =>
      rw [numberKey]
      cases statics.number.state with
      | true => simp
      | false => simp
  | downUp =>
      rw [numberKey]
      split <;> simp
  | downDown =>
      rw [numberKey]
      split <;> simp
  | downOk =>
      rw [numberKey]
      split
      · simp
      · split <;> simp
  | none => simp [numberKey]
  | downMenuAndOk => simp [numberKey]
  | other => simp [numberKey]

/-- The return `SET_OK` comes from the case `KEY_DOWN_MENU` behind the prompt, with a value
that passes both comparisons. -/
theorem result_ok_iff {retVal : Number} :
    (call.result session).2 = .ok retVal ↔
      call.key = .downMenu ∧ (call.opened session).number.state = true ∧
        retVal = scannedValue session call ∧
        (Number.finite call.args.max).lt (scannedValue session call) = false ∧
        (scannedValue session call).lt (.finite call.args.min) = false := by
  have checked : checkNumber call.args call.uninit (shownText session call) = .ok retVal ↔
      retVal = scannedValue session call ∧
        (Number.finite call.args.max).lt (scannedValue session call) = false ∧
        (scannedValue session call).lt (.finite call.args.min) = false := by
    unfold checkNumber scannedValue
    simp only
    split
    · next outside =>
        refine iff_of_false nofun ?_
        rintro ⟨_, below, above⟩
        rcases outside with greater | less
        · cases below.symm.trans greater
        · cases above.symm.trans less
    · next inside =>
        rw [not_or, Bool.not_eq_true, Bool.not_eq_true] at inside
        constructor
        · rintro ⟨⟩
          exact ⟨rfl, inside⟩
        · rintro ⟨rfl, _⟩
          rfl
  unfold EditorCall.result setIntFloatMinMax
  dsimp only
  cases goesOn : (openNumber call.args session.statics).2 with
  | false =>
      have idle := unprompted_of_early goesOn
      rw [if_neg Bool.false_ne_true, idle]
      simp
  | true =>
      rw [if_pos rfl, numberKey_ok_iff, ← checked]
      exact Iff.rfl

theorem finite_of_lt {value bound : Rat} :
    ((Number.finite bound).lt (.finite value) = false ↔ value ≤ bound) ∧
      ((Number.finite value).lt (.finite bound) = false ↔ bound ≤ value) := by
  unfold Number.lt
  rw [decide_eq_false_iff_not, decide_eq_false_iff_not, Rat.not_lt, Rat.not_lt]
  exact ⟨Iff.rfl, Iff.rfl⟩

theorem scannedValue_of_readable {value : Rat}
    (read : readDecimal ((shownText session call).take call.args.dataType.scanned) = some value) :
    scannedValue session call = .finite value := by
  rw [scannedValue, scanReal_of_read read]
  rfl

theorem shown_of_opened (integral : call.args.dataType.integral = true)
    (opened : Opened call.args.dataType (call.opened session)) :
    ∃ value : Int, readDecimal (shownText session call) = some (value : Rat) ∧
      (shownText session call).take call.args.dataType.scanned = shownText session call := by
  have noFloat : decide (call.args.dataType = .float32) = false := by
    refine decide_eq_false fun same => ?_
    rw [same] at integral
    cases integral
  have wheel := opened.wellFormed.wheel
  rw [noFloat] at wheel
  have length := opened.wellFormed.length
  have long : 2 ≤ (setText (call.opened session).sSetBuf).length := by
    have places := scanned_ge call.args.dataType
    omega
  obtain ⟨value, decimal⟩ := decimal_of_onWheel wheel long
  refine ⟨value, readDecimal_eq_some_iff.mpr decimal, List.take_of_length_le ?_⟩
  rw [shownText, bytesChars, List.length_map, length]

theorem readable_of_opened (integral : call.args.dataType.integral = true)
    (opened : Opened call.args.dataType (call.opened session)) :
    Readable call.args.dataType (shownText session call) := by
  obtain ⟨value, shown, whole⟩ := shown_of_opened integral opened
  refine ⟨value, shown, ?_⟩
  rw [whole]
  exact shown

theorem integer_of_ok {retVal : Number} (integral : call.args.dataType.integral = true)
    (opened : Opened call.args.dataType (call.opened session))
    (ok : (call.result session).2 = .ok retVal) :
    ∃ value : Int, retVal = .finite value ∧ call.args.min ≤ value ∧ value ≤ call.args.max := by
  obtain ⟨value, shown, whole⟩ := shown_of_opened integral opened
  obtain ⟨_, _, rfl, below, above⟩ := result_ok_iff.mp ok
  have scanned : scannedValue session call = .finite value := by
    refine scannedValue_of_readable ?_
    rw [whole]
    exact shown
  rw [scanned] at below above
  exact ⟨value, scanned, finite_of_lt.2.mp above, finite_of_lt.1.mp below⟩

theorem acceptsShown_iff {after : EditorSession}
    (integralShown : call.args.dataType.integral = true →
      Readable call.args.dataType (shownText session call)) :
    AcceptsShown session call after ↔ ¬ Misreads session call := by
  constructor
  · rintro ⟨accepted, _⟩ ⟨menu, prompted, _, unread, below, above⟩
    obtain ⟨value, shown, scanned, _⟩ :=
      accepted _ (result_ok_iff.mpr ⟨menu, prompted, rfl, below, above⟩)
    obtain ⟨shorter, taken⟩ := readDecimal_take shown (scanned_ge call.args.dataType)
    rw [scannedValue_of_readable taken] at scanned
    rw [Number.finite.inj scanned] at taken
    exact unread ⟨value, shown, taken⟩
  · intro reads
    refine ⟨?_, ?_⟩
    · intro retVal ok
      obtain ⟨menu, prompted, rfl, below, above⟩ := result_ok_iff.mp ok
      have readable : Readable call.args.dataType (shownText session call) := by
        by_contra unread
        cases integral : call.args.dataType.integral with
        | true => exact unread (integralShown integral)
        | false => exact reads ⟨menu, prompted, integral, unread, below, above⟩
      obtain ⟨value, shown, taken⟩ := readable
      have scanned := scannedValue_of_readable taken
      rw [scanned] at below above
      exact ⟨value, shown, scanned, finite_of_lt.2.mp above, finite_of_lt.1.mp below⟩
    · intro refused func stale world
      cases result : (call.result session).2 with
      | ok retVal => exact absurd result (refused retVal)
      | ing => rfl
      | maxMinError => rfl
      | exit => rfl

end Calls

def OneType (dataType : DataType) (calls : List EditorCall) : Prop :=
  ∀ call ∈ calls, call.args.dataType = dataType ∧ call.args.InRange

theorem integral_begins {args : SetIntFloat} (integral : args.dataType.integral = true) :
    Begins args.dataType args := by
  obtain ⟨_, length, wheel⟩ := text_integral integral
  have noFloat : decide (args.dataType = .float32) = false := by
    refine decide_eq_false fun same => ?_
    rw [same] at integral
    cases integral
  refine ⟨rfl, ?_, length, noFloat ▸ wheel⟩
  unfold SetIntFloat.Printed
  cases type : args.dataType with
  | int8 => exact ⟨_, _, rfl⟩
  | int16 => exact ⟨_, _, rfl⟩
  | int32 => exact ⟨_, _, rfl⟩
  | int64 => rw [type] at integral; cases integral
  | float32 => rw [type] at integral; cases integral
  | float64 => rw [type] at integral; cases integral

/-- Over every session the accepted values are the numbers shown exactly as long as no save
misreads its text. -/
theorem sessions_acceptShown_iff (dataType : DataType) (statics : Statics)
    (closed : statics.number.flag1st = false) (calls : List EditorCall)
    (own : OneType dataType calls) :
    Run.AllSteps editorStep AcceptsShown ⟨statics, false⟩ calls ↔
      Run.AllSteps editorStep (fun before call _ => ¬ Misreads before call) ⟨statics, false⟩
        calls := by
  cases integral : dataType.integral with
  | true =>
      have begins : ∀ call ∈ calls, Begins dataType call.args := fun call member =>
        (own call member).1 ▸ integral_begins ((own call member).1.symm ▸ integral)
      have good : SessionGood dataType ⟨statics, false⟩ := fun flag => by
        cases closed.symm.trans flag
      refine Run.allSteps_iff_of_labels ?_ ?_ begins good
      · intro session call next held begun stepped
        refine acceptsShown_iff fun callIntegral => readable_of_opened callIntegral ?_
        exact begun.type.symm ▸ held.opened begun
      · intro session call next held begun stepped _
        refine (editorStep_iff held begun stepped).2 ?_
        rintro ⟨_, float, _⟩
        rw [← begun.type, float] at integral
        cases integral
  | false =>
      have types : ∀ call ∈ calls, call.args.dataType.integral = false :=
        fun call member => (own call member).1.symm ▸ integral
      refine Run.allSteps_iff_of_labels (fun session call next (_ : True) typed stepped => ?_)
        (fun _ _ _ _ _ _ _ => trivial) types trivial
      refine acceptsShown_iff fun callIntegral => ?_
      cases typed.symm.trans callIntegral

theorem alarmCall_oneType (keys : List KeyCode) : OneType .float32 (keys.map alarmCall) := by
  intro call member
  obtain ⟨key, _, rfl⟩ := List.mem_map.mp member
  exact ⟨rfl, (alarmCall_own key).2⟩

/-- The number that an editor accepts. -/
def accepts (value : Rat) : Menu.Edit.SetStat Number → Bool
  | .ok retVal => decide (retVal = .finite value)
  | _ => false

theorem sessions_acceptShown_iff_alarm :
    (Run.run editorStep ⟨.cleared, false⟩ (thousandKeys.dropLast.map alarmCall)).map
        (fun session => accepts 1000 ((alarmCall .downMenu).result session).2) = some true ∧
      Run.AllSteps editorStep AcceptsShown ⟨.cleared, false⟩ (thousandKeys.map alarmCall) :=
  ⟨by decide +kernel,
    (sessions_acceptShown_iff .float32 .cleared rfl _ (alarmCall_oneType thousandKeys)).mpr
      (by decide +kernel)⟩

theorem ok_of_accepts {value : Rat} {setStat : Menu.Edit.SetStat Number}
    (accepted : accepts value setStat = true) : setStat = .ok (.finite value) := by
  cases setStat with
  | ok retVal => rw [of_decide_eq_true accepted]
  | ing => cases accepted
  | maxMinError => cases accepted
  | exit => cases accepted

/-- A second point: `0.0000.0` is accepted as zero. -/
theorem two_points_accepted :
    ¬ ∀ (dataType : DataType) (statics : Statics) (calls : List EditorCall),
      statics.number.flag1st = false → OneType dataType calls →
        Run.AllSteps editorStep AcceptsShown ⟨statics, false⟩ calls := by
  intro always
  have all := always .float32 .cleared
    ([.downOk, .downDown, .downMenu].map alarmCall ++ [alarmCall .downMenu]) rfl
    (alarmCall_oneType [.downOk, .downDown, .downMenu, .downMenu])
  have misread : (Run.run editorStep ⟨.cleared, false⟩
      ([.downOk, .downDown, .downMenu].map alarmCall)).map (fun session =>
        (session.exited, decide (readDecimal (shownText session (alarmCall .downMenu)) = none),
          accepts 0 ((alarmCall .downMenu).result session).2)) =
        some (false, true, true) := by
    decide +kernel
  obtain ⟨session, ran, found⟩ := Option.map_eq_some_iff.mp misread
  obtain ⟨inside, both⟩ := Prod.mk.inj found
  obtain ⟨unread, taken⟩ := Prod.mk.inj both
  have accepted := ok_of_accepts taken
  obtain ⟨value, shown, _⟩ := (all.last ran (by rw [editorStep, inside]; rfl)).accepted _ accepted
  rw [of_decide_eq_true unread] at shown
  cases shown

end ZhuoduControl.System
