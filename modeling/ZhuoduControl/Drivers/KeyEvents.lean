import ZhuoduControl.Drivers.Debounce

/-! The codes of the buttons over all scans: releases come behind presses, presses of a kind
are apart, and no code is 0. -/

set_option autoImplicit false

namespace ZhuoduControl.Drivers.Button

open ZhuoduControl.Data
open ZhuoduControl.Library

/-- The codes that tell a press: `KeyCodeDown`, and those of a combination by the button that
was pressed first. -/
inductive DownKind
  | down
  | combPrime12
  | combPrime21
deriving DecidableEq, Repr

def BtnVar.downCode (btn : BtnVar) : DownKind → U8
  | .down => btn.keyCodeDown
  | .combPrime12 => btn.keyCodeCombPrime12
  | .combPrime21 => btn.keyCodeCombPrime21

/-- The state that a press of the kind begins in: the button, or the one of a combination that
is pressed second, has been debounced as released. -/
def DownKind.before : DownKind → KeyStat
  | .down => .allUp
  | .combPrime12 => .firstDown
  | .combPrime21 => .secondDown

/-- A code is put, which 0 is not. -/
def putsCode (ops : List FifoOp) (keyCode : U8) : Bool :=
  keyCode ≠ 0 && ops.contains (.put keyCode)

def putsDown (btn : BtnVar) (ops : List FifoOp) : Bool :=
  putsCode ops btn.keyCodeDown || putsCode ops btn.keyCodeCombPrime12 ||
    putsCode ops btn.keyCodeCombPrime21

/-- What has become of a button since the codes that it put. -/
structure Watch where
  /-- a press was put since the last release -/
  down : Bool
  /-- the button, or the second of a combination, was released since the last press of the kind -/
  released : DownKind → Bool
  /-- since all was released, the button has gone from its first button alone to both -/
  combined : Bool

def Watch.next (watch : Watch) (btn after : BtnVar) (ops : List FifoOp) : Watch where
  down :=
    if putsDown btn ops then true
    else if putsCode ops btn.keyCodeUp then false
    else watch.down
  released kind :=
    if putsCode ops (btn.downCode kind) then false
    else watch.released kind || after.state = .allUp || after.state = kind.before
  combined :=
    if after.state = .allUp then false
    else watch.combined || (btn.state = .firstDown && after.state = .allDown)

structure Watching where
  pad : KeyPad
  watch : ButtonName → Watch

def Watching.start : Watching := ⟨.cleared, fun _ => ⟨false, fun _ => true, false⟩⟩

def Watching.btn (watching : Watching) (name : ButtonName) : BtnVar :=
  watching.pad.started.button name

def Watching.ops (watching : Watching) (pins : Pins) (name : ButtonName) : List FifoOp :=
  watching.pad.started.ops pins name

def watchStep (watching : Watching) (pins : Pins) : Option Watching :=
  let pad := keyPro pins watching.pad
  some ⟨pad, fun name =>
    (watching.watch name).next (watching.btn name) (pad.button name) (watching.ops pins name)⟩

structure Bracketed (name : ButtonName) (before : Watching) (pins : Pins) : Prop where
  up : putsCode (before.ops pins name) (before.btn name).keyCodeUp = true →
    (before.watch name).down = true
  down : ∀ kind, putsCode (before.ops pins name) ((before.btn name).downCode kind) = true →
    (before.watch name).released kind = true
  nonzero : .put 0 ∉ before.ops pins name

/-- The codes of every button are well bracketed. -/
def AllBracketed (before : Watching) (pins : Pins) (_after : Watching) : Prop :=
  ∀ name, Bracketed name before pins

/-- A button is not held for its `LongTime`, and `MENU` and `OK` are not released before `OK`
has been pressed behind `MENU`. -/
structure InOrder (name : ButtonName) (before : Watching) (pins : Pins) : Prop where
  short : name.isKeyDownFunc pins = .allDown → (before.btn name).state = .allDown →
    (before.btn name).longCount + 1 ≠ (before.btn name).longTime
  combined : name = .menuOk → name.isKeyDownFunc pins = .allUp →
    (before.btn name).state ≠ .allUp → (before.btn name).count = 0 →
      (before.watch name).combined = true

def AllInOrder (before : Watching) (pins : Pins) (_after : Watching) : Prop :=
  ∀ name, InOrder name before pins

section Scan

variable {name : ButtonName} {btn after : BtnVar} {stat : KeyStat} {ops : List FifoOp}
variable {watch : Watch}

/-- What a scan can do. -/
inductive Detected (stat : KeyStat) (btn : BtnVar) : BtnVar → List FifoOp → Prop
  | filters (count : Nat) : Detected stat btn { btn with count := count } []
  | releases (up : stat = .allUp) (state : btn.state ≠ .allUp) (count : btn.count = 0) :
      Detected stat btn { btn with longCount := 0, state := .allUp } (putNonzero btn.keyCodeUp)
  | presses (down : stat = .allDown) (state : btn.state ≠ .allDown) :
      Detected stat btn { btn with state := .allDown } btn.downOps
  | parts (part : stat = .firstDown ∨ stat = .secondDown)
      (state : btn.state = .allUp ∨ btn.state = .allDown) :
      Detected stat btn { btn with state := stat } []
  | holds (down : stat = .allDown) (state : btn.state = .allDown)
      (longTime : btn.longTime > 0 ∧ btn.longCount < btn.longTime) :
      Detected stat btn { btn with longCount := btn.longCount + 1 }
        (if btn.longCount + 1 = btn.longTime then [.put btn.keyCodeLong] else [])

theorem countUp_detected {reached : BtnVar × List FifoOp}
    (through : Detected stat btn reached.1 reached.2) :
    Detected stat btn (btn.countUp reached).1 (btn.countUp reached).2 := by
  unfold BtnVar.countUp
  split
  · exact .filters _
  · split
    · exact .filters _
    · exact through

theorem countDown_detected {reached : BtnVar × List FifoOp}
    (through : btn.count = 0 → Detected stat btn reached.1 reached.2) :
    Detected stat btn (btn.countDown reached).1 (btn.countDown reached).2 := by
  unfold BtnVar.countDown
  split
  · exact .filters _
  · split
    · exact .filters _
    · next zero => exact through (Decidable.not_not.mp zero)

theorem detectButton_detected (stat : KeyStat) (btn : BtnVar) :
    Detected stat btn (detectButton stat btn).1 (detectButton stat btn).2 := by
  cases stat with
  | allUp =>
      unfold detectButton
      dsimp only
      split
      · next state => exact countDown_detected fun zero => .releases rfl state zero
      · exact .filters btn.count
  | allDown =>
      unfold detectButton
      dsimp only
      split
      · next state => exact countUp_detected (.presses rfl state)
      · next state =>
          unfold BtnVar.longPress
          split
          · next long => exact .holds rfl (Decidable.not_not.mp state) long
          · exact .filters btn.count
  | firstDown =>
      unfold detectButton
      dsimp only
      split
      · next state => exact countUp_detected (.parts (.inl rfl) (.inl state))
      · split
        · next state => exact countDown_detected fun _ => .parts (.inl rfl) (.inr state)
        · exact .filters btn.count
  | secondDown =>
      unfold detectButton
      dsimp only
      split
      · next state => exact countUp_detected (.parts (.inr rfl) (.inl state))
      · split
        · next state => exact countDown_detected fun _ => .parts (.inr rfl) (.inr state)
        · exact .filters btn.count

theorem detect_release (state : btn.state ≠ .allUp) (count : btn.count = 0) :
    (detectButton .allUp btn).2 = putNonzero btn.keyCodeUp := by
  simp [detectButton, BtnVar.countDown, state, count]

end Scan

section Codes

variable {name : ButtonName} {btn after : BtnVar} {stat : KeyStat} {ops : List FifoOp}
variable {keyCode other : U8}

/-- The members that no scan changes. -/
structure Configured (name : ButtonName) (btn : BtnVar) : Prop where
  longTime : btn.longTime = (initButtonVar .cleared name).longTime
  keyCodeUp : btn.keyCodeUp = (initButtonVar .cleared name).keyCodeUp
  downCode : ∀ kind, btn.downCode kind = (initButtonVar .cleared name).downCode kind
  keyCodeLong : btn.keyCodeLong = 0

theorem Configured.detected (configured : Configured name btn)
    (detected : Detected stat btn after ops) : Configured name after := by
  obtain ⟨longTime, keyCodeUp, downCode, keyCodeLong⟩ := configured
  cases detected with
  | filters count => exact ⟨longTime, keyCodeUp, downCode, keyCodeLong⟩
  | releases up state count => exact ⟨longTime, keyCodeUp, downCode, keyCodeLong⟩
  | presses down state => exact ⟨longTime, keyCodeUp, downCode, keyCodeLong⟩
  | parts part state => exact ⟨longTime, keyCodeUp, downCode, keyCodeLong⟩
  | holds down state long => exact ⟨longTime, keyCodeUp, downCode, keyCodeLong⟩

@[simp] theorem putsCode_nil : putsCode [] keyCode = false := by
  simp [putsCode]

theorem putsCode_putNonzero :
    putsCode (putNonzero other) keyCode = true ↔ keyCode ≠ 0 ∧ keyCode = other := by
  unfold putsCode putNonzero
  split
  · simp
  · next zero =>
      have same : other = 0 := by
        have least : other.toNat = 0 := by simpa [BitVec.lt_def] using zero
        exact BitVec.eq_of_toNat_eq least
      rw [same]
      simp

/-- The code of the press that a state ends with. -/
def pressCode (btn : BtnVar) : U8 :=
  match btn.state with
  | .allUp => btn.keyCodeDown
  | .firstDown => btn.keyCodeCombPrime12
  | .secondDown => btn.keyCodeCombPrime21
  | .allDown => 0

theorem Configured.downOps (configured : Configured name btn) :
    btn.downOps = putNonzero (pressCode btn) := by
  have plain : btn.keyCodeDown ≠ keyDownMenuAndOk := by
    have down : btn.keyCodeDown = _ := configured.downCode .down
    rw [down]
    cases name <;> decide
  unfold BtnVar.downOps pressCode
  cases btn.state with
  | allUp =>
      dsimp only
      rw [if_neg plain]
      rfl
  | allDown => rfl
  | firstDown => rfl
  | secondDown => rfl

theorem Configured.apart (configured : Configured name btn) (kind : DownKind)
    (code : btn.keyCodeUp ≠ 0) : btn.downCode kind ≠ btn.keyCodeUp := by
  rw [configured.keyCodeUp] at code ⊢
  rw [configured.downCode kind]
  revert code
  cases name <;> cases kind <;> decide

theorem Configured.kind_unique {first second : DownKind} (configured : Configured name btn)
    (code : btn.downCode first ≠ 0) (same : btn.downCode first = btn.downCode second) :
    first = second := by
  rw [configured.downCode first] at code same
  rw [configured.downCode second] at same
  revert code same
  cases name <;> cases first <;> cases second <;> decide

theorem Configured.state_of_code {kind : DownKind} (configured : Configured name btn)
    (code : btn.downCode kind ≠ 0) (same : btn.downCode kind = pressCode btn) :
    btn.state = kind.before := by
  unfold pressCode at same
  cases state : btn.state with
  | allUp =>
      rw [state] at same
      have which : kind = .down := configured.kind_unique code same
      rw [which]
      rfl
  | firstDown =>
      rw [state] at same
      have which : kind = .combPrime12 := configured.kind_unique code same
      rw [which]
      rfl
  | secondDown =>
      rw [state] at same
      have which : kind = .combPrime21 := configured.kind_unique code same
      rw [which]
      rfl
  | allDown =>
      rw [state] at same
      exact absurd same code

end Codes

section Steps

variable {name : ButtonName} {btn after : BtnVar} {stat : KeyStat} {ops : List FifoOp}
variable {watch : Watch}

structure WatchGood (name : ButtonName) (btn : BtnVar) (watch : Watch) : Prop where
  configured : Configured name btn
  single : name.Single → btn.state = .allUp ∨ btn.state = .allDown ∧ watch.down = true
  combined : name = .menuOk → watch.down = watch.combined
  idle : btn.state = .allUp → watch.combined = false
  released : ∀ kind, btn.state = kind.before → watch.released kind = true

theorem start_good (name : ButtonName) :
    WatchGood name (Watching.start.btn name) (Watching.start.watch name) := by
  refine ⟨⟨rfl, rfl, fun kind => rfl, ?_⟩, fun _ => .inl ?_, fun _ => rfl, fun _ => rfl, fun _ _ => rfl⟩
  · cases name <;> rfl
  · cases name <;> rfl

theorem isKeyDownFunc_single (single : name.Single) (pins : Pins) :
    name.isKeyDownFunc pins = .allUp ∨ name.isKeyDownFunc pins = .allDown := by
  have sample (pressed : Bool) : statKeyDown pressed = .allUp ∨ statKeyDown pressed = .allDown := by
    cases pressed with
    | false => exact .inl rfl
    | true => exact .inr rfl
  cases single with
  | up => exact sample _
  | down => exact sample _
  | ok => exact sample _
  | menu => exact sample _

theorem Watch.next_quiet (watch : Watch) (btn after : BtnVar) (quiet : ∀ keyCode, putsCode ops keyCode = false) :
    (watch.next btn after ops).down = watch.down ∧
      ∀ kind, (watch.next btn after ops).released kind =
        (watch.released kind || after.state = .allUp || after.state = kind.before) := by
  refine ⟨?_, fun kind => ?_⟩
  · simp [Watch.next, putsDown, quiet]
  · simp [Watch.next, quiet]

theorem holds_quiet (long : btn.keyCodeLong = 0) (keyCode : U8) :
    putsCode (if btn.longCount + 1 = btn.longTime then [.put btn.keyCodeLong] else []) keyCode =
      false := by
  rw [long]
  split
  · simp [putsCode]
  · exact putsCode_nil

theorem WatchGood.quiet (good : WatchGood name btn watch) (configured : Configured name after)
    (state : after.state = btn.state) (quiet : ∀ keyCode, putsCode ops keyCode = false) :
    WatchGood name after (watch.next btn after ops) := by
  obtain ⟨down, released⟩ := watch.next_quiet btn after quiet
  refine ⟨configured, fun single => ?_, fun menuOk => ?_, fun idle => ?_, fun kind before => ?_⟩
  · rw [state, down]
    exact good.single single
  · rw [down, good.combined menuOk]
    unfold Watch.next
    rw [state]
    cases here : btn.state with
    | allUp => simp [good.idle here]
    | allDown => simp
    | firstDown => simp
    | secondDown => simp
  · simp [Watch.next, idle]
  · rw [released kind, good.released kind (state ▸ before)]
    rfl

theorem putsDown_iff : putsDown btn ops = true ↔ ∃ kind, putsCode ops (btn.downCode kind) = true := by
  unfold putsDown
  rw [Bool.or_eq_true, Bool.or_eq_true]
  constructor
  · rintro ((down | prime12) | prime21)
    · exact ⟨.down, down⟩
    · exact ⟨.combPrime12, prime12⟩
    · exact ⟨.combPrime21, prime21⟩
  · rintro ⟨kind, puts⟩
    cases kind with
    | down => exact .inl (.inl puts)
    | combPrime12 => exact .inl (.inr puts)
    | combPrime21 => exact .inr puts

theorem Configured.release_puts (configured : Configured name btn) :
    putsDown btn (putNonzero btn.keyCodeUp) = false ∧
      ∀ kind, putsCode (putNonzero btn.keyCodeUp) (btn.downCode kind) = false := by
  have none (kind : DownKind) : putsCode (putNonzero btn.keyCodeUp) (btn.downCode kind) = false := by
    apply Bool.eq_false_iff.mpr
    intro puts
    obtain ⟨code, same⟩ := putsCode_putNonzero.mp puts
    exact configured.apart kind (same ▸ code) same
  refine ⟨Bool.eq_false_iff.mpr fun puts => ?_, none⟩
  obtain ⟨kind, puts⟩ := putsDown_iff.mp puts
  exact absurd puts (Bool.eq_false_iff.mp (none kind))

theorem WatchGood.releases (good : WatchGood name btn watch) (after : BtnVar)
    (configured : Configured name after) (up : after.state = .allUp) :
    WatchGood name after (watch.next btn after (putNonzero btn.keyCodeUp)) := by
  obtain ⟨noDown, noKind⟩ := good.configured.release_puts
  refine ⟨configured, fun _ => .inl up, fun menuOk => ?_, fun _ => ?_, fun kind before => ?_⟩
  · have code : putsCode (putNonzero btn.keyCodeUp) btn.keyCodeUp = true := by
      apply putsCode_putNonzero.mpr
      rw [good.configured.keyCodeUp, menuOk]
      decide
    simp [Watch.next, noDown, code, up]
  · simp [Watch.next, up]
  · simp [Watch.next, noKind, up]

theorem Watch.next_pressed {kind : DownKind} (watch : Watch) (configured : Configured name btn)
    (code : btn.downCode kind ≠ 0) (same : pressCode btn = btn.downCode kind) :
    (watch.next btn after btn.downOps).down = true := by
  have puts : putsDown btn btn.downOps = true := by
    apply putsDown_iff.mpr
    refine ⟨kind, ?_⟩
    rw [configured.downOps, same]
    exact putsCode_putNonzero.mpr ⟨code, rfl⟩
  simp [Watch.next, puts]

theorem Watch.next_unpressed (watch : Watch) (configured : Configured name btn)
    (code : pressCode btn = 0) : (watch.next btn after btn.downOps).down = watch.down := by
  have nothing : btn.downOps = [] := by
    rw [configured.downOps, code]
    rfl
  rw [nothing]
  exact (watch.next_quiet _ _ fun _ => putsCode_nil).1

theorem WatchGood.presses (good : WatchGood name btn watch) (after : BtnVar)
    (configured : Configured name after) (state : btn.state ≠ .allDown)
    (down : after.state = .allDown) : WatchGood name after (watch.next btn after btn.downOps) := by
  refine ⟨configured, fun single => .inr ⟨down, ?_⟩, fun menuOk => ?_, fun idle => ?_,
    fun kind before => ?_⟩
  · have up : btn.state = .allUp := (good.single single).resolve_right fun both => state both.1
    have code : btn.downCode .down ≠ 0 := by
      rw [good.configured.downCode]
      cases single <;> decide
    have same : pressCode btn = btn.downCode .down := by
      rw [pressCode, up]
      rfl
    exact watch.next_pressed good.configured code same
  · have codes := good.configured.downCode
    rw [menuOk] at codes
    cases before : btn.state with
    | allUp =>
        have code : pressCode btn = 0 := by
          rw [pressCode, before]
          exact codes .down
        rw [watch.next_unpressed good.configured code, good.combined menuOk]
        simp [Watch.next, down, before]
    | firstDown =>
        have code : btn.downCode .combPrime12 ≠ 0 := by
          rw [codes]
          decide
        have same : pressCode btn = btn.downCode .combPrime12 := by
          rw [pressCode, before]
          rfl
        rw [watch.next_pressed good.configured code same]
        simp [Watch.next, down, before]
    | secondDown =>
        have code : pressCode btn = 0 := by
          rw [pressCode, before]
          exact codes .combPrime21
        rw [watch.next_unpressed good.configured code, good.combined menuOk]
        simp [Watch.next, down, before]
    | allDown => exact absurd before state
  · cases down.symm.trans idle
  · rw [down] at before
    cases kind <;> cases before

theorem WatchGood.parts (good : WatchGood name btn watch) (after : BtnVar)
    (configured : Configured name after) (part : after.state = .firstDown ∨ after.state = .secondDown)
    (combination : ¬ name.Single) : WatchGood name after (watch.next btn after []) := by
  obtain ⟨down, released⟩ := watch.next_quiet btn after fun _ => putsCode_nil
  refine ⟨configured, fun single => absurd single combination, fun menuOk => ?_, fun idle => ?_,
    fun kind before => ?_⟩
  · rw [down, good.combined menuOk]
    rcases part with part | part
    · simp [Watch.next, part]
    · simp [Watch.next, part]
  · simp [Watch.next, idle]
  · rw [released kind, before]
    simp

theorem WatchGood.next (good : WatchGood name btn watch) (detected : Detected stat btn after ops)
    (sample : name.Single → stat = .allUp ∨ stat = .allDown) :
    WatchGood name after (watch.next btn after ops) := by
  have configured := good.configured.detected detected
  cases detected with
  | filters count => exact good.quiet configured rfl fun _ => putsCode_nil
  | releases up state count => exact good.releases _ configured rfl
  | presses down state => exact good.presses _ configured state rfl
  | parts part state =>
      refine good.parts _ configured part fun single => ?_
      rcases sample single with rfl | rfl
      · simp at part
      · simp at part
  | holds down state long =>
      exact good.quiet configured rfl (holds_quiet good.configured.keyCodeLong)

/-- A press comes from a state in which its kind has been released. -/
theorem WatchGood.down_released {kind : DownKind} (good : WatchGood name btn watch)
    (detected : Detected stat btn after ops)
    (puts : putsCode ops (btn.downCode kind) = true) : watch.released kind = true := by
  cases detected with
  | filters count => simp at puts
  | releases up state count =>
      exact absurd puts (Bool.eq_false_iff.mp (good.configured.release_puts.2 kind))
  | presses down state =>
      rw [good.configured.downOps] at puts
      obtain ⟨code, same⟩ := putsCode_putNonzero.mp puts
      exact good.released kind (good.configured.state_of_code code same)
  | parts part state => simp at puts
  | holds down state long =>
      exact absurd puts (Bool.eq_false_iff.mp (holds_quiet good.configured.keyCodeLong _))

theorem WatchGood.up_release (good : WatchGood name btn watch)
    (detected : Detected stat btn after ops) (puts : putsCode ops btn.keyCodeUp = true) :
    stat = .allUp ∧ btn.state ≠ .allUp ∧ btn.count = 0 ∧ btn.keyCodeUp ≠ 0 := by
  cases detected with
  | filters count => simp at puts
  | releases up state count => exact ⟨up, state, count, (putsCode_putNonzero.mp puts).1⟩
  | presses down state =>
      rw [good.configured.downOps] at puts
      obtain ⟨code, same⟩ := putsCode_putNonzero.mp puts
      cases here : btn.state with
      | allUp => exact absurd (by rw [same, pressCode, here]; rfl) (good.configured.apart .down code)
      | firstDown =>
          exact absurd (by rw [same, pressCode, here]; rfl) (good.configured.apart .combPrime12 code)
      | secondDown =>
          exact absurd (by rw [same, pressCode, here]; rfl) (good.configured.apart .combPrime21 code)
      | allDown => exact absurd here state
  | parts part state => simp at puts
  | holds down state long =>
      exact absurd puts (Bool.eq_false_iff.mp (holds_quiet good.configured.keyCodeLong _))

theorem WatchGood.down_of_single (good : WatchGood name btn watch) (single : name.Single)
    (state : btn.state ≠ .allUp) : watch.down = true := by
  rcases good.single single with up | ⟨_, down⟩
  · exact absurd up state
  · exact down

theorem nonzero_of_putNonzero (keyCode : U8) : .put 0 ∉ putNonzero keyCode := by
  unfold putNonzero
  split
  · next positive =>
      intro member
      rw [← FifoOp.put.inj (List.mem_singleton.mp member)] at positive
      exact absurd positive (by decide)
  · exact List.not_mem_nil

/-- Only a long press puts a 0. -/
theorem nonzero_iff (configured : Configured name btn) :
    .put 0 ∉ (detectButton stat btn).2 ↔
      (stat = .allDown → btn.state = .allDown → btn.longCount + 1 ≠ btn.longTime) := by
  by_cases held : stat = .allDown ∧ btn.state = .allDown
  · obtain ⟨rfl, state⟩ := held
    have long : detectButton .allDown btn = btn.longPress := if_neg (not_not_intro state)
    rw [long]
    unfold BtnVar.longPress
    rw [configured.keyCodeLong]
    split
    · next running =>
        dsimp only
        split
        · next last => simp [state, last]
        · next last => simp [last]
    · next counted =>
        refine iff_of_true List.not_mem_nil fun _ _ => ?_
        omega
  · refine iff_of_true ?_ fun down state => absurd ⟨down, state⟩ held
    have detected := detectButton_detected stat btn
    generalize (detectButton stat btn).1 = after, (detectButton stat btn).2 = ops at detected
    cases detected with
    | filters count => exact List.not_mem_nil
    | releases up state count => exact nonzero_of_putNonzero _
    | presses down state =>
        rw [configured.downOps]
        exact nonzero_of_putNonzero _
    | parts part state => exact List.not_mem_nil
    | holds down state long => exact absurd ⟨down, state⟩ held

end Steps

section Runs

variable {before after : Watching} {pins : Pins}

def AllGood (watching : Watching) : Prop :=
  ∀ name, WatchGood name (watching.btn name) (watching.watch name)

theorem watching_good (before : Watching) (pins : Pins) (after : Watching) (good : AllGood before)
    (stepped : watchStep before pins = some after) : AllGood after := by
  cases Option.some.inj stepped
  intro name
  have started : (keyPro pins before.pad).started = keyPro pins before.pad := by
    have flag : (keyPro pins before.pad).flag = true := by
      show before.pad.started.flag = true
      unfold KeyPad.started
      split
      · assumption
      · rfl
    exact if_pos flag
  show WatchGood name ((keyPro pins before.pad).started.button name) _
  rw [started]
  exact (good name).next (detectButton_detected (name.isKeyDownFunc pins) (before.btn name))
    fun single => isKeyDownFunc_single single pins

theorem bracketed_iff {name : ButtonName} (good : WatchGood name (before.btn name) (before.watch name)) :
    Bracketed name before pins ↔ InOrder name before pins := by
  have detected := detectButton_detected (name.isKeyDownFunc pins) (before.btn name)
  constructor
  · rintro ⟨up, _, nonzero⟩
    refine ⟨(nonzero_iff good.configured).mp nonzero, fun menuOk sample state count => ?_⟩
    rw [← good.combined menuOk]
    apply up
    have ops : before.ops pins name = putNonzero (before.btn name).keyCodeUp := by
      show (detectButton (name.isKeyDownFunc pins) (before.btn name)).2 = _
      rw [sample]
      exact detect_release state count
    rw [ops]
    apply putsCode_putNonzero.mpr
    rw [good.configured.keyCodeUp, menuOk]
    decide
  · rintro ⟨short, combined⟩
    refine ⟨fun puts => ?_, fun kind puts => good.down_released detected puts,
      (nonzero_iff good.configured).mpr short⟩
    obtain ⟨sample, state, count, code⟩ := good.up_release detected puts
    rw [good.configured.keyCodeUp] at code
    cases name with
    | up => exact good.down_of_single .up state
    | down => exact good.down_of_single .down state
    | ok => exact good.down_of_single .ok state
    | menu => exact good.down_of_single .menu state
    | menuUp => exact absurd rfl code
    | menuDown => exact absurd rfl code
    | menuOk =>
        rw [good.combined rfl]
        exact combined rfl sample state count

/-- Over all scans the codes are well bracketed exactly as long as no button is held too long
and `MENU` and `OK` are pressed in their order. -/
theorem keyEvents_bracketed_iff (inputs : List Pins) :
    Run.AllSteps watchStep AllBracketed .start inputs ↔
      Run.AllSteps watchStep AllInOrder .start inputs :=
  Run.allSteps_iff_of_invariant watching_good
    (fun _ _ _ good _ => forall_congr' fun name => bracketed_iff (good name)) inputs start_good

end Runs

def menuPressed : List Pins :=
  List.replicate 4 ⟨false, false, false, true⟩ ++ List.replicate 3 ⟨false, false, false, false⟩

/-- A release of `MENU` and `OK` is put although they were not pressed together. -/
theorem release_unpressed :
    ¬ ∀ inputs : List Pins, Run.AllSteps watchStep AllBracketed .start inputs := by
  intro always
  have all := always (menuPressed ++ [⟨false, false, false, false⟩])
  have put : (Run.run watchStep .start menuPressed).map (fun watching =>
      (putsCode (watching.ops ⟨false, false, false, false⟩ .menuOk)
        (watching.btn .menuOk).keyCodeUp, (watching.watch .menuOk).down)) = some (true, false) := by
    decide +kernel
  obtain ⟨watching, ran, found⟩ := Option.map_eq_some_iff.mp put
  obtain ⟨up, down⟩ := Prod.mk.inj found
  have pressed := (all.last ran rfl .menuOk).up up
  cases down.symm.trans pressed

end ZhuoduControl.Drivers.Button
