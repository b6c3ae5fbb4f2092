import ZhuoduControl.Drivers.BspButton
import ZhuoduControl.Library.Run

/-! The filter of the single buttons against their samples. -/

set_option autoImplicit false

namespace ZhuoduControl.Drivers.Button

open ZhuoduControl.Data
open ZhuoduControl.Library

/-- A single button and its samples, the latest one first. -/
structure Sampled where
  btn : BtnVar
  samples : List Bool

def Sampled.ops (sampled : Sampled) (pressed : Bool) : List FifoOp :=
  (detectButton (statKeyDown pressed) sampled.btn).2

def sampleStep (sampled : Sampled) (pressed : Bool) : Option Sampled :=
  some ⟨(detectButton (statKeyDown pressed) sampled.btn).1, pressed :: sampled.samples⟩

inductive ButtonName.Single : ButtonName → Prop
  | up : Single .up
  | down : Single .down
  | ok : Single .ok
  | menu : Single .menu

def Sampled.start (name : ButtonName) : Sampled := ⟨initButtonVar .cleared name, []⟩

/-- The last `count` samples were all the same. -/
def Steady (pressed : Bool) (count : Nat) (samples : List Bool) : Prop :=
  samples.take count = List.replicate count pressed

/-- A code is put only behind a filter time of samples for it. -/
structure RejectsGlitches (before : Sampled) (pressed : Bool) (after : Sampled) : Prop where
  down : .put before.btn.keyCodeDown ∈ before.ops pressed →
    Steady true before.btn.filterTime after.samples
  up : .put before.btn.keyCodeUp ∈ before.ops pressed →
    Steady false before.btn.filterTime after.samples

/-- The level that the button is taken for, and how many samples have differed from it since. -/
structure Tally where
  level : Bool
  differing : Nat

def Tally.sample (tally : Tally) (pressed : Bool) : Tally :=
  if pressed = tally.level then tally
  else if tally.differing = buttonFilterTime + 1 then ⟨pressed, 0⟩
  else { tally with differing := tally.differing + 1 }

def tallyOf : List Bool → Tally
  | [] => ⟨false, 0⟩
  | pressed :: earlier => (tallyOf earlier).sample pressed

/-- The sample that is one too many to be ignored comes directly behind another such sample. -/
def Unbroken (before : Sampled) (pressed : Bool) (_after : Sampled) : Prop :=
  pressed ≠ (tallyOf before.samples).level →
    (tallyOf before.samples).differing = buttonFilterTime + 1 →
      before.samples.head? = some pressed

/-- The filter counts the samples that differ, whatever comes between them. -/
structure Tallies (tally : Tally) (btn : BtnVar) : Prop where
  filterTime : btn.filterTime = buttonFilterTime
  keyCodeDown : btn.keyCodeDown > 0
  keyCodeUp : btn.keyCodeUp > 0
  keyCodeLong : btn.keyCodeLong = 0
  apart : btn.keyCodeDown ≠ btn.keyCodeUp
  plain : btn.keyCodeDown ≠ keyDownMenuAndOk
  differing : tally.differing ≤ buttonFilterTime + 1
  state : btn.state = statKeyDown tally.level
  started : tally.differing ≠ 0 → btn.count =
    if tally.level then buttonFilterTime + 1 - tally.differing else tally.differing + 1
  fresh : tally.differing = 0 →
    if tally.level then buttonFilterTime < btn.count else btn.count < buttonFilterTime

theorem start_tallies {name : ButtonName} (single : name.Single) :
    Tallies (tallyOf []) (Sampled.start name).btn := by
  cases single with
  | up => constructor <;> decide
  | down => constructor <;> decide
  | ok => constructor <;> decide
  | menu => constructor <;> decide

section Samples

variable {tally : Tally} {btn : BtnVar} {pressed : Bool}

theorem longPress_puts (btn : BtnVar) :
    (∃ longCount, btn.longPress.1 = { btn with longCount := longCount }) ∧
      ∀ op ∈ btn.longPress.2, op = .put btn.keyCodeLong := by
  unfold BtnVar.longPress
  split
  · refine ⟨⟨_, rfl⟩, fun op member => ?_⟩
    dsimp only at member
    split at member
    · exact List.mem_singleton.mp member
    · cases member
  · exact ⟨⟨btn.longCount, rfl⟩, nofun⟩

/-- A sample of the level leaves the filter alone, and puts no code of a press or a release. -/
theorem Tallies.same (tallies : Tallies tally btn) :
    Tallies tally (detectButton (statKeyDown tally.level) btn).1 ∧
      .put btn.keyCodeDown ∉ (detectButton (statKeyDown tally.level) btn).2 ∧
        .put btn.keyCodeUp ∉ (detectButton (statKeyDown tally.level) btn).2 := by
  have state := tallies.state
  cases level : tally.level with
  | false =>
      rw [level] at state
      have stays : detectButton (statKeyDown false) btn = (btn, []) := if_neg (not_not_intro state)
      rw [stays]
      exact ⟨tallies, List.not_mem_nil, List.not_mem_nil⟩
  | true =>
      rw [level] at state
      have holds : detectButton (statKeyDown true) btn = btn.longPress :=
        if_neg (not_not_intro state)
      obtain ⟨⟨longCount, kept⟩, puts⟩ := longPress_puts btn
      have other {keyCode : U8} (positive : keyCode > 0) : .put keyCode ∉ btn.longPress.2 := by
        intro member
        have long := FifoOp.put.inj (puts _ member)
        rw [long, tallies.keyCodeLong] at positive
        exact absurd positive (by decide)
      rw [holds, kept]
      exact ⟨{ tallies with }, other tallies.keyCodeDown, other tallies.keyCodeUp⟩

theorem Tallies.countUp {reached : BtnVar × List FifoOp} (tallies : Tallies tally btn)
    (level : tally.level = false) : btn.countUp reached =
      if tally.differing = buttonFilterTime + 1 then reached
      else ({ btn with count := tally.differing + 2 }, []) := by
  have started := tallies.started
  have fresh := tallies.fresh
  have most := tallies.differing
  have filter : buttonFilterTime = 2 := rfl
  rw [level] at started fresh
  simp only [Bool.false_eq_true, if_false] at started fresh
  unfold BtnVar.countUp
  rw [tallies.filterTime]
  by_cases first : tally.differing = 0
  · rw [if_pos (fresh first), if_neg (by omega), first]
    rfl
  · rw [started first, if_neg (by omega)]
    by_cases last : tally.differing = buttonFilterTime + 1
    · rw [if_pos last, if_neg (by omega)]
    · rw [if_neg last, if_pos (by omega)]

theorem Tallies.countDown {reached : BtnVar × List FifoOp} (tallies : Tallies tally btn)
    (level : tally.level = true) : btn.countDown reached =
      if tally.differing = buttonFilterTime + 1 then reached
      else ({ btn with count := buttonFilterTime - tally.differing }, []) := by
  have started := tallies.started
  have fresh := tallies.fresh
  have most := tallies.differing
  have filter : buttonFilterTime = 2 := rfl
  rw [level] at started fresh
  simp only [if_true] at started fresh
  unfold BtnVar.countDown
  rw [tallies.filterTime]
  by_cases first : tally.differing = 0
  · rw [if_pos (fresh first), if_neg (by omega), first]
    rfl
  · rw [started first, if_neg (by omega)]
    by_cases last : tally.differing = buttonFilterTime + 1
    · rw [if_pos last, if_neg (by omega)]
    · rw [if_neg last, if_pos (by omega)]
      congr 2
      omega

/-- A sample that differs is counted, and the last of them changes the level. -/
theorem Tallies.differs (tallies : Tallies tally btn) (differs : pressed ≠ tally.level) :
    Tallies (tally.sample pressed) (detectButton (statKeyDown pressed) btn).1 ∧
      (detectButton (statKeyDown pressed) btn).2 =
        if tally.differing = buttonFilterTime + 1 then
          [.put (if pressed then btn.keyCodeDown else btn.keyCodeUp)]
        else [] := by
  have counted : tally.sample pressed = if tally.differing = buttonFilterTime + 1 then ⟨pressed, 0⟩
      else { tally with differing := tally.differing + 1 } := if_neg differs
  have state := tallies.state
  have most := tallies.differing
  rw [counted]
  cases level : tally.level with
  | false =>
      have risen : pressed = true := by simpa [level] using differs
      rw [level] at state
      have rises : detectButton .allDown btn =
          btn.countUp ({ btn with state := .allDown }, btn.downOps) :=
        if_pos (by rw [state]; decide)
      have ops : btn.downOps = [.put btn.keyCodeDown] := by
        unfold BtnVar.downOps
        rw [state]
        exact (if_pos tallies.keyCodeDown).trans (if_neg tallies.plain)
      rw [risen]
      show Tallies _ (detectButton .allDown btn).1 ∧ (detectButton .allDown btn).2 = _
      rw [rises, tallies.countUp level, ops]
      by_cases last : tally.differing = buttonFilterTime + 1
      · rw [if_pos last, if_pos last, if_pos last]
        have count : buttonFilterTime < btn.count := by
          rw [tallies.started (by omega), level, last]
          decide
        exact ⟨{ tallies with
          differing := Nat.zero_le _
          state := rfl
          started := fun started => absurd rfl started
          fresh := fun _ => count }, rfl⟩
      · rw [if_neg last, if_neg last, if_neg last]
        exact ⟨{ tallies with
          differing := Nat.lt_of_le_of_ne most last
          state := state
          started := fun _ => by simp
          fresh := nofun }, rfl⟩
  | true =>
      have fallen : pressed = false := by simpa [level] using differs
      rw [level] at state
      have falls : detectButton .allUp btn = btn.countDown
          ({ btn with longCount := 0, state := .allUp }, [.put btn.keyCodeUp]) := by
        have code : putNonzero btn.keyCodeUp = [.put btn.keyCodeUp] := if_pos tallies.keyCodeUp
        rw [← code]
        exact if_pos (by rw [state]; decide)
      rw [fallen]
      show Tallies _ (detectButton .allUp btn).1 ∧ (detectButton .allUp btn).2 = _
      rw [falls, tallies.countDown level]
      by_cases last : tally.differing = buttonFilterTime + 1
      · rw [if_pos last, if_pos last, if_pos last]
        have count : btn.count < buttonFilterTime := by
          rw [tallies.started (by omega), level, last]
          decide
        exact ⟨{ tallies with
          differing := Nat.zero_le _
          state := rfl
          started := fun started => absurd rfl started
          fresh := fun _ => count }, rfl⟩
      · rw [if_neg last, if_neg last, if_neg last]
        exact ⟨{ tallies with
          differing := Nat.lt_of_le_of_ne most last
          state := state
          started := fun _ => by simp [buttonFilterTime]
          fresh := nofun }, rfl⟩

/-- A code of a press or a release is put at the last sample of the count. -/
theorem Tallies.puts_iff {keyCode : U8} (tallies : Tallies tally btn)
    (code : keyCode = btn.keyCodeDown ∨ keyCode = btn.keyCodeUp) :
    .put keyCode ∈ (detectButton (statKeyDown pressed) btn).2 ↔
      pressed ≠ tally.level ∧ tally.differing = buttonFilterTime + 1 ∧
        keyCode = if pressed then btn.keyCodeDown else btn.keyCodeUp := by
  by_cases differs : pressed ≠ tally.level
  · rw [(tallies.differs differs).2]
    by_cases last : tally.differing = buttonFilterTime + 1
    · simp [differs, last]
    · simp [last]
  · obtain rfl := Decidable.not_not.mp differs
    refine iff_of_false ?_ fun both => differs both.1
    rcases code with rfl | rfl
    · exact tallies.same.2.1
    · exact tallies.same.2.2

end Samples

theorem sampled_tallies (before : Sampled) (pressed : Bool) (after : Sampled)
    (tallies : Tallies (tallyOf before.samples) before.btn)
    (stepped : sampleStep before pressed = some after) :
    Tallies (tallyOf after.samples) after.btn := by
  cases Option.some.inj stepped
  by_cases differs : pressed ≠ (tallyOf before.samples).level
  · exact (tallies.differs differs).1
  · have same := Decidable.not_not.mp differs
    have unchanged : tallyOf (pressed :: before.samples) = tallyOf before.samples := if_pos same
    show Tallies (tallyOf (pressed :: before.samples)) _
    rw [unchanged, same]
    exact tallies.same.1

theorem steady_two {pressed : Bool} {samples : List Bool} :
    Steady pressed buttonFilterTime (pressed :: samples) ↔ samples.head? = some pressed := by
  cases samples with
  | nil => simp [Steady, buttonFilterTime]
  | cons last earlier => simp [Steady, buttonFilterTime, List.replicate]

theorem rejectsGlitches_iff (before : Sampled) (pressed : Bool) (after : Sampled)
    (tallies : Tallies (tallyOf before.samples) before.btn)
    (stepped : sampleStep before pressed = some after) :
    RejectsGlitches before pressed after ↔ Unbroken before pressed after := by
  cases Option.some.inj stepped
  constructor
  · rintro ⟨down, up⟩ differs last
    apply steady_two.mp
    cases pressed with
    | true =>
        rw [← tallies.filterTime]
        exact down ((tallies.puts_iff (.inl rfl)).mpr ⟨differs, last, rfl⟩)
    | false =>
        rw [← tallies.filterTime]
        exact up ((tallies.puts_iff (.inr rfl)).mpr ⟨differs, last, rfl⟩)
  · intro unbroken
    have steady (differs : pressed ≠ (tallyOf before.samples).level)
        (last : (tallyOf before.samples).differing = buttonFilterTime + 1) :
        Steady pressed before.btn.filterTime (pressed :: before.samples) := by
      rw [tallies.filterTime]
      exact steady_two.mpr (unbroken differs last)
    constructor
    · intro put
      obtain ⟨differs, last, code⟩ := (tallies.puts_iff (.inl rfl)).mp put
      cases pressed with
      | true => exact steady differs last
      | false => exact absurd code tallies.apart
    · intro put
      obtain ⟨differs, last, code⟩ := (tallies.puts_iff (.inr rfl)).mp put
      cases pressed with
      | true => exact absurd code.symm tallies.apart
      | false => exact steady differs last

/-- The filter rejects glitches exactly as long as the last two samples that it needs are not
parted by another one. -/
theorem debounce_iff {name : ButtonName} (single : name.Single) (samples : List Bool) :
    Run.AllSteps sampleStep RejectsGlitches (.start name) samples ↔
      Run.AllSteps sampleStep Unbroken (.start name) samples :=
  Run.allSteps_iff_of_invariant sampled_tallies rejectsGlitches_iff samples (start_tallies single)

theorem debounce_iff_up :
    Run.AllSteps sampleStep RejectsGlitches (.start .up) [true, true, true, true] ↔
      Run.AllSteps sampleStep Unbroken (.start .up) [true, true, true, true] :=
  debounce_iff .up _

/-- Four glitches of one sample each are taken for a press. -/
theorem glitches_pressed :
    ¬ ∀ name : ButtonName, name.Single → ∀ samples : List Bool,
      Run.AllSteps sampleStep RejectsGlitches (.start name) samples := by
  intro always
  have all := always .up .up ([true, false, true, false, true, false] ++ [true])
  have put : (Run.run sampleStep (.start .up) [true, false, true, false, true, false]).map
      (fun sampled => (sampled.ops true, sampled.btn.keyCodeDown, sampled.btn.filterTime,
        sampled.samples.head?)) = some ([.put keyDownUp], keyDownUp, 2, some false) := by
    decide
  obtain ⟨sampled, ran, found⟩ := Option.map_eq_some_iff.mp put
  simp only [Prod.mk.injEq] at found
  obtain ⟨ops, code, filterTime, glitch⟩ := found
  have steady := (all.last ran rfl).down (by rw [ops, code]; exact List.mem_singleton.mpr rfl)
  rw [filterTime] at steady
  cases (steady_two.mp steady).symm.trans glitch

end ZhuoduControl.Drivers.Button
