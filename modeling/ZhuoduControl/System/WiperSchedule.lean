import ZhuoduControl.Kernel.Tick
import ZhuoduControl.Library.Run
import ZhuoduControl.Library.Timers
import ZhuoduControl.Settings.SavedSettings

/-! The two timers of the wiper on pin 36, started by `main_thread_entry` and programmed
again by two pages. -/

set_option autoImplicit false

namespace ZhuoduControl.System

open ZhuoduControl.Library
open ZhuoduControl.Data
open ZhuoduControl.Kernel
open ZhuoduControl.Settings

inductive CleanTimer
  | interval
  | time
deriving DecidableEq, Repr

/-- A start of a timer, with the setting at that moment. -/
structure TimerStart where
  initTick : Nat
  seconds : U32

/-- An expiry of the interval timer, with both settings at that moment. -/
structure Expiry where
  tick : Nat
  seconds : CleanTimer → U32

def Expiry.ticks (expiry : Expiry) (timer : CleanTimer) : Nat :=
  (expiry.seconds timer).toNat * rtTickPerSecond

/-- When the wiper is to be switched off again. -/
def Expiry.ends (expiry : Expiry) : Nat := expiry.tick + expiry.ticks .time

/-- The timers and the settings in `global`; the last four members record what has
happened, newest first. -/
structure Wiper where
  timers : Timers CleanTimer
  seconds : CleanTimer → U32
  saved : List CleanTimer
  starts : List TimerStart
  expiries : List Expiry
  /-- the writes to pin 36; `true` is `PIN_HIGH` -/
  writes : List (Nat × Bool)

namespace Wiper

variable (wiper : Wiper)

def rtTimerStart (timer : CleanTimer) : Wiper :=
  { wiper with
    timers := wiper.timers.start timer
    starts := ⟨wiper.timers.initTick timer, wiper.seconds timer⟩ :: wiper.starts }

def rtTimerStop (timer : CleanTimer) : Wiper :=
  { wiper with timers := wiper.timers.stop timer }

def rtPinWrite (level : Bool) : Wiper :=
  { wiper with writes := (wiper.timers.now, level) :: wiper.writes }

def timeout1 : Wiper := (wiper.rtTimerStart .time).rtPinWrite true

def timeout2 : Wiper := (wiper.rtPinWrite false).rtTimerStop .time

/-- `rt_timer_check` calls the timeout function and starts a periodic timer again. -/
def expire : CleanTimer → Wiper
  | .interval =>
      let expiry := ⟨wiper.timers.now, wiper.seconds⟩
      { wiper with expiries := expiry :: wiper.expiries }.timeout1.rtTimerStart .interval
  | .time => wiper.timeout2.rtTimerStop .time

/-- The case `SET_OK` of the two pages: `SET_TIME` is given the member itself. -/
def saveSeconds (timer : CleanTimer) (retVal : Nat) : Wiper :=
  let value := BitVec.ofNat 32 retVal
  { wiper with
    timers := wiper.timers.setTime timer value.toNat
    seconds := Function.update wiper.seconds timer value
    saved := timer :: wiper.saved }

def menuCleanInterval (retVal : Nat) : Wiper := wiper.saveSeconds .interval retVal

def menuCleanTime (retVal : Nat) : Wiper := wiper.saveSeconds .time retVal

end Wiper

/-- `main_thread_entry` creates both timers and starts the first. -/
def mainThreadEntry (now : Nat) (seconds : CleanTimer → U32) : Wiper :=
  let timers : Timers CleanTimer :=
    ⟨now, fun timer => (timerTicks (seconds timer)).toNat, fun _ => none⟩
  Wiper.rtTimerStart ⟨timers, seconds, [], [], [], []⟩ .interval

inductive WiperEvent
  | tick
  | expire (timer : CleanTimer)
  | menuCleanInterval (retVal : Nat)
  | menuCleanTime (retVal : Nat)
deriving DecidableEq

/-- The clock waits for the timers that are due; the pages take what their editors
accept. -/
def wiperStep (wiper : Wiper) : WiperEvent → Option Wiper
  | .tick =>
      if wiper.timers.Due .interval ∨ wiper.timers.Due .time then none
      else some { wiper with timers := wiper.timers.advance }
  | .expire timer => if wiper.timers.Due timer then some (wiper.expire timer) else none
  | .menuCleanInterval retVal =>
      if Page.cleanInterval.Accepts retVal then some (wiper.menuCleanInterval retVal) else none
  | .menuCleanTime retVal =>
      if Page.cleanTime.Accepts retVal then some (wiper.menuCleanTime retVal) else none

/-- Each start has used the setting of that moment, in ticks. -/
def Converted (wiper : Wiper) : Prop :=
  ∀ start ∈ wiper.starts, start.initTick = start.seconds.toNat * rtTickPerSecond

/-- Pin 36 goes high at the expiries of the interval timer, and low when the cleaning
time has passed after each of them. -/
structure Wiped (wiper : Wiper) : Prop where
  high : ∀ tick, (tick, true) ∈ wiper.writes ↔ ∃ expiry ∈ wiper.expiries, tick = expiry.tick
  low : ∀ tick, (tick, false) ∈ wiper.writes → ∃ expiry ∈ wiper.expiries, tick = expiry.ends
  ended : ∀ expiry ∈ wiper.expiries, expiry.ends < wiper.timers.now →
    (expiry.ends, false) ∈ wiper.writes

def TimeShorter (wiper : Wiper) : Prop :=
  ∀ expiry ∈ wiper.expiries, expiry.ticks .time < expiry.ticks .interval

structure OnSchedule (wiper : Wiper) : Prop where
  converted : Converted wiper
  wiped : TimeShorter wiper → Wiped wiper

/-- The interval timer expires before either setting has been saved, and the clock holds
the products that `main_thread_entry` has computed. -/
def ExpiresUnsaved (before : Wiper) (event : WiperEvent) (_after : Wiper) : Prop :=
  event = .expire .interval → before.saved = [] ∧ ∀ timer, TicksFit (before.seconds timer)

/-- What `init_tick` holds: the ticks of the start until a page stores the seconds. -/
structure Programmed (wiper : Wiper) : Prop where
  unsaved : ∀ timer, timer ∉ wiper.saved →
    wiper.timers.initTick timer = (timerTicks (wiper.seconds timer)).toNat
  saved : ∀ timer ∈ wiper.saved,
    wiper.timers.initTick timer = (wiper.seconds timer).toNat ∧ 0 < (wiper.seconds timer).toNat

theorem Programmed.saveSeconds {wiper : Wiper} (programmed : Programmed wiper)
    {timer : CleanTimer} {retVal : Nat} (positive : 0 < retVal) (fits : retVal < 2 ^ 32) :
    Programmed (wiper.saveSeconds timer retVal) := by
  have value : (BitVec.ofNat 32 retVal).toNat = retVal := Nat.mod_eq_of_lt fits
  have other : ∀ other, other ≠ timer →
      (wiper.saveSeconds timer retVal).timers.initTick other = wiper.timers.initTick other ∧
        (wiper.saveSeconds timer retVal).seconds other = wiper.seconds other := fun _ different =>
    ⟨Function.update_of_ne different _ _, Function.update_of_ne different _ _⟩
  constructor
  · intro unsavedTimer unsaved
    obtain ⟨initTick, seconds⟩ := other unsavedTimer (List.ne_of_not_mem_cons unsaved)
    rw [initTick, seconds]
    exact programmed.unsaved unsavedTimer (List.not_mem_of_not_mem_cons unsaved)
  · intro savedTimer saved
    by_cases own : savedTimer = timer
    · have initTick : (wiper.saveSeconds timer retVal).timers.initTick timer = _ :=
        Function.update_self ..
      have seconds : (wiper.saveSeconds timer retVal).seconds timer = _ := Function.update_self ..
      rw [own, initTick, seconds, value]
      exact ⟨rfl, positive⟩
    · obtain ⟨initTick, seconds⟩ := other savedTimer own
      rw [initTick, seconds]
      exact programmed.saved savedTimer ((List.mem_cons.mp saved).resolve_left own)

theorem saveSeconds_accepted {page : Page} (seconds : page = .cleanInterval ∨ page = .cleanTime)
    {retVal : Nat} (accepted : page.Accepts retVal) : 0 < retVal ∧ retVal < 2 ^ 32 := by
  obtain ⟨range, member, lower, upper⟩ := accepted
  rcases seconds with rfl | rfl
  · cases List.mem_singleton.mp member
    exact ⟨lower, Nat.lt_of_le_of_lt upper (by decide)⟩
  · cases List.mem_singleton.mp member
    exact ⟨lower, Nat.lt_of_le_of_lt upper (by decide)⟩

inductive WiperTransition (wiper : Wiper) : WiperEvent → Wiper → Prop
  | tick (idle : ∀ timer, ¬ wiper.timers.Due timer) :
      WiperTransition wiper .tick { wiper with timers := wiper.timers.advance }
  | expire {timer : CleanTimer} (due : wiper.timers.Due timer) :
      WiperTransition wiper (.expire timer) (wiper.expire timer)
  | save {event : WiperEvent} {timer : CleanTimer} {retVal : Nat}
      (page : event ≠ .expire .interval) (positive : 0 < retVal) (fits : retVal < 2 ^ 32) :
      WiperTransition wiper event (wiper.saveSeconds timer retVal)

theorem wiperStep_transition {wiper next : Wiper} {event : WiperEvent}
    (stepped : wiperStep wiper event = some next) : WiperTransition wiper event next := by
  cases event with
  | tick =>
      simp only [wiperStep] at stepped
      split at stepped
      · cases stepped
      · next idle =>
        cases Option.some.inj stepped
        refine .tick ?_
        intro timer due
        cases timer with
        | interval => exact idle (.inl due)
        | time => exact idle (.inr due)
  | expire timer =>
      simp only [wiperStep] at stepped
      split at stepped
      · next due =>
        cases Option.some.inj stepped
        exact .expire due
      · cases stepped
  | menuCleanInterval retVal =>
      simp only [wiperStep] at stepped
      split at stepped
      · next accepted =>
        cases Option.some.inj stepped
        obtain ⟨positive, fits⟩ := saveSeconds_accepted (.inl rfl) accepted
        exact .save nofun positive fits
      · cases stepped
  | menuCleanTime retVal =>
      simp only [wiperStep] at stepped
      split at stepped
      · next accepted =>
        cases Option.some.inj stepped
        obtain ⟨positive, fits⟩ := saveSeconds_accepted (.inr rfl) accepted
        exact .save nofun positive fits
      · cases stepped

theorem programmed_preserved {wiper next : Wiper} {event : WiperEvent}
    (programmed : Programmed wiper) (transition : WiperTransition wiper event next) :
    Programmed next := by
  cases transition with
  | tick _ => exact ⟨programmed.unsaved, programmed.saved⟩
  | @expire timer _ =>
      cases timer with
      | interval => exact ⟨programmed.unsaved, programmed.saved⟩
      | time => exact ⟨programmed.unsaved, programmed.saved⟩
  | save _ positive fits => exact programmed.saveSeconds positive fits

/-- A start is converted just when its setting is the one of the last boot and fits. -/
theorem Programmed.converted_iff {wiper : Wiper} (programmed : Programmed wiper)
    (timer : CleanTimer) :
    wiper.timers.initTick timer = (wiper.seconds timer).toNat * rtTickPerSecond ↔
      timer ∉ wiper.saved ∧ TicksFit (wiper.seconds timer) := by
  by_cases saved : timer ∈ wiper.saved
  · obtain ⟨raw, positive⟩ := programmed.saved timer saved
    rw [raw]
    refine iff_of_false ?_ fun unsaved => unsaved.1 saved
    unfold rtTickPerSecond
    omega
  · rw [programmed.unsaved timer saved, timerTicks_eq_iff]
    exact ⟨fun fits => ⟨saved, fits⟩, fun both => both.2⟩

/-- Both starts of an expiry are converted just when the step is allowed. -/
theorem Programmed.expiry_converted_iff {wiper : Wiper} (programmed : Programmed wiper) :
    Converted (wiper.expire .interval) ↔
      Converted wiper ∧ wiper.saved = [] ∧ ∀ timer, TicksFit (wiper.seconds timer) := by
  have starts : (wiper.expire .interval).starts =
      ⟨wiper.timers.initTick .interval, wiper.seconds .interval⟩ ::
        ⟨wiper.timers.initTick .time, wiper.seconds .time⟩ :: wiper.starts := rfl
  unfold Converted
  rw [starts, List.forall_mem_cons, List.forall_mem_cons, programmed.converted_iff,
    programmed.converted_iff]
  constructor
  · rintro ⟨⟨intervalUnsaved, intervalFits⟩, ⟨timeUnsaved, timeFits⟩, earlier⟩
    refine ⟨earlier, List.eq_nil_iff_forall_not_mem.mpr ?_, ?_⟩
    · intro timer
      cases timer with
      | interval => exact intervalUnsaved
      | time => exact timeUnsaved
    · intro timer
      cases timer with
      | interval => exact intervalFits
      | time => exact timeFits
  · rintro ⟨earlier, unsaved, fits⟩
    rw [unsaved]
    exact ⟨⟨List.not_mem_nil, fits .interval⟩, ⟨List.not_mem_nil, fits .time⟩, earlier⟩

theorem converted_preserved_iff {wiper next : Wiper} {event : WiperEvent}
    (programmed : Programmed wiper) (transition : WiperTransition wiper event next) :
    Converted next ↔ Converted wiper ∧ ExpiresUnsaved wiper event next := by
  unfold ExpiresUnsaved
  cases transition with
  | tick _ => exact ⟨fun converted => ⟨converted, nofun⟩, And.left⟩
  | @expire timer _ =>
      cases timer with
      | interval =>
          rw [programmed.expiry_converted_iff]
          simp only [forall_const]
      | time => exact ⟨fun converted => ⟨converted, nofun⟩, And.left⟩
  | save page _ _ => exact ⟨fun converted => ⟨converted, fun expires => absurd expires page⟩, And.left⟩

/-- Between two expiries: the time timer runs until the end of the last one, or all ends
are written. -/
structure Cycle (wiper : Wiper) : Prop where
  high : ∀ tick, (tick, true) ∈ wiper.writes ↔ ∃ expiry ∈ wiper.expiries, tick = expiry.tick
  low : ∀ tick, (tick, false) ∈ wiper.writes → ∃ expiry ∈ wiper.expiries, tick = expiry.ends
  ended : ∀ expiry ∈ wiper.expiries,
    wiper.timers.deadline .time = some expiry.ends ∨ (expiry.ends, false) ∈ wiper.writes
  running : ∀ deadline ∈ wiper.timers.deadline .time,
    ∃ last ∈ wiper.expiries.head?, deadline = last.ends
  period : ∀ last ∈ wiper.expiries.head?,
    wiper.timers.deadline .interval = some (last.tick + last.ticks .interval)

theorem interval_ne_time : CleanTimer.interval ≠ .time := nofun

/-- The time timer has fired before the interval timer does. -/
theorem Cycle.time_idle {wiper : Wiper} (cycle : Cycle wiper) (shorter : TimeShorter wiper)
    (notLate : wiper.timers.NotLate) (due : wiper.timers.Due .interval) :
    wiper.timers.deadline .time = none := by
  cases running : wiper.timers.deadline .time with
  | none => rfl
  | some deadline =>
      obtain ⟨last, newest, ends⟩ := cycle.running deadline running
      have now := notLate.due due (cycle.period last newest)
      have early := shorter last (List.mem_of_mem_head? newest)
      have pending := notLate .time deadline running
      unfold Expiry.ends at ends
      omega

theorem Cycle.expireInterval {wiper : Wiper} (cycle : Cycle wiper)
    (idle : wiper.timers.deadline .time = none)
    (converted : Converted (wiper.expire .interval)) : Cycle (wiper.expire .interval) := by
  let expiry : Expiry := ⟨wiper.timers.now, wiper.seconds⟩
  have interval : wiper.timers.initTick .interval = expiry.ticks .interval :=
    converted ⟨_, wiper.seconds .interval⟩ (.head _)
  have time : wiper.timers.initTick .time = expiry.ticks .time :=
    converted ⟨_, wiper.seconds .time⟩ (.tail _ (.head _))
  have timeDeadline : (wiper.expire .interval).timers.deadline .time = some expiry.ends := by
    have started : (wiper.expire .interval).timers.deadline .time =
        (wiper.timers.start .time).deadline .time :=
      Timers.start_deadline_other interval_ne_time.symm
    rw [started, Timers.start_deadline_same, time]
    rfl
  have intervalDeadline : (wiper.expire .interval).timers.deadline .interval =
      some (expiry.tick + expiry.ticks .interval) := by
    rw [← interval]
    exact Timers.start_deadline_same ..
  have expiries : (wiper.expire .interval).expiries = expiry :: wiper.expiries := rfl
  have writes : (wiper.expire .interval).writes = (expiry.tick, true) :: wiper.writes := rfl
  constructor
  · intro tick
    rw [writes, expiries, List.mem_cons, cycle.high]
    constructor
    · rintro (here | ⟨other, inside, same⟩)
      · exact ⟨expiry, .head _, congrArg Prod.fst here⟩
      · exact ⟨other, .tail _ inside, same⟩
    · rintro ⟨other, member, rfl⟩
      rcases List.mem_cons.mp member with rfl | inside
      · exact .inl rfl
      · exact .inr ⟨other, inside, rfl⟩
  · intro tick member
    rw [writes] at member
    rcases List.mem_cons.mp member with impossible | earlier
    · cases impossible
    · obtain ⟨other, inside, ends⟩ := cycle.low tick earlier
      exact ⟨other, .tail _ inside, ends⟩
  · intro other member
    rw [expiries] at member
    rcases List.mem_cons.mp member with rfl | earlier
    · exact .inl timeDeadline
    · rcases cycle.ended other earlier with running | written
      · cases idle.symm.trans running
      · exact .inr (.tail _ written)
  · intro deadline member
    refine ⟨expiry, rfl, ?_⟩
    exact (Option.some.inj (timeDeadline.symm.trans member)).symm
  · intro last newest
    cases Option.some.inj newest
    exact intervalDeadline

theorem Cycle.expireTime {wiper : Wiper} (cycle : Cycle wiper) (notLate : wiper.timers.NotLate)
    (due : wiper.timers.Due .time) : Cycle (wiper.expire .time) := by
  have stopped : (wiper.expire .time).timers.deadline .time = none :=
    Timers.stop_deadline_same ..
  have interval : (wiper.expire .time).timers.deadline .interval =
      wiper.timers.deadline .interval :=
    (Timers.stop_deadline_other interval_ne_time).trans
      (Timers.stop_deadline_other interval_ne_time)
  have writes : (wiper.expire .time).writes = (wiper.timers.now, false) :: wiper.writes := rfl
  obtain ⟨deadline, running, _⟩ := due
  have now := notLate.due ⟨deadline, running, by assumption⟩ running
  constructor
  · intro tick
    rw [writes, List.mem_cons, Prod.mk.injEq]
    simp only [Bool.true_eq_false, and_false, false_or]
    exact cycle.high tick
  · intro tick member
    rw [writes] at member
    rcases List.mem_cons.mp member with here | earlier
    · obtain ⟨last, newest, ends⟩ := cycle.running deadline running
      refine ⟨last, List.mem_of_mem_head? newest, ?_⟩
      rw [← ends, now]
      exact congrArg Prod.fst here
    · exact cycle.low tick earlier
  · intro expiry member
    rw [writes]
    rcases cycle.ended expiry member with ends | written
    · have reached := Option.some.inj (running.symm.trans ends)
      rw [← reached, now]
      exact .inr (.head _)
    · exact .inr (.tail _ written)
  · intro other member
    cases stopped.symm.trans member
  · intro last newest
    exact interval.trans (cycle.period last newest)

/-- What holds in every state up to the first start that is not converted. -/
structure WiperInvariant (wiper : Wiper) : Prop where
  programmed : Programmed wiper
  notLate : wiper.timers.NotLate
  converted : Converted wiper
  cycle : TimeShorter wiper → Cycle wiper

theorem WiperInvariant.onSchedule {wiper : Wiper} (invariant : WiperInvariant wiper) :
    OnSchedule wiper := by
  refine ⟨invariant.converted, fun shorter => ?_⟩
  have cycle := invariant.cycle shorter
  refine ⟨cycle.high, cycle.low, ?_⟩
  intro expiry member past
  rcases cycle.ended expiry member with running | written
  · exact absurd past (Nat.not_lt_of_le (invariant.notLate .time expiry.ends running))
  · exact written

theorem invariant_preserved {wiper next : Wiper} {event : WiperEvent}
    (invariant : WiperInvariant wiper) (transition : WiperTransition wiper event next)
    (converted : Converted next) : WiperInvariant next := by
  obtain ⟨programmed, notLate, _, cycle⟩ := invariant
  refine ⟨programmed_preserved programmed transition, ?_, converted, ?_⟩
  · cases transition with
    | tick idle => exact Timers.NotLate.advance idle
    | @expire timer _ =>
        cases timer with
        | interval => exact notLate.start.start
        | time => exact notLate.stop.stop
    | save _ _ _ => exact notLate
  · intro shorter
    cases transition with
    | tick _ =>
        have before := cycle shorter
        exact ⟨before.high, before.low, before.ended, before.running, before.period⟩
    | @expire timer due =>
        cases timer with
        | interval =>
            have earlier : TimeShorter wiper := fun expiry member => shorter expiry (.tail _ member)
            have idle := (cycle earlier).time_idle earlier notLate due
            exact (cycle earlier).expireInterval idle converted
        | time => exact (cycle shorter).expireTime notLate due
    | save _ _ _ =>
        have before := cycle shorter
        exact ⟨before.high, before.low, before.ended, before.running, before.period⟩

theorem mainThreadEntry_programmed (now : Nat) (seconds : CleanTimer → U32) :
    Programmed (mainThreadEntry now seconds) :=
  ⟨fun _ _ => rfl, fun _ member => nomatch member⟩

theorem mainThreadEntry_converted_iff (now : Nat) (seconds : CleanTimer → U32) :
    Converted (mainThreadEntry now seconds) ↔ TicksFit (seconds .interval) := by
  rw [← timerTicks_eq_iff]
  unfold Converted
  constructor
  · intro converted
    exact converted ⟨(timerTicks (seconds .interval)).toNat, seconds .interval⟩ (.head _)
  · intro whole start member
    cases List.mem_singleton.mp member
    exact whole

theorem mainThreadEntry_invariant {now : Nat} {seconds : CleanTimer → U32}
    (converted : Converted (mainThreadEntry now seconds)) :
    WiperInvariant (mainThreadEntry now seconds) := by
  have notLate : (mainThreadEntry now seconds).timers.NotLate :=
    Timers.NotLate.start fun _ _ member => nomatch member
  have idle : (mainThreadEntry now seconds).timers.deadline .time = none :=
    Timers.start_deadline_other interval_ne_time.symm
  refine ⟨mainThreadEntry_programmed now seconds, notLate, converted, fun _ => ?_⟩
  constructor
  · exact fun _ => iff_of_false nofun nofun
  · exact nofun
  · exact nofun
  · intro deadline member
    cases idle.symm.trans member
  · exact nofun

/-- The wiper follows its schedule from the start on and in every state of the run. -/
def FollowsSchedule (now : Nat) (seconds : CleanTimer → U32) (events : List WiperEvent) : Prop :=
  OnSchedule (mainThreadEntry now seconds) ∧
    Run.AllSteps wiperStep (fun _ _ after => OnSchedule after) (mainThreadEntry now seconds) events

theorem followsSchedule_iff (now : Nat) (seconds : CleanTimer → U32) (events : List WiperEvent) :
    FollowsSchedule now seconds events ↔
      TicksFit (seconds .interval) ∧
        Run.AllSteps wiperStep ExpiresUnsaved (mainThreadEntry now seconds) events := by
  unfold FollowsSchedule
  rw [← mainThreadEntry_converted_iff now seconds]
  constructor
  · rintro ⟨start, follows⟩
    refine ⟨start.converted, ?_⟩
    refine Run.allSteps_of_invariant (fun _ _ _ programmed stepped _ =>
      programmed_preserved programmed (wiperStep_transition stepped)) ?_
      (mainThreadEntry_programmed now seconds) follows
    intro wiper event next programmed stepped scheduled
    exact ((converted_preserved_iff programmed (wiperStep_transition stepped)).mp
      scheduled.converted).2
  · rintro ⟨converted, unsaved⟩
    have invariant := mainThreadEntry_invariant converted
    refine ⟨invariant.onSchedule, ?_⟩
    have preserved : ∀ wiper event next, WiperInvariant wiper →
        wiperStep wiper event = some next → ExpiresUnsaved wiper event next →
          WiperInvariant next := by
      intro wiper event next invariant stepped allowed
      have transition := wiperStep_transition stepped
      refine invariant_preserved invariant transition ?_
      exact (converted_preserved_iff invariant.programmed transition).mpr
        ⟨invariant.converted, allowed⟩
    exact Run.allSteps_of_invariant preserved
      (fun wiper event next invariant stepped allowed =>
        (preserved wiper event next invariant stepped allowed).onSchedule) invariant unsaved

/-- The clock runs up to the next deadline. -/
theorem run_ticks {wiper : Wiper} {count : Nat}
    (pending : ∀ timer, ∀ deadline ∈ wiper.timers.deadline timer,
      wiper.timers.now + count ≤ deadline) :
    Run.run wiperStep wiper (List.replicate count .tick) =
      some { wiper with timers := { wiper.timers with now := wiper.timers.now + count } } := by
  induction count generalizing wiper with
  | zero => rfl
  | succ count ih =>
      have idle : ¬ (wiper.timers.Due .interval ∨ wiper.timers.Due .time) := by
        rintro (⟨deadline, member, passed⟩ | ⟨deadline, member, passed⟩)
        · have := pending .interval deadline member
          omega
        · have := pending .time deadline member
          omega
      rw [List.replicate_succ, Run.run_cons, wiperStep, if_neg idle, Option.bind_some, ih]
      · simp only [Timers.advance, Nat.add_assoc, Nat.add_comm 1 count]
      · intro timer deadline member
        have later := pending timer deadline member
        simp only [Timers.advance]
        omega

def factorySeconds : CleanTimer → U32
  | .interval => 36000
  | .time => 1

/-- A saved cleaning time of five seconds is taken for five ticks. -/
theorem schedule_broken_by_save :
    ¬ ∀ now seconds events, FollowsSchedule now seconds events := by
  intro always
  let saved := (mainThreadEntry 0 factorySeconds).menuCleanTime 5
  obtain ⟨count, period⟩ : ∃ count, count = (timerTicks (factorySeconds .interval)).toNat :=
    ⟨_, rfl⟩
  obtain ⟨_, follows⟩ := always 0 factorySeconds
    ((.menuCleanTime 5 :: List.replicate count .tick) ++ [.expire .interval])
  have interval : saved.timers.deadline .interval = some (0 + count) := by
    rw [period]
    decide
  have idle : saved.timers.deadline .time = none := by decide
  have stepped : wiperStep (mainThreadEntry 0 factorySeconds) (.menuCleanTime 5) = some saved := by
    have accepted : Page.cleanTime.Accepts 5 := by decide
    rw [wiperStep, if_pos accepted]
  have ran := (Run.run_of_step stepped _).trans (@run_ticks _ count ?_)
  · have due : Timers.Due { saved.timers with now := 0 + count } .interval :=
      ⟨0 + count, interval, Nat.le_refl _⟩
    have converted := (follows.last ran (if_pos due)).converted
    have ticks := converted ⟨5, 5⟩ (.tail _ (.head _))
    exact absurd ticks (by decide)
  · intro timer deadline member
    cases timer with
    | interval =>
        cases Option.some.inj (interval.symm.trans member)
        exact Nat.le_refl _
    | time => cases idle.symm.trans member

end ZhuoduControl.System
