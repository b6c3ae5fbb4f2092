import Mathlib.Data.List.Induction
import ZhuoduControl.Settings.BootConfiguration

/-! `global_init` when reads of the FRAM fail. The results of the reads are not looked at
and three variables of the function take all of them, so that a failed read leaves in its
variable what the last read into it left there. -/

set_option autoImplicit false

namespace ZhuoduControl.Settings

open ZhuoduControl.Library
open ZhuoduControl.Data

/-- The variables of `global_init` that the reads share. -/
inductive Scratch
  | tmpU8
  | tmpU32
  | tmpF32
deriving DecidableEq, Repr

def Scratch.size : Scratch → Nat
  | tmpU8 => 1
  | tmpU32 => 4
  | tmpF32 => 4

/-- What the variables hold when `global_init` is entered. -/
structure Indeterminate where
  tmpU8 : U8
  tmpU32 : U32
  tmpF32 : U32

def Indeterminate.value (entry : Indeterminate) : Scratch → Nat
  | .tmpU8 => entry.tmpU8.toNat
  | .tmpU32 => entry.tmpU32.toNat
  | .tmpF32 => entry.tmpF32.toNat

/-- One `rt_device_read` and what follows it: a check, a write-back and an assignment, or
nothing. -/
structure BootRead where
  scratch : Scratch
  field : E2PField
  load : Option Load
deriving DecidableEq

def bootReads : List BootRead :=
  [⟨.tmpU8, .lcdContrast, none⟩,
    ⟨.tmpU8, .isDispReverse, none⟩,
    ⟨.tmpU32, .password, some ⟨.password, some (999999, 10000)⟩⟩,
    ⟨.tmpU8, .unit, some ⟨.unit, some (1, 0)⟩⟩,
    ⟨.tmpU8, .commFormat, some ⟨.commFormat, some (1, 0)⟩⟩,
    ⟨.tmpU8, .commBaud, some ⟨.commBaud, some (5, 3)⟩⟩,
    ⟨.tmpU8, .commParity, some ⟨.commParity, some (2, 0)⟩⟩,
    ⟨.tmpU8, .commDeviceId, some ⟨.commDeviceId, some (247, 1)⟩⟩,
    ⟨.tmpU8, .relay1AlarmType, some ⟨.relay1AlarmType, some (1, 1)⟩⟩,
    ⟨.tmpF32, .relay1AlarmVal, some ⟨.relay1AlarmVal, none⟩⟩,
    ⟨.tmpF32, .relay1AlarmDelay, some ⟨.relay1AlarmDelay, none⟩⟩,
    ⟨.tmpU8, .relay2AlarmType, some ⟨.relay2AlarmType, some (1, 1)⟩⟩,
    ⟨.tmpF32, .relay2AlarmVal, some ⟨.relay2AlarmVal, none⟩⟩,
    ⟨.tmpF32, .relay2AlarmDelay, some ⟨.relay2AlarmDelay, none⟩⟩,
    ⟨.tmpU32, .cleanInterval, some ⟨.cleanInterval, none⟩⟩,
    ⟨.tmpU32, .cleanTime, some ⟨.cleanTime, none⟩⟩,
    ⟨.tmpU8, .backlight, some ⟨.backlight, none⟩⟩]

structure Boot where
  device : Device
  scratch : Scratch → Nat
  rewritten : List E2PField

namespace Load

/-- The check of the read finds the value too great and writes a replacement back. -/
def rewrites (load : Load) (value : Nat) : Bool :=
  match load.repair with
  | none => false
  | some (greatest, _) => decide (greatest < value)

/-- What `global_init` does with a value it has in its variable. -/
def take (device : Device) (load : Load) (tmp : Nat) : Device :=
  ⟨if load.rewrites tmp then load.setting.field.write (load.repaired tmp) device.fram
    else device.fram,
    load.setting.assign (load.repaired tmp) device.global⟩

theorem rewrites_eq_false_iff (load : Load) (value : Nat) :
    load.rewrites value = false ↔ load.Passes value := by
  unfold rewrites Passes
  cases load.repair with
  | none => simp
  | some limits =>
      obtain ⟨greatest, replacement⟩ := limits
      constructor
      · rintro within _ _ ⟨⟩
        exact Nat.le_of_not_lt (of_decide_eq_false within)
      · intro passes
        exact decide_eq_false (Nat.not_lt_of_le (passes greatest replacement rfl))

theorem repaired_lt {load : Load} (sound : load.Sound) {value : Nat}
    (fits : value < 256 ^ load.setting.field.size) :
    load.repaired value < 256 ^ load.setting.field.size := by
  unfold repaired
  cases repair : load.repair with
  | none => exact fits
  | some limits =>
      obtain ⟨greatest, replacement⟩ := limits
      obtain ⟨passes, inside⟩ := sound greatest replacement repair
      simp only
      split
      · exact Nat.lt_of_le_of_lt passes inside
      · exact fits

end Load

namespace BootRead

variable (fails : E2PField → Bool)

/-- What the variable holds after the read. -/
def tmp (read : BootRead) (boot : Boot) : Nat :=
  if fails read.field then boot.scratch read.scratch else read.field.stored boot.device.fram

/-- What the variable holds when the next read comes. -/
def left (read : BootRead) (value : Nat) : Nat :=
  match read.load with
  | none => value
  | some load => load.repaired value

def run (boot : Boot) (read : BootRead) : Boot :=
  let tmp := read.tmp fails boot
  let scratch := Function.update boot.scratch read.scratch (read.left tmp)
  match read.load with
  | none => { boot with scratch }
  | some load =>
      { device := load.take boot.device tmp
        scratch
        rewritten := if load.rewrites tmp then boot.rewritten ++ [read.field]
          else boot.rewritten }

end BootRead

/-- `global_init` where the reads of some fields fail. -/
def globalInitFailing (fails : E2PField → Bool) (entry : Indeterminate) (device : Device) : Boot :=
  bootReads.foldl (BootRead.run fails)
    ⟨⟨switched device.fram, defaultInit device.global⟩, entry.value, []⟩

/-- Every loaded setting is its own or its default, and a field is written back only
after a read of it that found it out of range. -/
structure NoNeighbour (fails : E2PField → Bool) (device : Device) (boot : Boot) : Prop where
  loaded : ∀ load ∈ loads,
    load.setting.read boot.device.global =
        load.repaired (load.setting.field.stored (switched device.fram)) ∨
      load.setting.read boot.device.global = load.setting.read (defaultInit device.global)
  rewritten : ∀ field ∈ boot.rewritten, ∃ load ∈ loads, load.setting.field = field ∧
    fails field = false ∧ load.rewrites (field.stored (switched device.fram)) = true

/-- The last read into the variable that succeeds. -/
def lastRead (fails : E2PField → Bool) (reads : List BootRead) (scratch : Scratch) :
    Option BootRead :=
  reads.reverse.find? fun read => decide (read.scratch = scratch) && !fails read.field

/-- What the last read into the variable that succeeds leaves there. -/
def carried (fails : E2PField → Bool) (entry : Indeterminate) (fram : Memory U8)
    (reads : List BootRead) (scratch : Scratch) : Nat :=
  match lastRead fails reads scratch with
  | none => entry.value scratch
  | some read => read.left (read.field.stored fram)

/-- A failed read is harmless where its check lets the carried value through and that
value is the setting's own or its default. -/
def HarmlessFailures (fails : E2PField → Bool) (entry : Indeterminate) (device : Device) :
    Prop :=
  ∀ before read after load, bootReads = before ++ read :: after → read.load = some load →
    fails read.field = true →
      let value := carried fails entry (switched device.fram) before read.scratch
      load.Passes value ∧
        (value = load.repaired (read.field.stored (switched device.fram)) ∨
          value = load.setting.read (defaultInit device.global))

namespace BootRead

structure Sound (read : BootRead) : Prop where
  size : read.field.size = read.scratch.size
  load : ∀ load, read.load = some load → load.setting.field = read.field ∧ load.Sound

variable {fails : E2PField → Bool}

theorem run_scratch_same (boot : Boot) (read : BootRead) :
    (read.run fails boot).scratch read.scratch = read.left (read.tmp fails boot) := by
  unfold run
  cases read.load <;> exact Function.update_self ..

theorem run_scratch_other (boot : Boot) (read : BootRead) {other : Scratch}
    (different : other ≠ read.scratch) :
    (read.run fails boot).scratch other = boot.scratch other := by
  unfold run
  cases read.load <;> exact Function.update_of_ne different _ _

theorem run_read_other (boot : Boot) {read : BootRead} (sound : read.Sound)
    {setting : Persisted} (different : setting.field ≠ read.field) :
    setting.read (read.run fails boot).device.global = setting.read boot.device.global := by
  unfold run
  cases taken : read.load with
  | none => rfl
  | some load =>
      refine Persisted.read_assign_other ?_ _ _
      rintro rfl
      exact different (sound.load load taken).1

theorem run_bytes_other (boot : Boot) {read : BootRead} (sound : read.Sound)
    {field : E2PField} (different : field ≠ read.field) :
    (read.run fails boot).device.fram.load field.offset field.size =
      boot.device.fram.load field.offset field.size := by
  unfold run
  cases taken : read.load with
  | none => rfl
  | some load =>
      obtain ⟨same, _⟩ := sound.load load taken
      simp only [Load.take]
      split
      · exact E2PField.load_write_other (same ▸ different) _ _
      · rfl

theorem mem_run_rewritten {boot : Boot} {read : BootRead} {field : E2PField} :
    field ∈ (read.run fails boot).rewritten ↔
      field ∈ boot.rewritten ∨ field = read.field ∧
        ∃ load, read.load = some load ∧ load.rewrites (read.tmp fails boot) = true := by
  unfold run
  cases read.load with
  | none => simp
  | some load => by_cases rewrites : load.rewrites (read.tmp fails boot) = true <;> simp [rewrites]

def Fits (boot : Boot) : Prop := ∀ scratch, boot.scratch scratch < 256 ^ scratch.size

theorem tmp_lt {boot : Boot} (fits : Fits boot) {read : BootRead} (sound : read.Sound) :
    read.tmp fails boot < 256 ^ read.field.size := by
  unfold tmp
  split
  · exact sound.size ▸ fits read.scratch
  · exact read.field.stored_lt _

theorem run_fits {boot : Boot} (fits : Fits boot) {read : BootRead} (sound : read.Sound) :
    Fits (read.run fails boot) := by
  have bound : read.tmp fails boot < 256 ^ read.field.size := tmp_lt fits sound
  intro scratch
  by_cases same : scratch = read.scratch
  · rw [same, run_scratch_same, ← sound.size, left]
    cases taken : read.load with
    | none => exact bound
    | some load =>
        obtain ⟨field, loadSound⟩ := sound.load load taken
        rw [← field] at bound ⊢
        exact Load.repaired_lt loadSound bound
  · rw [run_scratch_other boot read same]
    exact fits scratch

theorem run_read_own {boot : Boot} (fits : Fits boot) {read : BootRead} (sound : read.Sound)
    {load : Load} (taken : read.load = some load) :
    load.setting.read (read.run fails boot).device.global =
      load.repaired (read.tmp fails boot) := by
  obtain ⟨field, loadSound⟩ := sound.load load taken
  have bound : read.tmp fails boot < 256 ^ read.field.size := tmp_lt fits sound
  rw [← field] at bound
  unfold run
  rw [taken]
  simp only [Load.take]
  rw [Persisted.read_assign_same, Nat.mod_eq_of_lt (Load.repaired_lt loadSound bound)]

end BootRead

section Reads

variable {reads : List BootRead} {fails : E2PField → Bool} (start : Boot)

theorem foldl_run_read_other (sound : ∀ read ∈ reads, read.Sound) {setting : Persisted}
    (absent : setting.field ∉ reads.map BootRead.field) :
    setting.read (reads.foldl (BootRead.run fails) start).device.global =
      setting.read start.device.global := by
  induction reads generalizing start with
  | nil => rfl
  | cons head rest ih =>
      rw [List.foldl_cons, ih _ (fun read member => sound read (.tail _ member))
          (List.not_mem_of_not_mem_cons absent),
        BootRead.run_read_other start (sound head (.head _)) (List.ne_of_not_mem_cons absent)]

theorem foldl_run_stored_other (sound : ∀ read ∈ reads, read.Sound) {field : E2PField}
    (absent : field ∉ reads.map BootRead.field) :
    field.stored (reads.foldl (BootRead.run fails) start).device.fram =
      field.stored start.device.fram := by
  induction reads generalizing start with
  | nil => rfl
  | cons head rest ih =>
      rw [List.foldl_cons, ih _ (fun read member => sound read (.tail _ member))
          (List.not_mem_of_not_mem_cons absent), E2PField.stored,
        BootRead.run_bytes_other start (sound head (.head _)) (List.ne_of_not_mem_cons absent),
        E2PField.stored]

theorem foldl_run_fits (sound : ∀ read ∈ reads, read.Sound) (fits : BootRead.Fits start) :
    BootRead.Fits (reads.foldl (BootRead.run fails) start) := by
  induction reads generalizing start with
  | nil => exact fits
  | cons head rest ih =>
      exact ih _ (fun read member => sound read (.tail _ member))
        (BootRead.run_fits fits (sound head (.head _)))

theorem mem_foldl_rewritten {field : E2PField} :
    field ∈ (reads.foldl (BootRead.run fails) start).rewritten ↔
      field ∈ start.rewritten ∨ ∃ before read after load, reads = before ++ read :: after ∧
        read.load = some load ∧ field = read.field ∧
        load.rewrites (read.tmp fails (before.foldl (BootRead.run fails) start)) = true := by
  induction reads generalizing start with
  | nil => simp
  | cons head rest ih =>
      rw [List.foldl_cons, ih, BootRead.mem_run_rewritten]
      constructor
      · rintro ((old | ⟨same, load, taken, rewrites⟩) |
          ⟨before, read, after, load, parts, taken, same, rewrites⟩)
        · exact .inl old
        · exact .inr ⟨[], head, rest, load, rfl, taken, same, rewrites⟩
        · exact .inr ⟨head :: before, read, after, load, congrArg _ parts, taken, same, rewrites⟩
      · rintro (old | ⟨before, read, after, load, parts, taken, same, rewrites⟩)
        · exact .inl (.inl old)
        · cases before with
          | nil =>
              obtain ⟨rfl, rfl⟩ := List.cons.inj parts
              exact .inl (.inr ⟨same, load, taken, rewrites⟩)
          | cons first before =>
              obtain ⟨rfl, tail⟩ := List.cons.inj parts
              exact .inr ⟨before, read, after, load, tail, taken, same, rewrites⟩

theorem lastRead_snoc (read : BootRead) (scratch : Scratch) :
    lastRead fails (reads ++ [read]) scratch =
      if read.scratch = scratch ∧ fails read.field = false then some read
      else lastRead fails reads scratch := by
  unfold lastRead
  rw [List.reverse_append, List.reverse_singleton, List.singleton_append, List.find?_cons]
  by_cases same : read.scratch = scratch
  · cases fails read.field <;> simp [same]
  · simp [same]

/-- As long as the checks let every carried value through, a variable holds the value
carried to it. -/
theorem foldl_run_scratch (entry : Indeterminate) (initial : start.scratch = entry.value)
    (distinct : (reads.map BootRead.field).Nodup) (sound : ∀ read ∈ reads, read.Sound)
    (passes : ∀ before read after load, reads = before ++ read :: after →
      read.load = some load → fails read.field = true →
        (before.foldl (BootRead.run fails) start).scratch read.scratch =
            carried fails entry start.device.fram before read.scratch →
          load.Passes (carried fails entry start.device.fram before read.scratch))
    (scratch : Scratch) :
    (reads.foldl (BootRead.run fails) start).scratch scratch =
      carried fails entry start.device.fram reads scratch := by
  induction reads using List.reverseRecOn generalizing scratch with
  | nil => rw [List.foldl_nil, initial, carried, lastRead, List.reverse_nil, List.find?_nil]
  | append_singleton reads read ih =>
      rw [List.map_append, List.nodup_append] at distinct
      obtain ⟨earlier, _, apart⟩ := distinct
      have known := ih earlier (fun other member => sound other (List.mem_append_left _ member))
        fun before other after load parts => by
          refine passes before other (after ++ [read]) load ?_
          rw [parts, List.append_assoc, List.cons_append]
      have absent : read.field ∉ reads.map BootRead.field :=
        fun member => apart _ member _ (.head _) rfl
      rw [List.foldl_append, List.foldl_cons, List.foldl_nil, carried, lastRead_snoc]
      by_cases same : scratch = read.scratch
      · rw [same, BootRead.run_scratch_same, BootRead.tmp]
        cases failed : fails read.field with
        | false =>
            rw [if_neg (by decide), if_pos ⟨rfl, rfl⟩,
              foldl_run_stored_other start (fun other member =>
                sound other (List.mem_append_left _ member)) absent]
        | true =>
            have value := known read.scratch
            rw [if_pos rfl, if_neg (fun both => Bool.noConfusion both.2), value, BootRead.left]
            cases taken : read.load with
            | none => exact carried.eq_1 ..
            | some load =>
                have letThrough := passes reads read [] load rfl taken failed value
                exact (Load.repaired_of_passes letThrough).trans (carried.eq_1 ..)
      · rw [BootRead.run_scratch_other _ read same, if_neg (fun both => same both.1.symm),
          known scratch, carried]

/-- What a read leaves in its setting stays to the end. -/
theorem foldl_run_read_own {before after : List BootRead} {read : BootRead} {load : Load}
    (distinct : ((before ++ read :: after).map BootRead.field).Nodup)
    (sound : ∀ other ∈ before ++ read :: after, other.Sound)
    (fits : BootRead.Fits start) (taken : read.load = some load) :
    load.setting.read ((before ++ read :: after).foldl (BootRead.run fails) start).device.global =
      load.repaired (read.tmp fails (before.foldl (BootRead.run fails) start)) := by
  rw [List.map_append, List.map_cons, List.nodup_append, List.nodup_cons] at distinct
  have own := sound read (List.mem_append_right _ (.head _))
  have sameField := (own.load load taken).1
  have earlier : BootRead.Fits (before.foldl (BootRead.run fails) start) :=
    foldl_run_fits start (fun other member => sound other (List.mem_append_left _ member)) fits
  rw [List.foldl_append, List.foldl_cons, foldl_run_read_other, BootRead.run_read_own earlier own
    taken]
  · exact fun other member => sound other (List.mem_append_right _ (.tail _ member))
  · rw [sameField]
    exact distinct.2.1.1

theorem tmp_of_succeeding {before after : List BootRead} {read : BootRead}
    (distinct : ((before ++ read :: after).map BootRead.field).Nodup)
    (sound : ∀ other ∈ before ++ read :: after, other.Sound)
    (succeeds : fails read.field = false) :
    read.tmp fails (before.foldl (BootRead.run fails) start) =
      read.field.stored start.device.fram := by
  rw [List.map_append, List.map_cons, List.nodup_append] at distinct
  rw [BootRead.tmp, succeeds, if_neg (by decide)]
  refine foldl_run_stored_other start
    (fun other member => sound other (List.mem_append_left _ member)) ?_
  exact fun member => distinct.2.2 _ member _ (.head _) rfl

end Reads

theorem bootReads_distinct : (bootReads.map BootRead.field).Nodup := by decide

theorem bootReads_loads : bootReads.filterMap BootRead.load = loads := rfl

theorem mem_loads {load : Load} :
    load ∈ loads ↔ ∃ read ∈ bootReads, read.load = some load := by
  rw [← bootReads_loads, List.mem_filterMap]

theorem bootReads_sound : ∀ read ∈ bootReads, read.Sound := by
  intro read member
  have sizes : ∀ other ∈ bootReads, other.field.size = other.scratch.size := by decide +kernel
  have fields : ∀ other ∈ bootReads, ∀ load ∈ other.load, load.setting.field = other.field := by
    decide
  refine ⟨sizes read member, fun load taken => ⟨fields read member load taken, ?_⟩⟩
  exact loads_sound load (mem_loads.mpr ⟨read, member, taken⟩)

theorem entry_fits (entry : Indeterminate) (device : Device) :
    BootRead.Fits ⟨device, entry.value, []⟩ := by
  intro scratch
  cases scratch with
  | tmpU8 => exact entry.tmpU8.isLt
  | tmpU32 => exact entry.tmpU32.isLt
  | tmpF32 => exact entry.tmpF32.isLt

section Failing

variable (fails : E2PField → Bool) (entry : Indeterminate) (device : Device)

def bootAfter (before : List BootRead) : Boot :=
  before.foldl (BootRead.run fails)
    ⟨⟨switched device.fram, defaultInit device.global⟩, entry.value, []⟩

section Split

variable {before after : List BootRead} {read : BootRead} {load : Load}
  (parts : bootReads = before ++ read :: after) (taken : read.load = some load)

include parts taken

theorem failing_read_own :
    load.setting.read (globalInitFailing fails entry device).device.global =
      load.repaired (read.tmp fails (bootAfter fails entry device before)) := by
  have distinct := bootReads_distinct
  have sound := bootReads_sound
  rw [parts] at distinct sound
  rw [globalInitFailing, parts]
  exact foldl_run_read_own _ distinct sound
    (entry_fits entry ⟨switched device.fram, defaultInit device.global⟩) taken

theorem failing_rewritten
    (rewrites : load.rewrites (read.tmp fails (bootAfter fails entry device before)) = true) :
    read.field ∈ (globalInitFailing fails entry device).rewritten :=
  (mem_foldl_rewritten _).mpr (.inr ⟨before, read, after, load, parts, taken, rfl, rewrites⟩)

omit taken in
theorem succeeding_tmp (succeeds : fails read.field = false) :
    read.tmp fails (bootAfter fails entry device before) =
      read.field.stored (switched device.fram) := by
  have distinct := bootReads_distinct
  have sound := bootReads_sound
  rw [parts] at distinct sound
  exact tmp_of_succeeding _ distinct sound succeeds

end Split

/-- What the failed reads find in their variables, as `HarmlessFailures` has it of the
values carried to them. -/
def FindsOwn : Prop :=
  ∀ before read after load, bootReads = before ++ read :: after → read.load = some load →
    fails read.field = true →
      let value := (bootAfter fails entry device before).scratch read.scratch
      load.Passes value ∧
        (value = load.repaired (read.field.stored (switched device.fram)) ∨
          value = load.setting.read (defaultInit device.global))

theorem noNeighbour_iff_findsOwn :
    NoNeighbour fails device (globalInitFailing fails entry device) ↔
      FindsOwn fails entry device := by
  constructor
  · intro truthful before read after load parts taken failed value
    have member : load ∈ loads := mem_loads.mpr ⟨read, parts ▸ by simp, taken⟩
    have same := ((bootReads_sound read (parts ▸ by simp)).load load taken).1
    have found : read.tmp fails (bootAfter fails entry device before) = value := by
      rw [BootRead.tmp, failed, if_pos rfl]
    have passes : load.Passes value := by
      rw [← Load.rewrites_eq_false_iff]
      by_contra rewrites
      rw [Bool.not_eq_false, ← found] at rewrites
      obtain ⟨_, _, _, succeeds, _⟩ :=
        truthful.rewritten read.field (failing_rewritten fails entry device parts taken rewrites)
      rw [failed] at succeeds
      cases succeeds
    have final := failing_read_own fails entry device parts taken
    rw [found, Load.repaired_of_passes passes] at final
    have loaded := truthful.loaded load member
    rw [final, same] at loaded
    exact ⟨passes, loaded⟩
  · intro own
    have found : ∀ before read after load, bootReads = before ++ read :: after →
        read.load = some load → fails read.field = true →
          read.tmp fails (bootAfter fails entry device before) =
            (bootAfter fails entry device before).scratch read.scratch := by
      intro before read after load _ _ failed
      rw [BootRead.tmp, failed, if_pos rfl]
    constructor
    · intro load member
      obtain ⟨read, inReads, taken⟩ := mem_loads.mp member
      have same := ((bootReads_sound read inReads).load load taken).1
      obtain ⟨before, after, parts⟩ := List.append_of_mem inReads
      rw [failing_read_own fails entry device parts taken, same]
      cases failed : fails read.field with
      | false => exact .inl (congrArg _ (succeeding_tmp fails entry device parts failed))
      | true =>
          obtain ⟨passes, value⟩ := own before read after load parts taken failed
          rw [found before read after load parts taken failed, Load.repaired_of_passes passes]
          exact value
    · intro field rewritten
      obtain old | ⟨before, read, after, load, parts, taken, rfl, rewrites⟩ :=
        (mem_foldl_rewritten _).mp rewritten
      · cases old
      · have same := ((bootReads_sound read (parts ▸ by simp)).load load taken).1
        refine ⟨load, mem_loads.mpr ⟨read, parts ▸ by simp, taken⟩, same, ?_⟩
        cases failed : fails read.field with
        | false =>
            refine ⟨rfl, ?_⟩
            rw [← succeeding_tmp fails entry device parts failed]
            exact rewrites
        | true =>
            obtain ⟨passes, _⟩ := own before read after load parts taken failed
            have kept := (load.rewrites_eq_false_iff _).mpr passes
            rw [← found before read after load parts taken failed, bootAfter, rewrites] at kept
            cases kept

theorem bootAfter_scratch {before : List BootRead} {rest : List BootRead}
    (parts : bootReads = before ++ rest)
    (passes : ∀ earlier read after load, bootReads = earlier ++ read :: after →
      read.load = some load → fails read.field = true →
        (bootAfter fails entry device earlier).scratch read.scratch =
            carried fails entry (switched device.fram) earlier read.scratch →
          load.Passes (carried fails entry (switched device.fram) earlier read.scratch))
    (scratch : Scratch) :
    (bootAfter fails entry device before).scratch scratch =
      carried fails entry (switched device.fram) before scratch := by
  have distinct := bootReads_distinct
  have sound := bootReads_sound
  rw [parts] at distinct sound
  rw [List.map_append, List.nodup_append] at distinct
  refine foldl_run_scratch _ entry rfl distinct.1
    (fun read member => sound read (List.mem_append_left _ member)) ?_ scratch
  intro earlier read after load inside
  refine passes earlier read (after ++ rest) load ?_
  rw [parts, inside, List.append_assoc, List.cons_append]

theorem findsOwn_iff_harmless :
    FindsOwn fails entry device ↔ HarmlessFailures fails entry device := by
  constructor
  · intro own before read after load parts taken failed
    have value := bootAfter_scratch fails entry device parts
      (fun earlier other later check split checked missed found =>
        found ▸ (own earlier other later check split checked missed).1) read.scratch
    rw [← value]
    exact own before read after load parts taken failed
  · intro harmless before read after load parts taken failed
    have value := bootAfter_scratch fails entry device parts
      (fun earlier other later check split checked missed _ =>
        (harmless earlier other later check split checked missed).1) read.scratch
    rw [value]
    exact harmless before read after load parts taken failed

end Failing

/-- Failed reads install no neighbour's value exactly where each finds in its variable
a value its check lets through that is the setting's own or its default. -/
theorem noNeighbour_iff (fails : E2PField → Bool) (entry : Indeterminate) (device : Device) :
    NoNeighbour fails device (globalInitFailing fails entry device) ↔
      HarmlessFailures fails entry device :=
  (noNeighbour_iff_findsOwn fails entry device).trans (findsOwn_iff_harmless fails entry device)

/-- The byte of `unit` ends in `comm_format` when the read of `comm_format` fails. -/
theorem failed_read_takes_unit :
    ¬ ∀ (fails : E2PField → Bool) (entry : Indeterminate) (device : Device),
      NoNeighbour fails device (globalInitFailing fails entry device) := by
  intro always
  have own := (always (fun field => field == .commFormat) ⟨0, 0, 0⟩
    ⟨E2PField.unit.write 1 cFactorySetting, GlobalDef.cleared⟩).loaded
    ⟨.commFormat, some (1, 0)⟩ (by decide)
  revert own
  decide +kernel

end ZhuoduControl.Settings
