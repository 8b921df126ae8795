import LightControl.Controller.LightLevel

/-!
# Two converters on one bus

Both converters of the program talk to the same chip: each conversion writes the number of its
input line and reads twice, and the chip converts ahead, so that a read returns what the read
before it sampled.  That is why `converter_read` throws the first byte away.

The chip is a parameter.  `ConvertsAhead` is what its data sheet says of the control bytes that the
program writes, and `pcf8591` is a chip that does so.  A transfer over the bus gives the `I2cOutcome` that the model of the converter takes as an
input, and `Bus.step` is the program with the chip behind it.

* `transfer_selects`, `transfer_sample` — one conversion: the line that is selected after it, and
  the line that its byte comes from.
* `own_line_iff` — the byte is its converter's own, in every run, exactly if the write has got
  through or the last write that did was its converter's too.
* `lightIntensity_law` — in every run in which the conversions of the light sensor get through,
  and whatever happens to the other ones, the window has the light level that was sampled last,
  once one has been different from the constructor's.
-/

namespace LightControl

open CTypes Runs

/-- The levels of the analog lines at one moment. -/
abbrev Lines := ℕ → UInt8

/-- The chip at the other end of the bus. -/
structure AdcChip (σ : Type*) where
  write : σ → List UInt8 → σ
  read : σ → Lines → σ × UInt8

/-- A chip that converts ahead: a control byte that is the number of a line, and sets nothing else,
selects that line, it stays selected, and a read returns the level that its line had at the read
before.  Of other control bytes, which may have the chip go from line to line by itself, nothing is
said. -/
structure AdcChip.ConvertsAhead {σ : Type*} (chip : AdcChip σ) (Selects : σ → ℕ → Prop) :
    Prop where
  write : ∀ s control output, control < 4 →
    Selects (chip.write s [control, output]) control.toNat
  read : ∀ s lines line, Selects s line → Selects (chip.read s lines).1 line
  ahead : ∀ s lines lines' line, Selects s line →
    (chip.read (chip.read s lines).1 lines').2 = lines line

/-- What the bus does with one conversion: whether the write gets through, the levels at the reads
that do, and the byte that the uninitialised buffer holds. -/
structure Transfer where
  i2cBuffer : UInt8
  written : Bool
  first : Option Lines
  second : Option Lines

/-- The level of a line that a conversion which gets through has sampled. -/
def Transfer.level (t : Transfer) (line : ℕ) : Option UInt8 :=
  if t.written ∧ t.second.isSome then t.first.map fun lines => lines line else none

/-- A conversion that gets through while every line has the same level. -/
def Transfer.through (level : UInt8) : Transfer :=
  ⟨0, true, some fun _ => level, some fun _ => level⟩

namespace AdcChip

variable {σ : Type*}

/-- A `read` that may fail. -/
def readByte (chip : AdcChip σ) (s : σ) : Option Lines → σ × Option UInt8
  | none => (s, none)
  | some lines => ((chip.read s lines).1, some (chip.read s lines).2)

/-- The `write` and the two `read`s of `converter_read`. -/
def transfer (chip : AdcChip σ) (s : σ) (c : I2cAdDaConverter) (t : Transfer) :
    σ × I2cOutcome :=
  let s := if t.written then chip.write s c.command else s
  let first := chip.readByte s t.first
  let second := chip.readByte first.1 t.second
  (second.1, ⟨t.i2cBuffer, first.2, second.2⟩)

variable {chip : AdcChip σ} {Selects : σ → ℕ → Prop} {s : σ} {c : I2cAdDaConverter}
  {t : Transfer}

/-- The line that a converter selects. -/
def line (c : I2cAdDaConverter) : ℕ := toUnsigned 2 c.adDaDeviceInChannel

lemma readByte_selects (hchip : chip.ConvertsAhead Selects) {n : ℕ} (hs : Selects s n)
    (lines : Option Lines) : Selects (chip.readByte s lines).1 n := by
  cases lines with
  | none => exact hs
  | some lines => exact hchip.read s lines n hs

lemma write_command_selects (hchip : chip.ConvertsAhead Selects) (s : σ)
    (c : I2cAdDaConverter) : Selects (chip.write s c.command) (line c) := by
  have hlt : toUnsigned 2 c.adDaDeviceInChannel < 4 := by
    simp only [toUnsigned]
    omega
  have hline : (UInt8.ofNat (toUnsigned 2 c.adDaDeviceInChannel)).toNat = line c := by
    rw [UInt8.toNat_ofNat', line]
    omega
  have hcontrol : UInt8.ofNat (toUnsigned 2 c.adDaDeviceInChannel) < 4 := by
    rw [UInt8.lt_iff_toNat_lt, hline]
    exact hlt
  rw [← hline]
  exact hchip.write s _ 0 hcontrol

/-- The line that is selected when a conversion begins to read. -/
lemma selects_of_write (hchip : chip.ConvertsAhead Selects) {n : ℕ}
    (hline : if t.written then line c = n else Selects s n) :
    Selects (if t.written then chip.write s c.command else s) n := by
  cases hw : t.written with
  | true =>
      rw [hw] at hline
      rw [← show line c = n from hline]
      exact write_command_selects hchip s c
  | false =>
      rw [hw] at hline
      exact hline

/-- **The line after a conversion.** -/
lemma transfer_selects (hchip : chip.ConvertsAhead Selects) {n : ℕ}
    (hline : if t.written then line c = n else Selects s n) :
    Selects (chip.transfer s c t).1 n :=
  readByte_selects hchip (readByte_selects hchip (selects_of_write hchip hline) _) _

/-- **The line that the byte comes from.** -/
lemma transfer_sample (hchip : chip.ConvertsAhead Selects) {n : ℕ}
    (hline : if t.written then line c = n else Selects s n) {lines lines' : Lines}
    (hfirst : t.first = some lines) (hsecond : t.second = some lines') :
    (chip.transfer s c t).2.buffer = lines n := by
  have hahead := hchip.ahead _ lines lines' n (selects_of_write hchip hline)
  simp only [transfer, hfirst, hsecond, readByte, I2cOutcome.buffer, Option.getD_some]
  exact hahead

/-- A conversion that gets through has its own line's level, whatever was selected before. -/
lemma buffer_of_level (hchip : chip.ConvertsAhead Selects) {level : UInt8}
    (hlevel : t.level (line c) = some level) : (chip.transfer s c t).2.buffer = level := by
  rw [Transfer.level] at hlevel
  split at hlevel
  case isTrue hthrough =>
    rcases hthrough with ⟨hw, hsecond⟩
    rcases Option.isSome_iff_exists.mp hsecond with ⟨lines', hlines'⟩
    rcases Option.map_eq_some_iff.mp hlevel with ⟨lines, hlines, rfl⟩
    exact transfer_sample hchip (by rw [hw]; rfl) hlines hlines'
  case isFalse => cases hlevel

/-- What the PCF8591 is at: its line, whether it goes on to the next one after each conversion, and
the conversion that the next read returns. -/
structure Pcf8591 where
  line : ℕ
  autoIncrement : Bool
  converted : UInt8

/-- The PCF8591 with four single-ended inputs, as its data sheet describes it: the low bits of a
control byte are the line and the flag. -/
def pcf8591 : AdcChip Pcf8591 where
  write s bytes :=
    let control := (bytes.headD 0).toNat
    ⟨control % 4, control / 4 % 2 = 1, s.converted⟩
  read s lines :=
    (⟨if s.autoIncrement then (s.line + 1) % 4 else s.line, s.autoIncrement, lines s.line⟩,
      s.converted)

/-- The chip when it is switched on. -/
def Pcf8591.new : Pcf8591 := ⟨0, false, 0x80⟩

lemma pcf8591_convertsAhead :
    pcf8591.ConvertsAhead fun s line => s.autoIncrement = false ∧ s.line = line where
  write s control output hcontrol := by
    have hlt : control.toNat < 4 := UInt8.lt_iff_toNat_lt.mp hcontrol
    refine ⟨decide_eq_false ?_, Nat.mod_eq_of_lt hlt⟩
    dsimp only [List.headD_cons]
    omega
  read s lines line := by
    rintro ⟨hauto, rfl⟩
    simp [pcf8591, hauto]
  ahead s lines lines' line := by
    rintro ⟨-, rfl⟩
    rfl

end AdcChip

/-! ## The program with the chip -/

/-- Not a poll of a converter. -/
def Event.isOther : Event → Bool
  | .lightSensorPoll _ => false
  | .powerSupplyVoltagePoll _ => false
  | _ => true

/-- What can happen next: a poll, with what the bus does, or any other event. -/
inductive BusEvent
  | lightSensorPoll (t : Transfer)
  | powerSupplyVoltagePoll (t : Transfer)
  | other (e : { e : Event // e.isOther = true })

/-- The program and the chip. -/
structure Bus (σ : Type*) where
  program : Program
  chip : σ

namespace Bus

variable {σ : Type*}

/-- The program when its constructor is done, which has made one conversion. -/
def start (chip : AdcChip σ) (s : σ) (charSigned : Bool) (clock : ℕ) (lightLast powerLast : ℤ)
    (t : Transfer) : Bus σ :=
  let made := chip.transfer s (Program.lightIntensityConverterInit lightLast) t
  ⟨Program.start charSigned clock lightLast powerLast made.2, made.1⟩

/-- One event. -/
def step (chip : AdcChip σ) (charSigned : Bool) (b : Bus σ) : BusEvent → Option (Bus σ)
  | .lightSensorPoll t =>
      let made := chip.transfer b.chip b.program.lightIntensityConverter t
      (b.program.step charSigned (.lightSensorPoll made.2)).map fun p => ⟨p, made.1⟩
  | .powerSupplyVoltagePoll t =>
      let made := chip.transfer b.chip b.program.powerSupplyVoltageConverter t
      (b.program.step charSigned (.powerSupplyVoltagePoll made.2)).map fun p => ⟨p, made.1⟩
  | .other e => (b.program.step charSigned e.1).map fun p => ⟨p, b.chip⟩

/-! ### The lines -/

/-- No event moves a converter to another line. -/
lemma program_channels {charSigned : Bool} {p p' : Program} {e : Event}
    (h : p.step charSigned e = some p') :
    p'.lightIntensityConverter.adDaDeviceInChannel
        = p.lightIntensityConverter.adDaDeviceInChannel ∧
      p'.powerSupplyVoltageConverter.adDaDeviceInChannel
        = p.powerSupplyVoltageConverter.adDaDeviceInChannel := by
  have hread : ∀ (c : I2cAdDaConverter) (io : I2cOutcome),
      (c.converterRead charSigned io).converter.adDaDeviceInChannel = c.adDaDeviceInChannel := by
    intro c io
    rw [I2cAdDaConverter.converterRead_converter]
  cases e with
  | lightSensorPoll io =>
      cases h
      exact ⟨hread p.lightIntensityConverter io, rfl⟩
  | powerSupplyVoltagePoll io =>
      cases h
      exact ⟨rfl, hread p.powerSupplyVoltageConverter io⟩
  | readyRead i r =>
      rcases Program.readyRead_cases h with ⟨-, rfl⟩ | ⟨-, k, c, -, rfl⟩
      · exact ⟨rfl, rfl⟩
      · simp only [Program.delivered]
        split <;> exact ⟨rfl, rfl⟩
  | _ =>
      cases h
      exact ⟨rfl, rfl⟩

/-- The line whose number an event writes to the chip. -/
def writes : BusEvent → Option ℕ
  | .lightSensorPoll t => if t.written then some 0 else none
  | .powerSupplyVoltagePoll t => if t.written then some 1 else none
  | .other _ => none

/-- The line of the last write that got through, from the one of the constructor. -/
def selectedLine (t : Transfer) (es : List BusEvent) : Option ℕ :=
  ((es.filterMap writes).getLast?).or (if t.written then some 0 else none)

lemma selectedLine_append (t : Transfer) (es : List BusEvent) (e : BusEvent) :
    selectedLine t (es ++ [e]) = (writes e).or (selectedLine t es) := by
  rw [selectedLine, List.filterMap_append, List.getLast?_append, Option.or_assoc]
  cases hw : writes e <;> simp [hw, selectedLine]

/-- What the chip and the converters are at after a run: the converters are at their lines, and
the line of the last write is selected. -/
structure Wired (Selects : σ → ℕ → Prop) (t : Transfer) (es : List BusEvent) (b : Bus σ) :
    Prop where
  light : AdcChip.line b.program.lightIntensityConverter = 0
  power : AdcChip.line b.program.powerSupplyVoltageConverter = 1
  selected : ∀ n, selectedLine t es = some n → Selects b.chip n

variable {chip : AdcChip σ} {Selects : σ → ℕ → Prop} {s : σ} {charSigned : Bool} {clock : ℕ}
  {lightLast powerLast : ℤ} {t : Transfer} {es : List BusEvent} {b b' : Bus σ}

lemma start_wired (hchip : chip.ConvertsAhead Selects) :
    Wired Selects t [] (start chip s charSigned clock lightLast powerLast t) where
  light := by
    rw [AdcChip.line, start, Program.start]
    simp only [I2cAdDaConverter.converterRead_converter]
    rfl
  power := rfl
  selected := by
    intro n hn
    refine AdcChip.transfer_selects hchip ?_
    cases hw : t.written with
    | true =>
        rw [selectedLine, hw] at hn
        cases hn
        rfl
    | false =>
        rw [selectedLine, hw] at hn
        cases hn

/-- The line that a conversion reads from, if the last write is known. -/
lemma line_of_selected {c : I2cAdDaConverter} {t' : Transfer} {own n : ℕ}
    (hselected : ∀ n, selectedLine t es = some n → Selects b.chip n)
    (hown : AdcChip.line c = own)
    (hn : (if t'.written then some own else none).or (selectedLine t es) = some n) :
    if t'.written then AdcChip.line c = n else Selects b.chip n := by
  cases hw : t'.written with
  | true =>
      rw [hw] at hn
      cases hn
      exact hown
  | false =>
      rw [hw] at hn
      exact hselected n hn

lemma step_wired (hchip : chip.ConvertsAhead Selects) {e : BusEvent}
    (hb : Wired Selects t es b) (h : step chip charSigned b e = some b') :
    Wired Selects t (es ++ [e]) b' := by
  -- the program takes a step of its own, which leaves the lines alone
  have hlines : ∀ {e : Event} {p : Program}, b.program.step charSigned e = some p →
      AdcChip.line p.lightIntensityConverter = 0 ∧
        AdcChip.line p.powerSupplyVoltageConverter = 1 := by
    intro e p hp
    rcases program_channels hp with ⟨hlight, hpower⟩
    rw [AdcChip.line, AdcChip.line, hlight, hpower]
    exact ⟨hb.light, hb.power⟩
  cases e with
  | lightSensorPoll t' =>
      rw [step, Option.map_eq_some_iff] at h
      rcases h with ⟨p, hp, rfl⟩
      refine ⟨(hlines hp).1, (hlines hp).2, fun n hn => ?_⟩
      rw [selectedLine_append] at hn
      exact AdcChip.transfer_selects hchip (line_of_selected hb.selected hb.light hn)
  | powerSupplyVoltagePoll t' =>
      rw [step, Option.map_eq_some_iff] at h
      rcases h with ⟨p, hp, rfl⟩
      refine ⟨(hlines hp).1, (hlines hp).2, fun n hn => ?_⟩
      rw [selectedLine_append] at hn
      exact AdcChip.transfer_selects hchip (line_of_selected hb.selected hb.power hn)
  | other e =>
      rw [step, Option.map_eq_some_iff] at h
      rcases h with ⟨p, hp, rfl⟩
      refine ⟨(hlines hp).1, (hlines hp).2, fun n hn => ?_⟩
      rw [selectedLine_append] at hn
      exact hb.selected n hn

lemma run_wired (hchip : chip.ConvertsAhead Selects)
    (h : run (step chip charSigned) (start chip s charSigned clock lightLast powerLast t) es
      = some b) :
    Wired Selects t es b :=
  run_history_invariant (start_wired hchip)
    (fun _ _ _ _ _ hb hstep => step_wired hchip hb hstep) es h

/-- **Whose line a conversion reads.**  In every state of every run in which some write has got
through: for a conversion that the bus may do next, both of whose reads get through, the byte is the
level of the line written last, which is its own if its write gets through.  So it is its own line's level, whatever the levels are,
exactly if its write gets through or the last write that did was its own converter's. -/
theorem own_line_iff (hchip : chip.ConvertsAhead Selects)
    (h : run (step chip charSigned) (start chip s charSigned clock lightLast powerLast t) es
      = some b) {n : ℕ} (hn : selectedLine t es = some n) (i2cBuffer : UInt8) (written : Bool)
    (second : Lines) :
    ((∀ lines : Lines, (chip.transfer b.chip b.program.lightIntensityConverter
        ⟨i2cBuffer, written, some lines, some second⟩).2.buffer = lines 0) ↔
      written = true ∨ n = 0) ∧
    ((∀ lines : Lines, (chip.transfer b.chip b.program.powerSupplyVoltageConverter
        ⟨i2cBuffer, written, some lines, some second⟩).2.buffer = lines 1) ↔
      written = true ∨ n = 1) := by
  have hwired := run_wired hchip h
  have hsample : ∀ {c : I2cAdDaConverter} {own : ℕ}, AdcChip.line c = own → ∀ lines : Lines,
      (chip.transfer b.chip c ⟨i2cBuffer, written, some lines, some second⟩).2.buffer
        = lines (if written then own else n) := by
    intro c own hown lines
    refine AdcChip.transfer_sample hchip
      (line_of_selected hwired.selected hown ?_) rfl rfl
    rw [hn]
    cases written <;> rfl
  have hown : ∀ {c : I2cAdDaConverter} {own : ℕ}, AdcChip.line c = own →
      ((∀ lines : Lines, (chip.transfer b.chip c
          ⟨i2cBuffer, written, some lines, some second⟩).2.buffer = lines own) ↔
        written = true ∨ n = own) := by
    intro c own hline
    constructor
    · intro hall
      -- levels that tell the two lines apart
      have hapart := hall fun line => if line = own then 1 else 0
      rw [hsample hline] at hapart
      cases written with
      | true => exact Or.inl rfl
      | false =>
          refine Or.inr ?_
          by_contra hne
          simp [hne] at hapart
    · intro hcase lines
      rw [hsample hline]
      rcases hcase with hw | hn
      · rw [if_pos hw]
      · rw [hn, ite_self]
  exact ⟨hown hwired.light, hown hwired.power⟩

/-- The write of the power supply's conversion is lost, and it reads the light sensor's line. -/
theorem own_line_iff_lost : ∃ b,
    run (step AdcChip.pcf8591 false) (start AdcChip.pcf8591 .new false 0 0 0 (.through 0))
      [.lightSensorPoll (.through 0)] = some b ∧
    ¬ ∀ lines : Lines, (AdcChip.pcf8591.transfer b.chip b.program.powerSupplyVoltageConverter
      ⟨0, false, some lines, some fun _ => 0⟩).2.buffer = lines 1 := by
  have h : run (step AdcChip.pcf8591 false)
      (start AdcChip.pcf8591 .new false 0 0 0 (.through 0))
      [.lightSensorPoll (.through 0)] = some _ := rfl
  refine ⟨_, h, fun hall => ?_⟩
  have hown := (own_line_iff AdcChip.pcf8591_convertsAhead h (n := 0) rfl 0 false
    fun _ => 0).2.mp hall
  rcases hown with hw | hn
  · cases hw
  · cases hn

/-! ### The light level -/

/-- What the window shows for a level of the light sensor's line. -/
def shown (charSigned : Bool) (level : UInt8) : ℤ := 100 - Program.darkness charSigned level

/-- The level that a poll of the light sensor samples. -/
def sampled : BusEvent → Option UInt8
  | .lightSensorPoll t => t.level 0
  | _ => none

/-- The levels that the polls of the light sensor have sampled. -/
def levels (es : List BusEvent) : List UInt8 := es.filterMap sampled

/-- Every conversion of the light sensor gets through. -/
def LightGetsThrough (es : List BusEvent) : Prop :=
  ∀ t, .lightSensorPoll t ∈ es → (t.level 0).isSome

/-- What the window has after a run: the level sampled last, once one has been shown
differently from the constructor's. -/
structure Lit (charSigned : Bool) (level₀ : UInt8) (es : List BusEvent) (b : Bus σ) : Prop where
  configured : b.program.Configured
  last : b.program.lightIntensityConverter.lastRangedValue
    = shown charSigned ((levels es).getLastD level₀)
  dark : (∀ level ∈ levels es, shown charSigned level = shown charSigned level₀) →
    (b.program.lightIntensity : ℤ) = 0
  light : (∃ level ∈ levels es, shown charSigned level ≠ shown charSigned level₀) →
    (b.program.lightIntensity : ℤ) = shown charSigned ((levels es).getLastD level₀)

lemma levels_append (es : List BusEvent) (e : BusEvent) :
    levels (es ++ [e]) = levels es ++ levels [e] := List.filterMap_append

/-- As long as all samples are shown alike, so is the last one. -/
lemma shown_getLastD {charSigned : Bool} {level₀ : UInt8} {levels : List UInt8}
    (hall : ∀ level ∈ levels, shown charSigned level = shown charSigned level₀) :
    shown charSigned (levels.getLastD level₀) = shown charSigned level₀ := by
  rcases List.mem_cons.mp (List.getLastD_mem_cons (l := levels) (a := level₀)) with heq | hmem
  · rw [heq]
  · exact hall _ hmem

/-- An event that is no conversion of the light sensor changes nothing of this. -/
lemma Lit.other {level₀ : UInt8} (hb : Lit charSigned level₀ es b) {e : BusEvent}
    (hquiet : levels [e] = [])
    (hlevel : b'.program.lightIntensity = b.program.lightIntensity ∧
      b'.program.lightIntensityConverter = b.program.lightIntensityConverter) :
    Lit charSigned level₀ (es ++ [e]) b' := by
  rcases hlevel with ⟨hintensity, hconverter⟩
  have hlevels : levels (es ++ [e]) = levels es := by
    rw [levels_append, hquiet, List.append_nil]
  rcases hb with ⟨hconfigured, hlast, hdark, hlight⟩
  constructor
  · rw [Program.Configured, hconverter]
    exact hconfigured
  · rw [hlevels, hconverter, hlast]
  · rw [hlevels, hintensity]
    exact hdark
  · rw [hlevels, hintensity]
    exact hlight

/-- A conversion of the light sensor that gets through. -/
lemma Lit.poll {level₀ level : UInt8} (hb : Lit charSigned level₀ es b) {e : BusEvent}
    (hlevels : levels [e] = [level]) {io : I2cOutcome} (hio : io.buffer = level)
    (hb' : b'.program = b.program.lightSensorPoll charSigned io) :
    Lit charSigned level₀ (es ++ [e]) b' := by
  rcases hb with ⟨hconfigured, hlast, hdark, hlight⟩
  rcases Program.lightSensorPoll_spec charSigned io hconfigured with
    ⟨hconfigured', hlast', hlight'⟩
  rw [← hb'] at hconfigured' hlast' hlight'
  rw [hio, ← shown] at hlast' hlight'
  rw [hlast] at hlight'
  have hall : levels (es ++ [e]) = levels es ++ [level] := by rw [levels_append, hlevels]
  refine ⟨hconfigured', ?_, ?_, ?_⟩
  · rw [hall, List.getLastD_concat, hlast']
  · intro hsame
    rw [hall] at hsame
    have hbefore : ∀ level ∈ levels es, shown charSigned level = shown charSigned level₀ :=
      fun level hmem => hsame level (List.mem_append_left _ hmem)
    have hnow := hsame level (List.mem_append_right _ List.mem_cons_self)
    rw [hlight', if_pos (hnow.trans (shown_getLastD hbefore).symm), hdark hbefore]
  · intro hdiffers
    rw [hall, List.getLastD_concat, hlight']
    by_cases hbefore : ∀ level ∈ levels es, shown charSigned level = shown charSigned level₀
    · -- this is the first one to be shown differently
      have hnow : shown charSigned level ≠ shown charSigned level₀ := by
        rw [hall] at hdiffers
        rcases hdiffers with ⟨level', hmem, hne⟩
        rcases List.mem_append.mp hmem with hmem | hmem
        · exact absurd (hbefore level' hmem) hne
        · rwa [List.mem_singleton.mp hmem] at hne
      rw [if_neg fun h => hnow (h.trans (shown_getLastD hbefore))]
    · push Not at hbefore
      rw [hlight hbefore]
      split
      case isTrue h => exact h.symm
      case isFalse => rfl

lemma start_lit (hchip : chip.ConvertsAhead Selects) {level₀ : UInt8}
    (hlevel : t.level 0 = some level₀) :
    Lit charSigned level₀ [] (start chip s charSigned clock lightLast powerLast t) := by
  have hbuffer : (chip.transfer s (Program.lightIntensityConverterInit lightLast) t).2.buffer
      = level₀ := AdcChip.buffer_of_level hchip hlevel
  have hconverter : (start chip s charSigned clock lightLast powerLast
      t).program.lightIntensityConverter
        = Program.lightIntensityConverterInit (shown charSigned level₀) := by
    rw [shown, ← hbuffer, ← Program.rangedValue_init charSigned lightLast]
    exact I2cAdDaConverter.converterRead_converter
  constructor
  · rw [Program.Configured, hconverter]
    rfl
  · rw [hconverter]
    rfl
  · intro _
    rfl
  · rintro ⟨level, hmem, -⟩
    cases hmem

lemma step_lit (hchip : chip.ConvertsAhead Selects) {level₀ : UInt8} {e : BusEvent}
    (hwired : Wired Selects t es b) (hb : Lit charSigned level₀ es b)
    (hthrough : LightGetsThrough [e]) (h : step chip charSigned b e = some b') :
    Lit charSigned level₀ (es ++ [e]) b' := by
  cases e with
  | lightSensorPoll t' =>
      rcases Option.isSome_iff_exists.mp (hthrough t' List.mem_cons_self) with ⟨level, hlevel⟩
      cases h
      have hlevels : levels [BusEvent.lightSensorPoll t'] = [level] := by
        simp [levels, sampled, hlevel]
      refine hb.poll hlevels (AdcChip.buffer_of_level hchip ?_) rfl
      rw [hwired.light]
      exact hlevel
  | powerSupplyVoltagePoll t' =>
      cases h
      exact hb.other rfl ⟨rfl, rfl⟩
  | other e =>
      rw [step, Option.map_eq_some_iff] at h
      rcases h with ⟨p, hp, rfl⟩
      refine hb.other rfl (Program.step_lightLevel hp ?_)
      intro io hio
      have hother := e.2
      rw [hio] at hother
      cases hother

/-- **The light level of the window**, for every run in which the conversions of the light sensor
get through, the constructor's included, and whatever happens to the conversions of the power
supply's voltage in between: it is what stands for the level of line 0 that was sampled last, once
a sample has stood for another value than the constructor's; before that it is 0. -/
theorem lightIntensity_law (hchip : chip.ConvertsAhead Selects) {level₀ : UInt8}
    (hlevel : t.level 0 = some level₀) (hthrough : LightGetsThrough es)
    (h : run (step chip charSigned) (start chip s charSigned clock lightLast powerLast t) es
      = some b) :
    ((∃ level ∈ levels es, shown charSigned level ≠ shown charSigned level₀) →
      (b.program.lightIntensity : ℤ) = shown charSigned ((levels es).getLastD level₀)) ∧
    ((∀ level ∈ levels es, shown charSigned level = shown charSigned level₀) →
      b.program.lightIntensity = 0) := by
  have hinvariant := run_history_invariant
    (I := fun es b => LightGetsThrough es → Wired Selects t es b ∧ Lit charSigned level₀ es b)
    (fun _ => ⟨start_wired hchip, start_lit hchip hlevel⟩) ?_ es h
  · refine ⟨(hinvariant hthrough).2.light, fun hall => ?_⟩
    exact Int.ofNat_eq_zero.mp ((hinvariant hthrough).2.dark hall)
  · intro es b e b' _ hb hstep hthrough
    have hbefore : LightGetsThrough es := by
      intro t' ht'
      exact hthrough t' (List.mem_append_left _ ht')
    have hnow : LightGetsThrough [e] := by
      intro t' ht'
      exact hthrough t' (List.mem_append_right _ ht')
    rcases hb hbefore with ⟨hwired, hlit⟩
    exact ⟨step_wired hchip hwired hstep, step_lit hchip hwired hlit hnow hstep⟩

/-- The constructor samples darkness; later a write for the power supply is lost, and the light
sensor's next conversion samples a level of its own. -/
theorem lightIntensity_law_lost : ∃ b,
    run (step AdcChip.pcf8591 false) (start AdcChip.pcf8591 .new false 0 0 0 (.through 255))
      [.powerSupplyVoltagePoll ⟨0, false, some fun _ => 7, some fun _ => 7⟩,
        .lightSensorPoll (.through 51)] = some b ∧ (b.program.lightIntensity : ℤ) = 80 := by
  have h : run (step AdcChip.pcf8591 false)
      (start AdcChip.pcf8591 .new false 0 0 0 (.through 255))
      [.powerSupplyVoltagePoll ⟨0, false, some fun _ => 7, some fun _ => 7⟩,
        .lightSensorPoll (.through 51)] = some _ := rfl
  have hlevel : (Transfer.through 255).level 0 = some 255 := rfl
  refine ⟨_, h, (lightIntensity_law AdcChip.pcf8591_convertsAhead hlevel ?_ h).1 ?_⟩
  · intro t ht
    simp only [List.mem_cons, List.not_mem_nil, or_false, reduceCtorEq, false_or,
      BusEvent.lightSensorPoll.injEq] at ht
    rw [ht]
    rfl
  · exact ⟨51, List.mem_cons_self, by decide⟩

end Bus

end LightControl
