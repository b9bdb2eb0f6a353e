import OpenQti.Lib.Rate
import OpenQti.Lib.Text

/-!
# The temperature of the modem

`thermal_monitoring_thread` reads the sensors every five seconds. It tells the user that the modem
gets hot, and that it starts to overheat, and switches it off when it does. Either of the first two
is said once, and not again until nothing at all has been said for a number of rounds.

`notices_apart` bounds how often they are said in any run, whatever the sensors read.
`switched_off_iff` says when the modem is switched off: a sensor must be too hot, and it must have
been read in the round before.
-/

namespace OpenQti.Thermal

open Machine Text

/-! ## The sensors -/

/-- `NO_OF_SENSORS`. -/
def noOfSensors : Nat := 6

/-- `THERMAL_TEMP_CRITICAL`. -/
def thermalTempCritical : Int := 90

/-- `THERMAL_TEMP_WARNING`. -/
def thermalTempWarning : Int := 87

/-- `THERMAL_TEMP_INFO`. -/
def thermalTempInfo : Int := 81

/-- What `get_temperature` finds: no such file, nothing in it, or up to six bytes and what the stack
holds behind them. -/
inductive Reading where
  | missing
  | nothing
  | text (bytes stack : List UInt8)
  deriving DecidableEq, Repr

/-- `get_temperature(sensor_path)`. -/
def getTemperature : Reading → Int
  | .missing => -22
  | .nothing => 0
  | .text bytes stack => atoi (bytes ++ stack)

/-! ## The thread -/

/-- The variables of `thermal_monitoring_thread`, and whether the modem has been switched off. -/
structure ThermalState where
  sensors : Nat → Int
  prevSensorReading : Nat → Int
  notifiedEmergency : Bool
  notifiedWarning : Bool
  round : UInt32
  lastNotifyRound : UInt32
  off : Bool

/-- The state in which the thread starts. -/
def ThermalState.start : ThermalState := ⟨fun _ => 0, fun _ => 0, false, false, 0, 0, false⟩

/-- What a round finds: the sensors, and whether the modem can be switched off. -/
structure ThermalEnv where
  zones : Nat → Reading
  powerOff : Bool

/-- The messages to the user. -/
inductive Notice where
  | shutdown (celsius : Int)
  | overheat (sensor : Nat) (celsius : Int)
  | hot (sensor : Nat) (celsius : Int)
  | rising (sensor : Nat) (celsius before : Int)
  deriving DecidableEq, Repr

/-- Their texts. -/
def Notice.text : Notice → List UInt8
  | .shutdown celsius =>
      sprintf "I'm at %iC, I will shutdown now to help the phone cool down. Restart eg25-manager to power me up again\n"
        [signed celsius]
  | .overheat sensor celsius =>
      sprintf "I'm starting to overheat!\nIf temperature keeps raising I will shut down soon (Sensor %i reports %iC)\n"
        [signed sensor, signed celsius]
  | .hot sensor celsius =>
      sprintf "It's getting hot in here... (Sensor %i reports %iC)\n" [signed sensor, signed celsius]
  | .rising sensor celsius before =>
      sprintf "Temperature is rapidly increasing\nSensor %i:\n  Current temperature: %iC\n  Previous temperature: %iC\n"
        [signed sensor, signed celsius, signed before]

/-- A message is added to the queue, or the modem is switched off. -/
inductive ThermalOutput where
  | notice (notice : Notice)
  | reboot
  deriving DecidableEq, Repr

/-- The first part of a round: all sensors are read. -/
def readSensors (env : ThermalEnv) (s : ThermalState) : ThermalState :=
  { s with
    prevSensorReading := fun i => if i < noOfSensors then s.sensors i else s.prevSensorReading i
    sensors := fun i => if i < noOfSensors then getTemperature (env.zones i) else s.sensors i }

/-- A sensor is too hot. If the modem cannot be switched off, the thread goes on. -/
def checkCritical (env : ThermalEnv) (i : Nat) (s : ThermalState) :
    ThermalState × List ThermalOutput :=
  if s.sensors i > thermalTempCritical then
    ({ s with lastNotifyRound := s.round, notifiedEmergency := true, off := env.powerOff },
      [.notice (.shutdown (s.sensors i)), .reboot])
  else (s, [])

/-- A sensor is hot, or gets hotter. -/
def checkWarnings (i : Nat) (s : ThermalState) : ThermalState × List ThermalOutput :=
  if s.sensors i > thermalTempWarning ∧ !s.notifiedEmergency then
    ({ s with lastNotifyRound := s.round, notifiedEmergency := true },
      [.notice (.overheat i (s.sensors i))])
  else if s.sensors i > thermalTempInfo ∧ !s.notifiedWarning then
    ({ s with lastNotifyRound := s.round, notifiedWarning := true },
      [.notice (.hot i (s.sensors i))])
  else if s.sensors i - s.prevSensorReading i > 10 then
    ({ s with lastNotifyRound := s.round },
      [.notice (.rising i (s.sensors i) (s.prevSensorReading i))])
  else (s, [])

/-- The second part of a round, for one sensor. -/
def checkSensor (env : ThermalEnv) (i : Nat) (s : ThermalState) :
    ThermalState × List ThermalOutput :=
  if s.prevSensorReading i ≠ 0 ∧ s.sensors i ≠ 0 then
    let (s, critical) := checkCritical env i s
    if s.off then (s, critical)
    else
      let (s, warnings) := checkWarnings i s
      (s, critical ++ warnings)
  else (s, [])

/-- The second part of a round, for the given sensors. -/
def checkSensors (env : ThermalEnv) : List Nat → ThermalState → ThermalState × List ThermalOutput
  | [], s => (s, [])
  | i :: rest, s =>
      let (s, first) := checkSensor env i s
      if s.off then (s, first)
      else
        let (s, later) := checkSensors env rest s
        (s, first ++ later)

/-- The last part of a round. -/
def countRound (s : ThermalState) : ThermalState :=
  let s := { s with round := s.round + 1 }
  if s.round - s.lastNotifyRound > 60 then
    { s with
      notifiedEmergency := false, notifiedWarning := false, lastNotifyRound := 0, round := 0 }
  else s

/-- One round of `thermal_monitoring_thread`. Nothing happens once the modem is off. -/
def thermalMonitoringThread (s : ThermalState) (env : ThermalEnv) :
    Except Empty (ThermalState × List ThermalOutput) :=
  if s.off then .ok (s, [])
  else
    let (s, outputs) := checkSensors env (List.range noOfSensors) (readSensors env s)
    .ok (if s.off then s else countRound s, outputs)

/-! ## Alarms -/

/-- The two messages that are held back. -/
inductive Alarm where
  | overheat
  | hot
  deriving DecidableEq, Repr

/-- The flag that holds a message back. -/
def Alarm.flag (alarm : Alarm) (s : ThermalState) : Bool :=
  match alarm with
  | .overheat => s.notifiedEmergency
  | .hot => s.notifiedWarning

/-- The message is sent. -/
def Alarm.isSent (alarm : Alarm) (output : ThermalOutput) : Bool :=
  match alarm, output with
  | .overheat, .notice (.overheat ..) => true
  | .hot, .notice (.hot ..) => true
  | _, _ => false

variable {env : ThermalEnv} {alarm : Alarm} {s next : ThermalState} {outputs : List ThermalOutput}
  {i : Nat}

/-- What the second part of a round does to a flag: a message is sent once at most, and not at all
if the flag is set. -/
structure Checked (alarm : Alarm) (s next : ThermalState) (outputs : List ThermalOutput) :
    Prop where
  round : next.round = s.round
  last : next.lastNotifyRound = s.lastNotifyRound ∨ next.lastNotifyRound = s.round
  kept : alarm.flag s → alarm.flag next ∧ outputs.countP alarm.isSent = 0
  sent : outputs.countP alarm.isSent = 0 ∨
    outputs.countP alarm.isSent = 1 ∧ alarm.flag next ∧ next.lastNotifyRound = s.round

theorem Checked.refl (alarm : Alarm) (s : ThermalState) : Checked alarm s s [] where
  round := rfl
  last := .inl rfl
  kept hflag := ⟨hflag, rfl⟩
  sent := .inl rfl

theorem Checked.trans {middle : ThermalState} {later : List ThermalOutput}
    (hfirst : Checked alarm s middle outputs) (hlater : Checked alarm middle next later) :
    Checked alarm s next (outputs ++ later) where
  round := hlater.round.trans hfirst.round
  last := by
    rcases hlater.last with hsame | hround
    · rw [hsame]
      exact hfirst.last
    · exact .inr (hround.trans hfirst.round)
  kept hflag := by
    obtain ⟨hmiddle, hnone⟩ := hfirst.kept hflag
    obtain ⟨hnext, hquiet⟩ := hlater.kept hmiddle
    exact ⟨hnext, by rw [List.countP_append, hnone, hquiet]⟩
  sent := by
    rw [List.countP_append]
    rcases hfirst.sent with hnone | ⟨hone, hflag, hround⟩
    · rw [hnone, Nat.zero_add, ← hfirst.round]
      exact hlater.sent
    -- once it has been sent, the flag is set for the rest of the round
    · obtain ⟨hnext, hquiet⟩ := hlater.kept hflag
      refine .inr ⟨by rw [hone, hquiet], hnext, ?_⟩
      rcases hlater.last with hsame | hlast
      · rw [hsame, hround]
      · rw [hlast, hfirst.round]

theorem critical_checked (alarm : Alarm) (env : ThermalEnv) (i : Nat) (s : ThermalState) :
    Checked alarm s (checkCritical env i s).1 (checkCritical env i s).2 := by
  unfold checkCritical
  split_ifs
  · refine ⟨rfl, .inr rfl, fun hflag => ?_, ?_⟩
    · cases alarm with
      | overheat => exact ⟨rfl, rfl⟩
      | hot => exact ⟨hflag, rfl⟩
    · cases alarm <;> exact .inl rfl
  · exact .refl alarm s

theorem warnings_checked (alarm : Alarm) (i : Nat) (s : ThermalState) :
    Checked alarm s (checkWarnings i s).1 (checkWarnings i s).2 := by
  unfold checkWarnings
  split_ifs with hwarning hinfo
  · have hfree : s.notifiedEmergency = false := by simpa using hwarning.2
    refine ⟨rfl, .inr rfl, fun hflag => ?_, ?_⟩
    · cases alarm with
      | overheat => exact absurd (hfree.symm.trans hflag) Bool.false_ne_true
      | hot => exact ⟨hflag, rfl⟩
    · cases alarm with
      | overheat => exact .inr ⟨rfl, rfl, rfl⟩
      | hot => exact .inl rfl
  · have hfree : s.notifiedWarning = false := by simpa using hinfo.2
    refine ⟨rfl, .inr rfl, fun hflag => ?_, ?_⟩
    · cases alarm with
      | overheat => exact ⟨hflag, rfl⟩
      | hot => exact absurd (hfree.symm.trans hflag) Bool.false_ne_true
    · cases alarm with
      | overheat => exact .inl rfl
      | hot => exact .inr ⟨rfl, rfl, rfl⟩
  · refine ⟨rfl, .inr rfl, fun hflag => ⟨?_, ?_⟩, ?_⟩
    · cases alarm <;> exact hflag
    · cases alarm <;> rfl
    · cases alarm <;> exact .inl rfl
  · exact .refl alarm s

theorem sensor_checked (alarm : Alarm) (env : ThermalEnv) (i : Nat) (s : ThermalState) :
    Checked alarm s (checkSensor env i s).1 (checkSensor env i s).2 := by
  have hcritical := critical_checked alarm env i s
  unfold checkSensor
  dsimp only
  split_ifs
  · exact hcritical
  · exact hcritical.trans (warnings_checked alarm i _)
  · exact .refl alarm s

theorem sensors_checked (alarm : Alarm) (env : ThermalEnv) (sensors : List Nat) (s : ThermalState) :
    Checked alarm s (checkSensors env sensors s).1 (checkSensors env sensors s).2 := by
  induction sensors generalizing s with
  | nil => exact .refl alarm s
  | cons i rest ih =>
      have hfirst := sensor_checked alarm env i s
      simp only [checkSensors]
      split_ifs
      · exact hfirst
      · exact hfirst.trans (ih _)

/-- The rounds for which a message is certainly held back. -/
def held (alarm : Alarm) (s : ThermalState) : Nat :=
  if alarm.flag s then max 1 (61 - (s.round - s.lastNotifyRound).toNat) else 0

/-- The round is over: the flag stays for as long as it has to. -/
theorem count_round_held (alarm : Alarm) (s : ThermalState) :
    held alarm s ≤ held alarm (countRound s) + 1 := by
  have hnext : s.round + 1 - s.lastNotifyRound = s.round - s.lastNotifyRound + 1 := by
    rw [UInt32.sub_eq_add_neg, UInt32.sub_eq_add_neg, UInt32.add_assoc, UInt32.add_comm 1,
      UInt32.add_assoc]
  unfold countRound
  dsimp only
  rw [hnext]
  generalize hage : s.round - s.lastNotifyRound = age
  by_cases hflag : alarm.flag s
  · split_ifs with hover
    · have hover : 60 < (age + 1).toNat := hover
      rw [held, if_pos hflag, hage]
      have hage : 60 ≤ age.toNat := by
        rw [UInt32.toNat_add] at hover
        have hone : (1 : UInt32).toNat = 1 := rfl
        omega
      omega
    · have hkept : alarm.flag { s with round := s.round + 1 } := by
        cases alarm <;> exact hflag
      rw [held, if_pos hflag, hage, held, if_pos hkept]
      show _ ≤ max 1 (61 - (s.round + 1 - s.lastNotifyRound).toNat) + 1
      rw [hnext, hage, UInt32.toNat_add]
      have hone : (1 : UInt32).toNat = 1 := rfl
      omega
  · rw [held, if_neg hflag]
    exact Nat.zero_le _

/-- The messages of a round can only hold back longer. -/
theorem Checked.held_le (h : Checked alarm s next outputs) : held alarm s ≤ held alarm next := by
  by_cases hflag : alarm.flag s
  · rw [held, if_pos hflag, held, if_pos (h.kept hflag).1, h.round]
    rcases h.last with hsame | hround
    · rw [hsame]
    · rw [hround, UInt32.sub_self]
      show _ ≤ max 1 (61 - 0)
      omega
  · rw [held, if_neg hflag]
    exact Nat.zero_le _

/-- A message that has been sent is held back from then on. -/
theorem Checked.held_sent (h : Checked alarm s next outputs)
    (hsent : outputs.countP alarm.isSent ≠ 0) :
    outputs.countP alarm.isSent = 1 ∧ held alarm s = 0 ∧ 61 ≤ held alarm next := by
  rcases h.sent with hnone | ⟨hone, hflag, hround⟩
  · exact absurd hnone hsent
  · have hfree : ¬ alarm.flag s := fun hset => hsent (h.kept hset).2
    refine ⟨hone, by rw [held, if_neg hfree], ?_⟩
    rw [held, if_pos hflag, hround, h.round, UInt32.sub_self]
    exact Nat.le_max_right 1 61

theorem held_read (alarm : Alarm) (env : ThermalEnv) (s : ThermalState) :
    held alarm (readSensors env s) = held alarm s := by
  cases alarm <;> rfl

theorem held_back (alarm : Alarm) :
    HeldBack thermalMonitoringThread alarm.isSent (held alarm) 60 := by
  intro s env next outputs h
  unfold thermalMonitoringThread at h
  by_cases hoff : s.off
  · rw [if_pos hoff] at h
    cases h
    exact .inl ⟨rfl, Nat.le_succ _⟩
  rw [if_neg hoff] at h
  have hchecked := sensors_checked alarm env (List.range noOfSensors) (readSensors env s)
  cases hround : checkSensors env (List.range noOfSensors) (readSensors env s) with
  | mk checked sent =>
      rw [hround] at h hchecked
      dsimp only at h hchecked
      simp only [Except.ok.injEq, Prod.mk.injEq] at h
      obtain ⟨rfl, rfl⟩ := h
      have hcount : held alarm checked ≤
          held alarm (if checked.off then checked else countRound checked) + 1 := by
        split_ifs
        · exact Nat.le_succ _
        · exact count_round_held alarm checked
      by_cases hsent : sent.countP alarm.isSent = 0
      · have hle := hchecked.held_le
        rw [held_read] at hle
        exact .inl ⟨hsent, by omega⟩
      · obtain ⟨hone, hfree, hheld⟩ := hchecked.held_sent hsent
        rw [held_read] at hfree
        exact .inr ⟨hone, hfree, by omega⟩

/-- In any run, from any state, the user is told at most once in 61 rounds that the modem gets hot,
and as often that it starts to overheat. -/
theorem notices_apart (alarm : Alarm) {start finish : ThermalState} {rounds : List ThermalEnv}
    {sends : List ThermalOutput}
    (h : emit thermalMonitoringThread start rounds = .ok (finish, sends)) :
    sends.countP alarm.isSent ≤ (rounds.length + 60) / 61 :=
  emit_rate (held_back alarm) h

/-- All sensors read the same. -/
def steadyRound (celsius : List UInt8) : ThermalEnv := ⟨fun _ => .text celsius [], true⟩

/-- It gets hot, and stays so for 61 rounds. -/
def hotRounds : List ThermalEnv :=
  steadyRound (ascii "50") :: List.replicate 61 (steadyRound (ascii "82"))

theorem notices_apart_sample :
    ∃ finish sends, emit thermalMonitoringThread .start hotRounds = .ok (finish, sends) ∧
      .notice (.hot 0 82) ∈ sends ∧ sends.countP Alarm.hot.isSent ≤ (62 + 60) / 61 := by
  have hrun : ∃ finish sends, emit thermalMonitoringThread .start hotRounds = .ok (finish, sends) ∧
      .notice (.hot 0 82) ∈ sends := by
    refine ⟨_, _, rfl, ?_⟩
    decide
  obtain ⟨finish, sends, hfinish, hsent⟩ := hrun
  exact ⟨finish, sends, hfinish, hsent, notices_apart .hot hfinish⟩

/-! ## Switching off -/

/-- A sensor is too hot, and has been read in the round before. -/
def HotAfter (before : Nat → Int) (env : ThermalEnv) : Prop :=
  env.powerOff ∧ ∃ i < noOfSensors, before i ≠ 0 ∧
    getTemperature (env.zones i) > thermalTempCritical

/-- What is checked for one sensor. -/
def TooHot (env : ThermalEnv) (s : ThermalState) (i : Nat) : Prop :=
  env.powerOff ∧ s.prevSensorReading i ≠ 0 ∧ s.sensors i > thermalTempCritical

theorem warnings_keep (i : Nat) (s : ThermalState) :
    (checkWarnings i s).1.sensors = s.sensors ∧
      (checkWarnings i s).1.prevSensorReading = s.prevSensorReading ∧
      (checkWarnings i s).1.off = s.off := by
  unfold checkWarnings
  split_ifs <;> exact ⟨rfl, rfl, rfl⟩

theorem sensor_keeps (env : ThermalEnv) (i : Nat) (s : ThermalState) :
    (checkSensor env i s).1.sensors = s.sensors ∧
      (checkSensor env i s).1.prevSensorReading = s.prevSensorReading := by
  have hcritical : (checkCritical env i s).1.sensors = s.sensors ∧
      (checkCritical env i s).1.prevSensorReading = s.prevSensorReading := by
    unfold checkCritical
    split_ifs <;> exact ⟨rfl, rfl⟩
  obtain ⟨hsensors, hprev, -⟩ := warnings_keep i (checkCritical env i s).1
  unfold checkSensor
  dsimp only
  split_ifs
  · exact hcritical
  · exact ⟨hsensors.trans hcritical.1, hprev.trans hcritical.2⟩
  · exact ⟨rfl, rfl⟩

/-- The modem is switched off exactly for a sensor that is too hot, and then says so last. -/
theorem sensor_off (env : ThermalEnv) (i : Nat) {s : ThermalState} (hon : s.off = false) :
    ((checkSensor env i s).1.off ↔ TooHot env s i) ∧
      ((checkSensor env i s).1.off → ∃ celsius > thermalTempCritical,
        (checkSensor env i s).2 = [.notice (.shutdown celsius), .reboot]) := by
  have hoff := (warnings_keep i (checkCritical env i s).1).2.2
  unfold checkSensor TooHot
  by_cases hread : s.prevSensorReading i ≠ 0 ∧ s.sensors i ≠ 0
  · rw [if_pos hread]
    dsimp only
    by_cases hhot : s.sensors i > thermalTempCritical
    · have hcritical : checkCritical env i s =
          ({ s with lastNotifyRound := s.round, notifiedEmergency := true, off := env.powerOff },
            [.notice (.shutdown (s.sensors i)), .reboot]) := by
        rw [checkCritical, if_pos hhot]
      rw [hcritical] at hoff ⊢
      dsimp only at hoff ⊢
      by_cases hpower : env.powerOff
      · rw [if_pos hpower]
        exact ⟨iff_of_true hpower ⟨hpower, hread.1, hhot⟩, fun _ => ⟨_, hhot, rfl⟩⟩
      · rw [if_neg hpower]
        dsimp only
        rw [hoff]
        exact ⟨iff_of_false hpower fun htoo => hpower htoo.1, fun hset => absurd hset hpower⟩
    · have hcritical : checkCritical env i s = (s, []) := by
        rw [checkCritical, if_neg hhot]
      rw [hcritical] at hoff ⊢
      dsimp only at hoff ⊢
      rw [if_neg (by rw [hon]; exact Bool.false_ne_true)]
      dsimp only
      rw [hoff, hon]
      exact ⟨iff_of_false Bool.false_ne_true fun htoo => hhot htoo.2.2,
        fun hset => absurd hset Bool.false_ne_true⟩
  · rw [if_neg hread, hon]
    refine ⟨iff_of_false Bool.false_ne_true fun htoo => hread ⟨htoo.2.1, ?_⟩,
      fun hset => absurd hset Bool.false_ne_true⟩
    have hhot := htoo.2.2
    unfold thermalTempCritical at hhot
    omega

/-- What the second part of a round does about it. -/
theorem sensors_off (env : ThermalEnv) (sensors : List Nat) {s : ThermalState}
    (hon : s.off = false) :
    ((checkSensors env sensors s).1.off ↔ ∃ i ∈ sensors, TooHot env s i) ∧
      (checkSensors env sensors s).1.sensors = s.sensors ∧
      ((checkSensors env sensors s).1.off → ∃ earlier, ∃ celsius > thermalTempCritical,
        (checkSensors env sensors s).2 =
          earlier ++ [.notice (.shutdown celsius), .reboot]) := by
  induction sensors generalizing s with
  | nil =>
      simp only [checkSensors, hon]
      simp
  | cons i rest ih =>
      obtain ⟨hiff, hsaid⟩ := sensor_off env i hon
      obtain ⟨hsensors, hprev⟩ := sensor_keeps env i s
      simp only [checkSensors, List.mem_cons, exists_eq_or_imp]
      by_cases hoff : (checkSensor env i s).1.off
      · rw [if_pos hoff]
        obtain ⟨celsius, hhot, houtputs⟩ := hsaid hoff
        exact ⟨iff_of_true hoff (.inl (hiff.1 hoff)), hsensors,
          fun _ => ⟨[], celsius, hhot, houtputs⟩⟩
      · rw [if_neg hoff]
        obtain ⟨hlater, hkept, hlast⟩ :=
          ih (by simpa using hoff : (checkSensor env i s).1.off = false)
        have hsame : ∀ j, TooHot env (checkSensor env i s).1 j ↔ TooHot env s j := by
          intro j
          unfold TooHot
          rw [hsensors, hprev]
        simp only [hsame] at hlater
        refine ⟨?_, hkept.trans hsensors, fun hset => ?_⟩
        · rw [hlater, or_iff_right (fun htoo => hoff (hiff.2 htoo))]
        · obtain ⟨earlier, celsius, hhot, houtputs⟩ := hlast hset
          refine ⟨(checkSensor env i s).2 ++ earlier, celsius, hhot, ?_⟩
          show _ ++ _ = _
          rw [houtputs, List.append_assoc]

/-- Counting the round changes neither. -/
theorem count_round_keeps (checked : ThermalState) :
    (if checked.off then checked else countRound checked).off = checked.off ∧
      (if checked.off then checked else countRound checked).sensors = checked.sensors := by
  unfold countRound
  dsimp only
  split_ifs <;> exact ⟨rfl, rfl⟩

/-- A round of a modem that is on. -/
theorem round_off {env : ThermalEnv} (hon : s.off = false)
    (h : thermalMonitoringThread s env = .ok (next, outputs)) :
    (next.off ↔ HotAfter s.sensors env) ∧
      (∀ i < noOfSensors, next.sensors i = getTemperature (env.zones i)) ∧
      (next.off → ∃ earlier, ∃ celsius > thermalTempCritical,
        outputs = earlier ++ [.notice (.shutdown celsius), .reboot]) := by
  unfold thermalMonitoringThread at h
  rw [if_neg (by rw [hon]; exact Bool.false_ne_true)] at h
  obtain ⟨hiff, hsensors, hsaid⟩ := sensors_off env (List.range noOfSensors)
    (show (readSensors env s).off = false from hon)
  cases hround : checkSensors env (List.range noOfSensors) (readSensors env s) with
  | mk checked sent =>
      rw [hround] at h hiff hsensors hsaid
      dsimp only at h hiff hsensors hsaid
      simp only [Except.ok.injEq, Prod.mk.injEq] at h
      obtain ⟨rfl, rfl⟩ := h
      obtain ⟨hoff, hkept⟩ := count_round_keeps checked
      refine ⟨?_, fun i hi => ?_, fun hset => hsaid (hoff ▸ hset)⟩
      · rw [hoff, hiff]
        constructor
        · rintro ⟨i, hi, hpower, hprev, hhot⟩
          have hlt : i < noOfSensors := List.mem_range.1 hi
          simp only [readSensors, if_pos hlt] at hprev hhot
          exact ⟨hpower, i, hlt, hprev, hhot⟩
        · rintro ⟨hpower, i, hlt, hprev, hhot⟩
          refine ⟨i, List.mem_range.2 hlt, hpower, ?_, ?_⟩
          · simpa only [readSensors, if_pos hlt] using hprev
          · simpa only [readSensors, if_pos hlt] using hhot
      · rw [hkept, hsensors]
        simp only [readSensors, if_pos hi]

/-- Nothing happens while the modem is off. -/
theorem off_quiet {finish : ThermalState} {rounds : List ThermalEnv} {sends : List ThermalOutput}
    (hoff : s.off) (h : emit thermalMonitoringThread s rounds = .ok (finish, sends)) :
    finish = s ∧ sends = [] := by
  induction rounds generalizing sends with
  | nil =>
      cases h
      exact ⟨rfl, rfl⟩
  | cons env rest ih =>
      have hquiet : thermalMonitoringThread s env = .ok (s, []) := by
        rw [thermalMonitoringThread, if_pos hoff]
      rw [emit_quiet hquiet] at h
      exact ih h

/-- Only the readings of the sensors that there are matter. -/
theorem hot_after_congr {sensors others : Nat → Int}
    (hsame : ∀ i < noOfSensors, sensors i = others i) (env : ThermalEnv) :
    HotAfter sensors env ↔ HotAfter others env := by
  unfold HotAfter
  refine and_congr_right fun _ => exists_congr fun i => and_congr_right fun hi => ?_
  rw [hsame i hi]

/-- A run of a modem that is on, whatever its sensors have read. -/
theorem run_off {finish : ThermalState} {rounds : List ThermalEnv} {sends : List ThermalOutput}
    (hon : s.off = false) (h : emit thermalMonitoringThread s rounds = .ok (finish, sends)) :
    (finish.off ↔ (∃ first, [first] <+: rounds ∧ HotAfter s.sensors first) ∨
      ∃ first second, [first, second] <:+: rounds ∧
        HotAfter (fun i => getTemperature (first.zones i)) second) ∧
    (finish.off → ∃ earlier, ∃ celsius > thermalTempCritical,
      sends = earlier ++ [.notice (.shutdown celsius), .reboot]) := by
  induction rounds generalizing s sends with
  | nil =>
      cases h
      simp [hon]
  | cons env rest ih =>
      obtain ⟨next, first, later, hstep, hrest, rfl⟩ := emit_cons_ok h
      obtain ⟨hiff, hsensors, hsaid⟩ := round_off hon hstep
      by_cases hoff : next.off
      · obtain ⟨rfl, rfl⟩ := off_quiet hoff hrest
        rw [List.append_nil]
        exact ⟨iff_of_true hoff (.inl ⟨env, List.prefix_append [env] rest, hiff.1 hoff⟩), hsaid⟩
      · obtain ⟨hlater, hlast⟩ := ih (by simpa using hoff) hrest
        refine ⟨?_, fun hset => ?_⟩
        · -- the readings of this round are those before the next one
          have hsame : ∀ second, HotAfter next.sensors second ↔
              HotAfter (fun i => getTemperature (env.zones i)) second :=
            fun second => hot_after_congr hsensors second
          rw [hlater]
          constructor
          · rintro (⟨second, hprefix, hhot⟩ | ⟨first, second, hinfix, hhot⟩)
            · refine .inr ⟨env, second, ?_, (hsame second).1 hhot⟩
              exact (List.cons_prefix_cons.2 ⟨rfl, hprefix⟩).isInfix
            · exact .inr ⟨first, second, hinfix.trans (List.suffix_cons env rest).isInfix, hhot⟩
          · rintro (⟨second, hprefix, hhot⟩ | ⟨first, second, hinfix, hhot⟩)
            · obtain ⟨rfl, -⟩ := List.cons_prefix_cons.1 hprefix
              exact absurd (hiff.2 hhot) hoff
            · rcases List.infix_cons_iff.1 hinfix with hprefix | hinfix
              · obtain ⟨rfl, hsecond⟩ := List.cons_prefix_cons.1 hprefix
                exact .inl ⟨second, hsecond, (hsame second).2 hhot⟩
              · exact .inr ⟨first, second, hinfix, hhot⟩
        · obtain ⟨earlier, celsius, hhot, rfl⟩ := hlast hset
          exact ⟨first ++ earlier, celsius, hhot, (List.append_assoc ..).symm⟩

/-- The modem is switched off in a run exactly if a sensor is too hot in a round, having been read
in the one before, and it can be switched off then. That is the last thing that happens, and the
user has just been told. -/
theorem switched_off_iff {finish : ThermalState} {rounds : List ThermalEnv}
    {sends : List ThermalOutput}
    (h : emit thermalMonitoringThread .start rounds = .ok (finish, sends)) :
    (finish.off ↔ ∃ first second, [first, second] <:+: rounds ∧
      HotAfter (fun i => getTemperature (first.zones i)) second) ∧
    (finish.off → ∃ earlier, ∃ celsius > thermalTempCritical,
      sends = earlier ++ [.notice (.shutdown celsius), .reboot]) := by
  obtain ⟨hiff, hsaid⟩ := run_off rfl h
  have hcold : ¬ ∃ first, [first] <+: rounds ∧ HotAfter ThermalState.start.sensors first := by
    rintro ⟨first, -, -, i, -, hzero, -⟩
    exact hzero rfl
  rw [or_iff_right hcold] at hiff
  exact ⟨hiff, hsaid⟩

theorem switched_off_iff_sample :
    ∃ finish sends, emit thermalMonitoringThread .start
        [steadyRound (ascii "91"), steadyRound (ascii "92")] = .ok (finish, sends) ∧ finish.off ∧
      ∃ earlier, ∃ celsius > thermalTempCritical,
        sends = earlier ++ [.notice (.shutdown celsius), .reboot] := by
  have hrun : ∃ finish sends, emit thermalMonitoringThread .start
      [steadyRound (ascii "91"), steadyRound (ascii "92")] = .ok (finish, sends) := ⟨_, _, rfl⟩
  obtain ⟨finish, sends, hfinish⟩ := hrun
  obtain ⟨hiff, hsaid⟩ := switched_off_iff hfinish
  have hoff : finish.off := by
    refine hiff.2 ⟨_, _, List.infix_refl _, rfl, 0, by decide, by decide, by decide⟩
  exact ⟨finish, sends, hfinish, hoff, hsaid hoff⟩

/-! ## The messages -/

/-- `MAX_MESSAGE_SIZE`. -/
def maxMessageSize : Nat := 160

/-- A number takes 11 characters at most. -/
def Printable (n : Int) : Prop := (signed n).length ≤ 11

theorem printable_temperature (reading : Reading) : Printable (getTemperature reading) := by
  cases reading with
  | missing => exact (by decide : (signed (-22)).length ≤ 11)
  | nothing => exact (by decide : (signed 0).length ≤ 11)
  | text bytes stack => exact length_signed_atoi (bytes ++ stack)

theorem printable_sensor (hi : i < noOfSensors) : Printable i := by
  unfold noOfSensors at hi
  exact length_signed_le (by decide) (by omega) (by omega)

/-- The numbers of a message can be printed. -/
def Notice.Measured : Notice → Prop
  | .shutdown celsius => Printable celsius
  | .overheat sensor celsius => Printable sensor ∧ Printable celsius
  | .hot sensor celsius => Printable sensor ∧ Printable celsius
  | .rising sensor celsius before => Printable sensor ∧ Printable celsius ∧ Printable before

/-- Such a message is whole, with the 0 behind it. -/
theorem Notice.Measured.fits {notice : Notice} (h : notice.Measured) :
    notice.text.length < maxMessageSize := by
  refine Nat.lt_succ_of_le (?_ : notice.text.length ≤ 159)
  cases notice with
  | shutdown celsius =>
      refine length_sprintf_le 11 ?_ rfl (by decide +kernel)
      exact List.forall_mem_singleton.2 h
  | overheat sensor celsius =>
      refine length_sprintf_le 11 ?_ rfl (by decide +kernel)
      exact List.forall_mem_cons.2 ⟨h.1, List.forall_mem_singleton.2 h.2⟩
  | hot sensor celsius =>
      refine length_sprintf_le 11 ?_ rfl (by decide +kernel)
      exact List.forall_mem_cons.2 ⟨h.1, List.forall_mem_singleton.2 h.2⟩
  | rising sensor celsius before =>
      refine length_sprintf_le 11 ?_ rfl (by decide +kernel)
      exact List.forall_mem_cons.2 ⟨h.1, List.forall_mem_cons.2
        ⟨h.2.1, List.forall_mem_singleton.2 h.2.2⟩⟩

/-- The message of an output, if it is one, can be printed. -/
def MessageMeasured : ThermalOutput → Prop
  | .notice message => message.Measured
  | .reboot => True

/-- All that the sensors have read can be printed. -/
structure Readable (s : ThermalState) : Prop where
  sensors : ∀ i, Printable (s.sensors i)
  before : ∀ i, Printable (s.prevSensorReading i)

theorem Readable.of_same (h : Readable s) (hsensors : next.sensors = s.sensors)
    (hbefore : next.prevSensorReading = s.prevSensorReading) : Readable next :=
  ⟨fun i => hsensors ▸ h.sensors i, fun i => hbefore ▸ h.before i⟩

theorem critical_measured (env : ThermalEnv) (i : Nat) (h : Readable s) :
    ∀ output ∈ (checkCritical env i s).2, MessageMeasured output := by
  unfold checkCritical
  split_ifs
  · exact List.forall_mem_cons.2 ⟨h.sensors i, List.forall_mem_singleton.2 trivial⟩
  · exact List.forall_mem_nil _

theorem warnings_measured (hi : i < noOfSensors) (h : Readable s) :
    ∀ output ∈ (checkWarnings i s).2, MessageMeasured output := by
  have hsensor := printable_sensor hi
  unfold checkWarnings
  split_ifs
  · exact List.forall_mem_singleton.2 ⟨hsensor, h.sensors i⟩
  · exact List.forall_mem_singleton.2 ⟨hsensor, h.sensors i⟩
  · exact List.forall_mem_singleton.2 ⟨hsensor, h.sensors i, h.before i⟩
  · exact List.forall_mem_nil _

theorem sensor_measured (env : ThermalEnv) (hi : i < noOfSensors) (h : Readable s) :
    ∀ output ∈ (checkSensor env i s).2, MessageMeasured output := by
  have hcritical : Readable (checkCritical env i s).1 := by
    unfold checkCritical
    split_ifs
    · exact h.of_same rfl rfl
    · exact h
  unfold checkSensor
  dsimp only
  split_ifs
  · exact critical_measured env i h
  · exact List.forall_mem_append.2 ⟨critical_measured env i h, warnings_measured hi hcritical⟩
  · exact List.forall_mem_nil _

theorem sensors_measured (env : ThermalEnv) {sensors : List Nat}
    (hsensors : ∀ i ∈ sensors, i < noOfSensors) (h : Readable s) :
    Readable (checkSensors env sensors s).1 ∧
      ∀ output ∈ (checkSensors env sensors s).2, MessageMeasured output := by
  induction sensors generalizing s with
  | nil => exact ⟨h, List.forall_mem_nil _⟩
  | cons i rest ih =>
      obtain ⟨hi, hrest⟩ := List.forall_mem_cons.1 hsensors
      obtain ⟨hsame, hbefore⟩ := sensor_keeps env i s
      have hnext := h.of_same hsame hbefore
      obtain ⟨hlast, hlater⟩ := ih hrest hnext
      simp only [checkSensors]
      split_ifs
      · exact ⟨hnext, sensor_measured env hi h⟩
      · exact ⟨hlast, List.forall_mem_append.2 ⟨sensor_measured env hi h, hlater⟩⟩

theorem round_measured {env : ThermalEnv} (h : Readable s)
    (hround : thermalMonitoringThread s env = .ok (next, outputs)) :
    Readable next ∧ ∀ output ∈ outputs, MessageMeasured output := by
  unfold thermalMonitoringThread at hround
  split_ifs at hround
  · cases hround
    exact ⟨h, List.forall_mem_nil _⟩
  have hread : Readable (readSensors env s) := by
    refine ⟨fun i => ?_, fun i => ?_⟩
    · unfold readSensors
      dsimp only
      split_ifs
      · exact printable_temperature _
      · exact h.sensors i
    · unfold readSensors
      dsimp only
      split_ifs
      · exact h.sensors i
      · exact h.before i
  obtain ⟨hchecked, hmeasured⟩ := sensors_measured env
    (fun i hi => List.mem_range.1 hi) hread
  simp only [Except.ok.injEq, Prod.mk.injEq] at hround
  obtain ⟨rfl, rfl⟩ := hround
  refine ⟨?_, hmeasured⟩
  split_ifs
  · exact hchecked
  · unfold countRound
    dsimp only
    split_ifs <;> exact hchecked.of_same rfl rfl

/-- No message of a run is cut off. -/
theorem messages_fit {finish : ThermalState} {rounds : List ThermalEnv} {sends : List ThermalOutput}
    {notice : Notice} (h : emit thermalMonitoringThread .start rounds = .ok (finish, sends))
    (hsent : .notice notice ∈ sends) : notice.text.length < maxMessageSize := by
  have hzero : Printable 0 := printable_temperature .nothing
  obtain ⟨-, hmeasured⟩ := emit_invariant Readable MessageMeasured
    ⟨fun _ => hzero, fun _ => hzero⟩ (fun _ _ _ _ _ hread hround => round_measured hread hround) h
  exact Notice.Measured.fits (hmeasured _ hsent)

end OpenQti.Thermal
