import CircuitBreaker.Meter.FrontEnd
import CircuitBreaker.Proofs.RmsWindows

/-!
# Readings of the front end

The three windows of a front end stand at the same sample set after any number of sets, so every
512th set completes all of them and gives readings of exactly the last 512 sets. The current comes
from the coarse channel if the last set of the window finds the fine one saturated; what the fine
channel did earlier in the window is not looked at.
-/

set_option autoImplicit false

namespace CircuitBreaker

def Calibration.measure (calibration : Calibration) (channel : SampleSet → UInt16)
    (sets : List SampleSet) : UInt32 :=
  calibration.rmsToMilli (rootMeanSquare 512 calibration.offset (sets.map channel))

def Readings.ofWindow (fine coarse voltage : Calibration) (sets : List SampleSet)
    (last : SampleSet) : Readings where
  current :=
    if isSaturated last.fine then coarse.measure SampleSet.coarse sets
    else fine.measure SampleSet.fine sets
  voltage := voltage.measure SampleSet.voltage sets
  temperatures :=
    { input := Thermistor.celsius last.input, output := Thermistor.celsius last.output }

namespace FrontEnd

def run (frontEnd : FrontEnd) (sets : List SampleSet) : FrontEnd :=
  sets.foldl (fun frontEnd sample => (frontEnd.push sample).2) frontEnd

/-- The windows have the sets under way that came after the last whole window. -/
structure Follows (fine coarse voltage : Calibration) (sets : List SampleSet)
    (frontEnd : FrontEnd) : Prop where
  fine_eq : frontEnd.fine =
    .holding fine.offset windowShift (underWay 512 (sets.map SampleSet.fine))
  coarse_eq : frontEnd.coarse =
    .holding coarse.offset windowShift (underWay 512 (sets.map SampleSet.coarse))
  voltage_eq : frontEnd.voltage =
    .holding voltage.offset windowShift (underWay 512 (sets.map SampleSet.voltage))
  channels_fine : frontEnd.channels.fine = fine
  channels_coarse : frontEnd.channels.coarse = coarse
  voltageCalibration_eq : frontEnd.voltageCalibration = voltage

variable {fine coarse voltage : Calibration} {sets : List SampleSet} {frontEnd : FrontEnd}

/-- The windows complete at the same set, whichever channel they take from it. -/
private theorem push_channel (offset : UInt16) (channel : SampleSet → UInt16)
    (sets : List SampleSet) (sample : SampleSet) :
    (RmsWindow.holding offset windowShift (underWay 512 (sets.map channel))).push (channel sample) =
      (if 512 ∣ sets.length + 1 then
          some (rootMeanSquare 512 offset (((sets ++ [sample]).rtake 512).map channel))
        else none,
        RmsWindow.holding offset windowShift (underWay 512 ((sets ++ [sample]).map channel))) := by
  have pushed := RmsWindow.push_underWay offset windowShift (sets.map channel) (channel sample)
  rw [List.length_map] at pushed
  rw [List.map_append, List.map_singleton]
  have taken : ((sets ++ [sample]).rtake 512).map channel =
      (sets.map channel ++ [channel sample]).rtake 512 := by
    simp [List.rtake, List.map_drop]
  rw [taken]
  exact pushed

theorem Follows.push (follows : Follows fine coarse voltage sets frontEnd) (sample : SampleSet) :
    (frontEnd.push sample).1 =
        (if 512 ∣ sets.length + 1 then
          some (Readings.ofWindow fine coarse voltage ((sets ++ [sample]).rtake 512) sample)
        else none) ∧
      Follows fine coarse voltage (sets ++ [sample]) (frontEnd.push sample).2 := by
  unfold FrontEnd.push
  rw [follows.fine_eq, follows.coarse_eq, follows.voltage_eq,
    push_channel fine.offset SampleSet.fine sets sample,
    push_channel coarse.offset SampleSet.coarse sets sample,
    push_channel voltage.offset SampleSet.voltage sets sample]
  by_cases completes : 512 ∣ sets.length + 1
  · simp only [completes, if_true]
    refine ⟨?_, rfl, rfl, rfl, follows.channels_fine, follows.channels_coarse,
      follows.voltageCalibration_eq⟩
    simp only [Readings.ofWindow, Calibration.measure, CurrentChannels.current,
      CurrentChannels.update, CurrentChannels.observeFine, follows.channels_fine,
      follows.channels_coarse, follows.voltageCalibration_eq]
  · simp only [completes, if_false]
    exact ⟨trivial, rfl, rfl, rfl, follows.channels_fine, follows.channels_coarse,
      follows.voltageCalibration_eq⟩

theorem follows_run (fine coarse voltage : Calibration) (sets : List SampleSet) :
    Follows fine coarse voltage sets ((ofCalibrations fine coarse voltage).run sets) := by
  induction sets using List.reverseRecOn with
  | nil => exact ⟨rfl, rfl, rfl, rfl, rfl, rfl⟩
  | append_singleton sets sample ih =>
      rw [run, List.foldl_append]
      exact (ih.push sample).2

theorem push_run (fine coarse voltage : Calibration) (sets : List SampleSet) (sample : SampleSet) :
    (((ofCalibrations fine coarse voltage).run sets).push sample).1 =
      if 512 ∣ sets.length + 1 then
        some (Readings.ofWindow fine coarse voltage ((sets ++ [sample]).rtake 512) sample)
      else none :=
  ((follows_run fine coarse voltage sets).push sample).1

private theorem isSome_push_channel (offset : UInt16) (channel : SampleSet → UInt16)
    (sets : List SampleSet) (sample : SampleSet) :
    ((RmsWindow.holding offset windowShift (underWay 512 (sets.map channel))).push
      (channel sample)).1.isSome = decide (512 ∣ sets.length + 1) := by
  rw [push_channel]
  split <;> simp [*]

/-- An RMS window gives the root mean square of exactly its samples, at every `2 ^ shift`-th sample
since the last reset and at no other, and neither the sum nor the root leaves its word. The three
windows of a front end complete together, at every 512th set, and the readings are of all three. -/
theorem windows_exact :
    (∀ (offset : UInt16) (shift : Nat) (inputs : List RmsInput) (code : UInt16),
      let window := (RmsWindow.ofShift offset shift).run inputs
      let size := 2 ^ min shift 16
      let codes := RmsInput.sinceReset inputs ++ [code]
      (window.push code).1 =
          (if size ∣ codes.length then some (rootMeanSquare size offset (codes.rtake size))
          else none) ∧
        window.sum + window.square code < 2 ^ 64 ∧
        rootMeanSquare size offset (codes.rtake size) < 2 ^ 16) ∧
    ∀ (fine coarse voltage : Calibration) (sets : List SampleSet) (sample : SampleSet),
      let frontEnd := (ofCalibrations fine coarse voltage).run sets
      let completes := decide (512 ∣ sets.length + 1)
      (frontEnd.fine.push sample.fine).1.isSome = completes ∧
        (frontEnd.coarse.push sample.coarse).1.isSome = completes ∧
        (frontEnd.voltage.push sample.voltage).1.isSome = completes ∧
        (frontEnd.push sample).1 =
          if completes then
            some (Readings.ofWindow fine coarse voltage ((sets ++ [sample]).rtake 512) sample)
          else none := by
  constructor
  · intro offset shift inputs code window size codes
    refine ⟨?_, ?_, ?_⟩
    · have pushed := RmsWindow.push_run offset shift inputs code
      rw [show (RmsInput.sinceReset inputs).length + 1 = codes.length by simp [codes]] at pushed
      exact pushed
    · exact Nat.lt_trans (RmsWindow.sum_run_lt offset shift inputs code) (by decide)
    · exact rootMeanSquare_lt offset (length_rtake_le size codes)
  · intro fine coarse voltage sets sample frontEnd completes
    have follows := follows_run fine coarse voltage sets
    refine ⟨?_, ?_, ?_, ?_⟩
    · rw [follows.fine_eq]
      exact isSome_push_channel fine.offset SampleSet.fine sets sample
    · rw [follows.coarse_eq]
      exact isSome_push_channel coarse.offset SampleSet.coarse sets sample
    · rw [follows.voltage_eq]
      exact isSome_push_channel voltage.offset SampleSet.voltage sets sample
    · rw [push_run]
      simp [completes]

/-- The current of a window is that of the coarse channel exactly if the last set finds the fine
channel saturated, and that of the fine channel otherwise. -/
theorem current_of_last (fine coarse voltage : Calibration) {earlier window : List SampleSet}
    {last : SampleSet} (whole : 512 ∣ earlier.length) (length : (window ++ [last]).length = 512) :
    ∃ readings,
      (((ofCalibrations fine coarse voltage).run (earlier ++ window)).push last).1 = some readings ∧
        readings.current =
          if isSaturated last.fine then coarse.measure SampleSet.coarse (window ++ [last])
          else fine.measure SampleSet.fine (window ++ [last]) := by
  have completes : 512 ∣ (earlier ++ window).length + 1 := by
    rw [List.length_append] at length ⊢
    rw [List.length_singleton] at length
    omega
  have taken : (earlier ++ window ++ [last]).rtake 512 = window ++ [last] := by
    rw [List.append_assoc, List.rtake, List.length_append, length, Nat.add_sub_cancel]
    exact List.drop_left
  refine ⟨_, (push_run fine coarse voltage (earlier ++ window) last).trans (if_pos completes), ?_⟩
  rw [taken]
  rfl

/-- A load of 30 A, far beyond what the fine channel can show. -/
def overload : SampleSet := ⟨65535, 58988, 32768, 46212, 46212⟩

/-- The same line where its current crosses zero. -/
def betweenWaves : SampleSet := ⟨32768, 32768, 32768, 46212, 46212⟩

theorem current_of_last_overload :
    ∃ readings,
      ((standard.run (List.replicate 511 betweenWaves)).push overload).1 = some readings ∧
        readings.current = 1324 := by
  have whole : 512 ∣ ([] : List SampleSet).length := by decide
  have length : (List.replicate 511 betweenWaves ++ [overload]).length = 512 := by decide +kernel
  obtain ⟨readings, given, current⟩ :=
    current_of_last .fineCurrent .coarseCurrent .voltage whole length
  refine ⟨readings, given, current.trans ?_⟩
  decide +kernel

/-- The fine channel is at its rail for all but the last set of a window. It reports 3.7 A, from
its truncated samples, where the coarse channel measures 30 A. -/
theorem clipped_fine_reported :
    (∃ set ∈ List.replicate 511 overload, isSaturated set.fine = true) ∧
      ∃ readings,
        ((standard.run (List.replicate 511 overload)).push betweenWaves).1 = some readings ∧
          readings.current = 3746 ∧
          Calibration.coarseCurrent.measure SampleSet.coarse
            (List.replicate 511 overload ++ [betweenWaves]) = 29970 := by
  refine ⟨⟨overload, List.mem_replicate.mpr ⟨by decide, rfl⟩, by decide⟩, ?_⟩
  refine ⟨_, (push_run .fineCurrent .coarseCurrent .voltage _ betweenWaves).trans
    (if_pos (by decide +kernel)), ?_, ?_⟩
  · decide +kernel
  · decide +kernel

end FrontEnd

end CircuitBreaker
