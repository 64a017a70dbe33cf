import EventFeed.Files.Fault
import EventFeed.Files.Path
import EventFeed.Flow.Queue
import EventFeed.Table.Name
import EventFeed.Throughput

/-!
# Settings of a run

What is read, where it goes, and how many events are held, waited for and sent at a time. Settings are
accepted when a queue that was just filled holds enough events for a batch. What a drain leaves behind is
not looked at.
-/

namespace EventFeed.Flow

structure Settings where
  input : Path
  table : String
  maxBatch : Nat
  marks : Watermarks
  /-- How many events make a batch before the end is reached. -/
  lowThreshold : Nat
  pollInterval : Duration
  deriving DecidableEq, Repr

inductive SettingsFault where
  | batchSize (given : Nat)
  | resumeNotBelowHigh (resume high : Nat)
  | thresholdAboveHigh (threshold high : Nat)
  | zeroPollInterval
  deriving DecidableEq, Repr

def SettingsFault.message : SettingsFault → String
  | .batchSize given =>
      "max_batch_size must be between 1 and " ++ toString maxBatchSize ++ ", got " ++ toString given
  | .resumeNotBelowHigh resume high =>
      "resume_watermark (" ++ toString resume ++ ") must be below high_watermark (" ++ toString high ++ ")"
  | .thresholdAboveHigh threshold high =>
      "low_batch_threshold (" ++ toString threshold ++ ") must not exceed high_watermark (" ++
        toString high ++ ")"
  | .zeroPollInterval => "poll_interval must be non-zero"

inductive Abort where
  /-- What is to be read cannot be listed. -/
  | enumeration (input : Path) (fault : SystemFault)
  | settings (reason : String)
  | refused (refusal : Refusal)
  /-- The reading side broke down. -/
  | readerFailed (reason : String)

def Abort.message : Abort → String
  | .enumeration input fault => "cannot enumerate source " ++ input.text ++ ": " ++ fault.message
  | .settings reason => "Configuration error: " ++ reason
  | .refused refusal => refusal.message
  | .readerFailed reason => "source task failed: " ++ reason

namespace Settings

def fault? (settings : Settings) : Option SettingsFault :=
  if settings.maxBatch = 0 ∨ maxBatchSize < settings.maxBatch then some (.batchSize settings.maxBatch)
  else if settings.marks.high ≤ settings.marks.resume then
    some (.resumeNotBelowHigh settings.marks.resume settings.marks.high)
  else if settings.marks.high < settings.lowThreshold then
    some (.thresholdAboveHigh settings.lowThreshold settings.marks.high)
  else if settings.pollInterval = Duration.zero then some .zeroPollInterval
  else none

/-- Why the settings are not accepted, if they are not. A wrong table is told before anything else. -/
def objection? (settings : Settings) : Option Abort :=
  match TableName.check settings.table with
  | .error refusal => some (.refused refusal)
  | .ok _ => settings.fault?.map fun fault => .settings fault.message

def Accepted (settings : Settings) : Prop :=
  settings.objection?.isNone = true

instance (settings : Settings) : Decidable settings.Accepted :=
  inferInstanceAs (Decidable (_ = true))

theorem fault?_eq_none_iff (settings : Settings) :
    settings.fault? = none ↔
      (0 < settings.maxBatch ∧ settings.maxBatch ≤ maxBatchSize) ∧
        settings.marks.resume < settings.marks.high ∧ settings.lowThreshold ≤ settings.marks.high ∧
        settings.pollInterval ≠ Duration.zero := by
  unfold fault?
  split
  · exact iff_of_false nofun fun ⟨bounds, _⟩ => by omega
  · split
    · exact iff_of_false nofun fun ⟨_, below, _⟩ => by omega
    · split
      · exact iff_of_false nofun fun ⟨_, _, low, _⟩ => by omega
      · split
        · rename_i zero
          exact iff_of_false nofun fun ⟨_, _, _, positive⟩ => positive zero
        · rename_i positive
          exact iff_of_true rfl ⟨by omega, by omega, by omega, positive⟩

/-- What accepted settings are known for. -/
theorem accepted_iff (settings : Settings) :
    settings.Accepted ↔
      (∃ name, TableName.check settings.table = .ok name) ∧
        (0 < settings.maxBatch ∧ settings.maxBatch ≤ maxBatchSize) ∧
        settings.marks.resume < settings.marks.high ∧ settings.lowThreshold ≤ settings.marks.high ∧
        settings.pollInterval ≠ Duration.zero := by
  unfold Accepted objection?
  rw [← fault?_eq_none_iff]
  cases TableName.check settings.table with
  | error refusal => simp
  | ok name => simp

end Settings

end EventFeed.Flow
