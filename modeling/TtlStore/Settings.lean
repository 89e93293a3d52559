import TtlStore.Time.Text

/-!
# Settings of the store and of its sweeper

A store has a number of shards and the bucket width of its expiry index, both
positive.  A sweeper has a first, a shortest and a longest interval, which must
be positive and in order, and two thresholds for the share of items that a
sweep evicted.  Thresholds are 64-bit floating-point numbers given by their
bits, so that every one of them, however unusual, stays what it was; they are
not checked.
-/

namespace TtlStore

/-- The causes for which settings are refused. -/
inductive SettingsError where
  | zeroShards
  | zeroBucketWidth
  | disorderedIntervals (shortest first longest : Duration)
deriving DecidableEq

/-- The wording of a refusal of settings. -/
def SettingsError.message : SettingsError → String
  | .zeroShards => "shard count must be at least 1"
  | .zeroBucketWidth => "bucket interval must be greater than zero"
  | .disorderedIntervals shortest first longest =>
      "invalid sweeper intervals: min " ++ shortest.text ++
        ", base " ++ first.text ++ ", max " ++ longest.text

/-- The number of shards of a store, and the bucket width of its index. -/
structure StoreSettings where
  shards : Nat
  bucketWidth : Duration
deriving DecidableEq

namespace StoreSettings

/-- The settings of a store for which nothing else was asked. -/
def standard : StoreSettings where
  shards := 256
  bucketWidth := Duration.ofSeconds 5

/-- Accept positive settings; a missing shard is reported before a missing width. -/
def validate (settings : StoreSettings) : Except SettingsError Unit :=
  if settings.shards = 0 then
    .error .zeroShards
  else if settings.bucketWidth.nanoseconds = 0 then
    .error .zeroBucketWidth
  else
    .ok ()

theorem validate_eq_ok_iff (settings : StoreSettings) :
    settings.validate = .ok () ↔
      0 < settings.shards ∧ 0 < settings.bucketWidth.nanoseconds := by
  unfold validate
  by_cases noShards : settings.shards = 0
  · simp [noShards]
  · by_cases noWidth : settings.bucketWidth.nanoseconds = 0
    · simp [noShards, noWidth]
    · simp only [noShards, noWidth, if_false, true_iff]
      omega

end StoreSettings

/-- A floating-point number given by its bits. -/
structure Threshold where
  bits : UInt64
deriving DecidableEq

/-- The number that a threshold denotes. -/
def Threshold.toFloat (threshold : Threshold) : Float :=
  Float.ofBits threshold.bits

/-- The intervals and the thresholds of a sweeper. -/
structure PacingSettings where
  first : Duration
  shortest : Duration
  longest : Duration
  speedup : Threshold
  slowdown : Threshold
deriving DecidableEq

namespace PacingSettings

/-- The settings of a sweeper for which nothing else was asked: thresholds 1/4 and 1/100. -/
def standard : PacingSettings where
  first := Duration.ofSeconds 1
  shortest := Duration.ofMilliseconds 100
  longest := StoreSettings.standard.bucketWidth
  speedup := ⟨4598175219545276416⟩
  slowdown := ⟨4576918229304087675⟩

/-- Accept a positive shortest interval with the other two in order. -/
def validate (settings : PacingSettings) : Except SettingsError Unit :=
  if 0 < settings.shortest.nanoseconds ∧
      settings.shortest ≤ settings.first ∧
      settings.first ≤ settings.longest then
    .ok ()
  else
    .error
      (.disorderedIntervals
        settings.shortest settings.first settings.longest)

theorem validate_eq_ok_iff (settings : PacingSettings) :
    settings.validate = .ok () ↔
      0 < settings.shortest.nanoseconds ∧
        settings.shortest ≤ settings.first ∧
        settings.first ≤ settings.longest := by
  unfold validate
  split <;> simp_all

end PacingSettings

end TtlStore
