/-!
# Timers of the kernel

A `timerfd` holds one setting, the time to its next expiry and the interval after
which it expires again; a time of zero to the next expiry means that it is not armed.
`settime` is `timerfd_settime` with no flags, `settimeAbs` with `TFD_TIMER_ABSTIME`. The
model keeps the setting and lets the time to the next expiry pass in one go, so that a
timer which is armed stays as it is until it `expire`s or is set again.
-/

namespace QuicProxy

/-- `struct timespec` -/
structure Timespec where
  tvSec : Int
  tvNsec : Int
deriving DecidableEq

/-- `struct itimerspec` -/
structure Itimerspec where
  itInterval : Timespec
  itValue : Timespec
deriving DecidableEq

namespace Timespec

/-- No time. -/
def zero : Timespec := ⟨0, 0⟩

/-- What the kernel accepts as a time. -/
def IsValid (time : Timespec) : Prop :=
  0 ≤ time.tvSec ∧ 0 ≤ time.tvNsec ∧ time.tvNsec ≤ 999999999

instance (time : Timespec) : Decidable time.IsValid :=
  inferInstanceAs (Decidable (_ ∧ _ ∧ _))

/-- The duration it denotes. -/
def nanoseconds (time : Timespec) : Int := time.tvSec * 1000000000 + time.tvNsec

/-- A duration split into seconds and nanoseconds. -/
def ofNanoseconds (duration : Int) : Timespec := ⟨duration / 1000000000, duration % 1000000000⟩

/-- As many nanoseconds as were given. -/
@[simp] theorem nanoseconds_ofNanoseconds (duration : Int) :
    (ofNanoseconds duration).nanoseconds = duration := by
  simp only [nanoseconds, ofNanoseconds]
  omega

/-- No time has no nanoseconds. -/
theorem nanoseconds_zero : zero.nanoseconds = 0 := rfl

/-- A positive time is not zero. -/
theorem ne_zero_of_pos {time : Timespec} (positive : 0 < time.nanoseconds) : time ≠ zero := by
  rintro rfl
  rw [nanoseconds_zero] at positive
  omega

end Timespec

namespace Itimerspec

/-- The setting `memset` leaves. -/
def disarmed : Itimerspec := ⟨.zero, .zero⟩

/-- The kernel takes the setting. -/
def IsValid (setting : Itimerspec) : Prop :=
  setting.itInterval.IsValid ∧ setting.itValue.IsValid

instance (setting : Itimerspec) : Decidable setting.IsValid :=
  inferInstanceAs (Decidable (_ ∧ _))

/-- The timer will expire. -/
def Armed (setting : Itimerspec) : Prop :=
  setting.itValue ≠ .zero

instance (setting : Itimerspec) : Decidable setting.Armed :=
  inferInstanceAs (Decidable (_ ≠ _))

/-- The timer expires again and again once it is armed. -/
def Periodic (setting : Itimerspec) : Prop :=
  setting.Armed → setting.itInterval ≠ .zero

/-- `timerfd_settime`: a setting that is not valid is rejected and changes nothing. -/
def settime (setting new : Itimerspec) : Itimerspec :=
  if new.IsValid then new else setting

/-- `timerfd_settime` with `TFD_TIMER_ABSTIME`: the first expiry is a time of the clock,
which reads `now`. One that has passed makes the timer expire at once, for which one
nanosecond stands. -/
def settimeAbs (now : Timespec) (setting new : Itimerspec) : Itimerspec :=
  if new.IsValid then
    if new.Armed then
      { new with
        itValue := .ofNanoseconds (max 1 (new.itValue.nanoseconds - now.nanoseconds)) }
    else new
  else setting

/-- The time to the next expiry has passed. -/
def expire (setting : Itimerspec) : Itimerspec :=
  { setting with itValue := setting.itInterval }

/-- The kernel sets what it takes. -/
theorem settime_valid (setting : Itimerspec) {new : Itimerspec} (valid : new.IsValid) :
    setting.settime new = new :=
  if_pos valid

/-- What the kernel refuses changes nothing. -/
theorem settimeAbs_invalid (now : Timespec) (setting : Itimerspec) {new : Itimerspec}
    (invalid : ¬ new.IsValid) : setting.settimeAbs now new = setting :=
  if_neg invalid

/-- A valid setting arms the timer, wherever the clock stands, and gives its interval. -/
theorem settimeAbs_valid (now : Timespec) (setting : Itimerspec) {new : Itimerspec}
    (valid : new.IsValid) (armed : new.Armed) :
    (setting.settimeAbs now new).Armed ∧
      (setting.settimeAbs now new).itInterval = new.itInterval := by
  rw [settimeAbs, if_pos valid, if_pos armed]
  refine ⟨Timespec.ne_zero_of_pos ?_, rfl⟩
  rw [Timespec.nanoseconds_ofNanoseconds]
  omega

/-- The kernel takes a disarming. -/
theorem disarmed_valid : disarmed.IsValid := by decide

/-- A disarmed timer will not expire. -/
theorem not_armed_disarmed : ¬ disarmed.Armed := by decide

/-- A periodic timer stays armed when it expires. -/
theorem Periodic.armed_expire {setting : Itimerspec} (periodic : setting.Periodic)
    (armed : setting.Armed) : setting.expire.Armed :=
  periodic armed

/-- After an expiry the timer goes on with its interval. -/
theorem periodic_expire (setting : Itimerspec) : setting.expire.Periodic := by
  intro armed
  exact armed

end Itimerspec

end QuicProxy
