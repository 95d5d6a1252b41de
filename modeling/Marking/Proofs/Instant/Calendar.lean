import Marking.Instant

-- Dates and clock times that there are, and that a local time which there is has a UTC form which
-- there is: an offset of less than a day moves the date by one day at most.

namespace Marking.Instant

structure OnCalendar (instant : Instant) : Prop where
  month : 1 ≤ instant.month ∧ instant.month ≤ 12
  day : 1 ≤ instant.day ∧ instant.day ≤ daysInMonth instant.year instant.month

structure OnClock (instant : Instant) : Prop where
  hour : instant.hour ≤ 23
  minute : instant.minute ≤ 59

-- What reading gives, and what is read back when it is written.
structure Proper (instant : Instant) : Prop where
  year : isKnownYear instant.year = true
  date : instant.OnCalendar
  clock : instant.OnClock
  second : instant.second ≤ 60
  nanosecond : instant.nanosecond < 1000000000

variable {instant time : Instant} {offset : Int}

theorem parts_of_valid (valid : instant.isValid = true) :
    instant.OnCalendar ∧ instant.OnClock ∧ instant.second ≤ 60 := by
  simp only [isValid,Bool.and_eq_true,decide_eq_true_eq] at valid
  obtain ⟨⟨⟨⟨⟨⟨⟨_,first⟩,last⟩,begins⟩,ends⟩,hour⟩,minute⟩,second⟩ := valid
  exact ⟨⟨⟨first,last⟩,begins,ends⟩,⟨hour,minute⟩,second⟩

theorem Proper.valid (proper : instant.Proper) : instant.isValid = true := by
  obtain ⟨known,⟨month,day⟩,⟨hour,minute⟩,second,_⟩ := proper
  simp [isValid,known,month,day,hour,minute,second]

theorem daysInMonth_bounds (year : Int) (month : Nat) : 28 ≤ daysInMonth year month ∧ daysInMonth year month ≤ 31 := by
  unfold daysInMonth
  split
  · split <;> decide
  · decide
  · decide
  · decide
  · decide
  · decide

theorem dayBefore_onCalendar (date : instant.OnCalendar) : instant.dayBefore.OnCalendar := by
  obtain ⟨month,day⟩ := date
  unfold dayBefore
  split
  · exact ⟨month,by dsimp only; omega⟩
  · split
    · have ⟨long,_⟩ := daysInMonth_bounds instant.year (instant.month - 1)
      exact ⟨by dsimp only; omega,by dsimp only; omega⟩
    · exact ⟨by simp,by simp [daysInMonth]⟩

theorem dayAfter_onCalendar (date : instant.OnCalendar) : instant.dayAfter.OnCalendar := by
  obtain ⟨month,day⟩ := date
  unfold dayAfter
  split
  · exact ⟨month,by dsimp only; omega⟩
  · split
    · have ⟨long,_⟩ := daysInMonth_bounds instant.year (instant.month + 1)
      exact ⟨by dsimp only; omega,by dsimp only; omega⟩
    · exact ⟨by simp,by simp [daysInMonth]⟩

theorem dayBefore_second (instant : Instant) :
    instant.dayBefore.second = instant.second ∧ instant.dayBefore.nanosecond = instant.nanosecond := by
  unfold dayBefore
  split
  · exact ⟨rfl,rfl⟩
  · split <;> exact ⟨rfl,rfl⟩

theorem dayAfter_second (instant : Instant) :
    instant.dayAfter.second = instant.second ∧ instant.dayAfter.nanosecond = instant.nanosecond := by
  unfold dayAfter
  split
  · exact ⟨rfl,rfl⟩
  · split <;> exact ⟨rfl,rfl⟩

theorem ofLocal_cases (date : time.OnCalendar) (clock : time.OnClock) (small : -1440 < offset ∧ offset < 1440) :
    ∃ day : Instant, day.OnCalendar ∧ (day.second = time.second ∧ day.nanosecond = time.nanosecond) ∧
      ∃ hour minute, hour ≤ 23 ∧ minute ≤ 59 ∧ ofLocal offset time = {day with hour := hour,minute := minute} := by
  obtain ⟨hour,minute⟩ := clock
  unfold ofLocal
  dsimp only
  split
  · exact ⟨_,dayBefore_onCalendar date,dayBefore_second time,_,_,by omega,by omega,rfl⟩
  · split
    · exact ⟨_,dayAfter_onCalendar date,dayAfter_second time,_,_,by omega,by omega,rfl⟩
    · exact ⟨_,date,⟨rfl,rfl⟩,_,_,by omega,by omega,rfl⟩

theorem ofLocal_proper (valid : time.isValid = true) (nanosecond : time.nanosecond < 1000000000)
    (small : -1440 < offset ∧ offset < 1440) (known : isKnownYear (ofLocal offset time).year = true) :
    (ofLocal offset time).Proper := by
  obtain ⟨date,clock,second⟩ := parts_of_valid valid
  obtain ⟨day,onCalendar,⟨seconds,nanoseconds⟩,hour,minute,late,long,same⟩ := ofLocal_cases date clock small
  rw [same] at known ⊢
  refine ⟨known,⟨onCalendar.month,onCalendar.day⟩,⟨late,long⟩,?_,?_⟩
  · simpa [seconds] using second
  · simpa [nanoseconds] using nanosecond

theorem ofLocal_utc (clock : instant.OnClock) : ofLocal 0 instant = instant := by
  obtain ⟨hour,minute⟩ := clock
  unfold ofLocal
  dsimp only
  rw [if_neg (by omega),if_neg (by omega)]
  have hours : ((60 * instant.hour + instant.minute - 0 : Int) / 60).toNat = instant.hour := by omega
  have minutes : ((60 * instant.hour + instant.minute - 0 : Int) % 60).toNat = instant.minute := by omega
  rw [hours,minutes]

end Marking.Instant
