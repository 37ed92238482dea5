import TalkTimer.Proofs.Grammar

/-!
# What reading a marker line yields

A marker that was read from a line is one that the rest of the program may rely on: it lies at some
level, its time is a multiple of five seconds, and without time control it has no time.
-/

namespace TalkTimer

/-- A marker as lines can hold it. -/
structure Marker.IsWellFormed (m : Marker) : Prop where
  level_pos : 1 ≤ m.level
  five_dvd_time : 5 ∣ m.time
  time_of_untimed : m.untimed = true → m.time = 0

theorem Marker.isWellFormed_free {level : Nat} (h : 1 ≤ level) : (Marker.free level).IsWellFormed :=
  ⟨h, Nat.dvd_zero 5, fun _ => rfl⟩

theorem Marker.isWellFormed_timed {level time : Nat} (h : 1 ≤ level) (ht : 5 ∣ time) :
    (Marker.timed level time).IsWellFormed :=
  ⟨h, ht, fun hu => Bool.noConfusion hu⟩

/-- Every marker that is read from a line is well-formed. -/
theorem isWellFormed_of_readMarker? {l : Text} {m : Marker} (h : readMarker? l = some m) :
    m.IsWellFormed := by
  obtain ⟨level, hlevel, rfl | ⟨minutes, seconds, -, -, hfive, rfl⟩⟩ := exists_of_readMarker? h
  · exact Marker.isWellFormed_free hlevel
  · have htime : 5 ∣ minutes * 60 + seconds := by omega
    exact Marker.isWellFormed_timed hlevel htime

end TalkTimer
