import CatalogConsole.Proofs.ListingStream
import CatalogConsole.Proofs.PlainTimes
import CatalogConsole.Proofs.WholeSeconds

/-! # The representations of one time

One date and time can be read with microseconds or with nanoseconds.  The first reading rounds the
seconds down.  The second leaves it to the client library to make a timestamp of the instant, and
the library is documented to drop the fraction of the whole microseconds (`Timestamp.Truncates`).
Both give the same seconds from 1970 on, and before 1970 the second gives one more, unless there is
no whole microsecond to be dropped (`Timestamp.truncated_eq`).

What the library does is a parameter here.  The library that is in use does what is documented
within 2 ^ 34 seconds of the start of 1970 (`Timestamp.ofInstant_of_near`).

The index time of a product set comes as seconds rounded down and nanoseconds, and goes through the
library too.  So it is printed as it is from 1970 on, and before that with one second more
(`Session.Answered.prints_timestamp`).
-/
namespace CatalogConsole

/-- **The client library drops the fraction** of this instant. -/
def Timestamp.Truncates (stamp : Int → Int → Except TimeFault Timestamp) (seconds nanos : Int) :
    Prop :=
  stamp seconds nanos = .ok (truncated seconds nanos)

namespace IndexTime

/-- The timestamp of an index time, where the client library makes the timestamps of instants in
this way. -/
def readBy (stamp : Int → Int → Except TimeFault Timestamp) :
    IndexTime → Except ConversionError Timestamp
  | precise time nanos => (stamp time.epochSeconds nanos).mapError .time
  | instant seconds nanos =>
    match (Timestamp.fieldFault? seconds nanos).or (Timestamp.dateFault? seconds) with
    | some fault => .error (.time fault)
    | none => (stamp seconds nanos).mapError .time
  | time => time.read

/-- The library that is in use makes them in the way of `Timestamp.ofInstant`. -/
theorem readBy_ofInstant (time : IndexTime) : time.readBy Timestamp.ofInstant = time.read := by
  cases time <;> rfl

section Library

variable {stamp : Int → Int → Except TimeFault Timestamp} {seconds nanos : Int}

theorem readBy_precise {t : DateTime} (drops : Timestamp.Truncates stamp t.epochSeconds nanos) :
    (precise t nanos).readBy stamp = .ok (Timestamp.truncated t.epochSeconds nanos) := by
  rw [readBy, drops]
  rfl

/-- An instant that has a date is read in the way of a date and time with nanoseconds. -/
theorem readBy_instant (low : 0 ≤ nanos) (high : nanos < Timestamp.nanosPerSecond)
    (inside : DateTime.InCalendar seconds) (drops : Timestamp.Truncates stamp seconds nanos) :
    (instant seconds nanos).readBy stamp = .ok (Timestamp.truncated seconds nanos) := by
  simp only [readBy, Timestamp.fieldFault?_of_inCalendar inside low high,
    Timestamp.dateFault?_of_inCalendar inside, Option.or_none]
  rw [drops]
  rfl

end Library

end IndexTime

/-- Numbers that are valid make a date and time with nanoseconds, and the plain one with as many
whole microseconds is the same date and time. -/
theorem TimeNumbers.Valid.precise {n : TimeNumbers} {nanos : Int} (low : 0 ≤ nanos)
    (h : n.Valid (nanos / 1000)) : ∃ (t : DateTime) (u : Fin 1000000),
      IndexTime.ofNanoseconds n nanos = .precise t nanos ∧
      IndexTime.ofMicroseconds n (nanos / 1000) = .plain t u ∧
      t.Has n ∧ (u : Int) = nanos / 1000 := by
  obtain ⟨t, isTime, has⟩ := h.time
  obtain ⟨u, isFraction, fraction⟩ :=
    TimePart.microsecond.below_eq_ok 1000000 h.microsecond.1 h.microsecond.2
  refine ⟨t, u, ?_, ?_, has, fraction⟩
  · simp only [IndexTime.ofNanoseconds, Timestamp.microseconds_eq low, isTime]
  · simp only [IndexTime.ofMicroseconds, isTime, isFraction]

namespace DateTime

/-- **The seconds of the calendar** are those of the dates and times on a clock that shows UTC. -/
theorem inCalendar_iff (seconds : Int) :
    InCalendar seconds ↔ ∃ t : DateTime, t.offset = none ∧ t.epochSeconds = seconds := by
  constructor
  · intro inside
    rcases first : TimePart.carried 60 (by decide) seconds with ⟨minutes, second⟩
    rcases middle : TimePart.carried 60 (by decide) minutes with ⟨hours, minute⟩
    rcases last : TimePart.carried 24 (by decide) hours with ⟨days, hour⟩
    have split : seconds = 86400 * days + 3600 * hour + 60 * minute + second := by
      have seconds_eq := TimePart.carried_eq (by decide : 0 < 60) seconds
      have minutes_eq := TimePart.carried_eq (by decide : 0 < 60) minutes
      have hours_eq := TimePart.carried_eq (by decide : 0 < 24) hours
      rw [first] at seconds_eq
      rw [middle] at minutes_eq
      rw [last] at hours_eq
      simp only at seconds_eq minutes_eq hours_eq
      omega
    cases moved : Date.epoch.moved? days with
    | none =>
      have outside := Date.outside_of_moved_eq_none moved
      have one : Date.first.ordinal = 1 := rfl
      simp only [InCalendar, firstSecond, lastSecond, Date.daysSinceEpoch, one] at inside
      omega
    | some date =>
      have counted := Date.ordinal_of_moved moved
      refine ⟨⟨date, ⟨hour, minute, second⟩, none⟩, rfl, ?_⟩
      simp only [epochSeconds, Date.daysSinceEpoch, ClockTime.seconds, Option.getD_none]
      omega
  · rintro ⟨t, utc, rfl⟩
    have shown : t.epochSeconds = t.shownSeconds := by
      simp only [epochSeconds, shownSeconds, ClockTime.seconds, utc, Option.getD_none]
      omega
    rw [shown]
    exact t.inCalendar_shownSeconds

end DateTime

/-! ## What is printed -/

/-- Dates do not have too many digits. -/
theorem Timestamp.printable_truncated {seconds nanos : Int} (inside : DateTime.InCalendar seconds)
    (low : 0 ≤ nanos) (high : nanos < nanosPerSecond) : (truncated seconds nanos).Printable := by
  have first : DateTime.firstSecond = -62135596800 := by decide
  have last : DateTime.lastSecond = 253402300799 := by decide
  have twelve : Numeral.Printable 999999999999 := by decide
  rw [DateTime.InCalendar, first, last] at inside
  rw [nanosPerSecond] at high
  rw [truncated_eq low high]
  constructor
  · refine Numeral.printable_of_natAbs_le ?_ twelve
    change (if 0 ≤ seconds ∨ nanos < 1000 then seconds else seconds + 1).natAbs ≤ 999999999999
    split <;> omega
  · exact Numeral.printable_of_natAbs_le (by change nanos.natAbs ≤ 999999999999; omega) twelve

namespace Session

variable {session : Session} {s : SessionStep} {i : Invocation Operation} {settings : Settings}

/-- **The command for a single product set prints the timestamp** that its index time is read as. -/
theorem Answered.prints_timestamp (h : session.Answered s i settings) {id : String}
    (shows : i.action = .getProductSet id) {p : Timestamp}
    (read : s.remote.reply.productSet.indexTime.read = .ok p) (printable : p.Printable) :
    (session.step s).2.ending = .ok .success ∧
      (session.step s).2.trace.view (·.textFor .output) =
        ["Product set name: " ++ s.remote.reply.productSet.name ++
          "\nProduct set id: " ++ trailingId s.remote.reply.productSet.name ++
          "\nProduct set display name: " ++ s.remote.reply.productSet.displayName ++
          "\nProduct set index time:\n\tseconds: " ++ toString p.seconds ++
          "\n\tnanos: " ++ toString p.nanos ++ "\n"] := by
  have value : s.remote.reply.productSet.read =
      .ok ⟨s.remote.reply.productSet.name, s.remote.reply.productSet.displayName, p⟩ := by
    simp only [RemoteSet.read, read]
  obtain ⟨lines, block⟩ : ∃ lines, ProductSet.block
      ⟨s.remote.reply.productSet.name, s.remote.reply.productSet.displayName, p⟩ = .ok lines :=
    ⟨_, ProductSet.block_eq_ok_iff.mpr ⟨printable, rfl⟩⟩
  obtain ⟨ended, printed⟩ := h.step_getProductSet shows
  have stage : Stage.reading ProductSet.block s.remote.reply.productSet.read = .saying lines := by
    rw [value, Stage.reading, Except.bind, block]
    rfl
  have text := ProductSet.text_of_block block
  dsimp only at text
  rw [ended, printed, stage, ← text]
  exact ⟨rfl, rfl⟩

end Session

/-- **The representations of a time agree**, but for what is dropped from them.  A date and time
with nanoseconds always has a timestamp.  Where the client library drops the fraction of the
microseconds, as it does within 2 ^ 34 seconds of the start of 1970, the timestamp has the seconds
of the plain date and time with as many microseconds if the instant is not before 1970 or there is
no whole microsecond, and else one second more; its nanoseconds are those of the plain one and the
ones that make up no microsecond.  So the index time of a product set, for which there has to be a
date, is read and printed as it is if it is not before 1970 or there is no whole microsecond, and
else with one second more. -/
theorem time_representations_agree :
    (∀ time : IndexTime, time.readBy Timestamp.ofInstant = time.read) ∧
    (∀ seconds nanos : Int, 0 ≤ nanos → nanos < 1000000000 → seconds.natAbs < 2 ^ 34 →
      Timestamp.Truncates Timestamp.ofInstant seconds nanos) ∧
    (∀ (t : DateTime) (nanos : Int), 0 ≤ nanos → nanos < 1000000000 →
      ∃ seconds, (IndexTime.precise t nanos).read = .ok ⟨seconds, nanos⟩) ∧
    (∀ (n : TimeNumbers) (nanos : Int), 0 ≤ nanos → n.Valid (nanos / 1000) →
      ∃ (t : DateTime) (u : Fin 1000000),
        IndexTime.ofNanoseconds n nanos = .precise t nanos ∧
        IndexTime.ofMicroseconds n (nanos / 1000) = .plain t u ∧
        t.Has n ∧ (u : Int) = nanos / 1000) ∧
    (∀ (stamp : Int → Int → Except TimeFault Timestamp) (t : DateTime) (nanos : Int)
        (u : Fin 1000000), 0 ≤ nanos → nanos < 1000000000 → (u : Int) = nanos / 1000 →
      Timestamp.Truncates stamp t.epochSeconds nanos →
      ∃ p, (IndexTime.precise t nanos).readBy stamp = .ok p ∧
        ∀ q, (IndexTime.plain t u).readBy stamp = .ok q →
          let instant := 1000000000 * t.epochSeconds + nanos
          (p.seconds = q.seconds ↔ 0 ≤ instant ∨ nanos < 1000) ∧
          (p.seconds ≠ q.seconds → p.seconds = q.seconds + 1) ∧
          p.nanos - q.nanos = nanos % 1000) ∧
    (∀ seconds : Int, DateTime.InCalendar seconds ↔
      ∃ t : DateTime, t.offset = none ∧ t.epochSeconds = seconds) ∧
    (∀ (stamp : Int → Int → Except TimeFault Timestamp) (seconds nanos : Int),
      DateTime.InCalendar seconds → 0 ≤ nanos → nanos < 1000000000 →
      Timestamp.Truncates stamp seconds nanos →
      ∃ p, (IndexTime.instant seconds nanos).readBy stamp = .ok p ∧
        (p = ⟨seconds, nanos⟩ ↔ 0 ≤ seconds ∨ nanos < 1000) ∧
        (p ≠ ⟨seconds, nanos⟩ → p = ⟨seconds + 1, nanos⟩)) ∧
    ∀ (session : Session) (s : SessionStep) (i : Invocation Operation) (settings : Settings)
        (id : String) (seconds nanos : Int),
      session.Answered s i settings → i.action = .getProductSet id →
      s.remote.reply.productSet.indexTime = .instant seconds nanos →
      DateTime.InCalendar seconds → 0 ≤ nanos → nanos < 1000000000 →
      Timestamp.Truncates Timestamp.ofInstant seconds nanos →
      ∃ p : Timestamp,
        (session.step s).2.ending = .ok .success ∧
        (session.step s).2.trace.view (·.textFor .output) =
          ["Product set name: " ++ s.remote.reply.productSet.name ++
            "\nProduct set id: " ++ trailingId s.remote.reply.productSet.name ++
            "\nProduct set display name: " ++ s.remote.reply.productSet.displayName ++
            "\nProduct set index time:\n\tseconds: " ++ toString p.seconds ++
            "\n\tnanos: " ++ toString p.nanos ++ "\n"] ∧
        (p = ⟨seconds, nanos⟩ ↔ 0 ≤ seconds ∨ nanos < 1000) ∧
        (p ≠ ⟨seconds, nanos⟩ → p = ⟨seconds + 1, nanos⟩) := by
  refine ⟨IndexTime.readBy_ofInstant, ?_, ?_, fun _ _ low valid => valid.precise low, ?_,
    DateTime.inCalendar_iff, ?_, ?_⟩
  · intro seconds nanos low high near
    exact Timestamp.ofInstant_of_near low high near
  · intro t nanos low high
    refine ⟨Numeral.Binary64.wholeQuotient (1000000 * t.epochSeconds + nanos / 1000) 1000000, ?_⟩
    rw [IndexTime.read, Timestamp.ofInstant_eq_ok low high]
    rfl
  · intro stamp t nanos u low high fraction drops
    refine ⟨_, IndexTime.readBy_precise drops, ?_⟩
    intro q read instant
    rw [IndexTime.eq_of_read_plain read, Timestamp.truncated_eq low high]
    simp only [instant]
    refine ⟨?_, ?_, by omega⟩
    · split <;> omega
    · split <;> omega
  · intro stamp seconds nanos inside low high drops
    exact ⟨_, IndexTime.readBy_instant low high inside drops,
      Timestamp.truncated_eq_or low high seconds⟩
  · intro session s i settings id seconds nanos answered shows time inside low high drops
    have read : s.remote.reply.productSet.indexTime.read = .ok (Timestamp.truncated seconds nanos) := by
      rw [time, ← IndexTime.readBy_ofInstant]
      exact IndexTime.readBy_instant low high inside drops
    obtain ⟨ended, printed⟩ :=
      answered.prints_timestamp shows read (Timestamp.printable_truncated inside low high)
    exact ⟨_, ended, printed, Timestamp.truncated_eq_or low high seconds⟩

/-- A second and a half before 1970, the timestamp of a date and time with nanoseconds has one
second more than the plain one, and a product set of that time is printed with one second more.
With a library that drops the fraction everywhere, so is one of the first second of the calendar. -/
theorem early_times_gain_a_second :
    let t : DateTime := ⟨⟨1969, 12, 31, by decide, by decide, by decide⟩, ⟨22, 59, 58⟩, some (-60)⟩
    let place : Settings := ⟨"shop", "east"⟩
    let set : RemoteSet := { name := "sets/a", indexTime := .instant (-2) 500000000 }
    let get : SessionStep :=
      ⟨["get_product_set", "a"], some place, .ofList [], .given, { reply := { productSet := set } }⟩
    let exact : Int → Int → Except TimeFault Timestamp := fun seconds nanos =>
      .ok (Timestamp.truncated seconds nanos)
    t.Has ⟨1969, 12, 31, 22, 59, 58, some (-60)⟩ ∧
      (∃ p q, (IndexTime.precise t 500000000).read = .ok p ∧
        (IndexTime.plain t 500000).read = .ok q ∧ p.seconds = q.seconds + 1) ∧
      (Session.step {} get).2.trace.view (·.textFor .output) =
        ["Product set name: sets/a\nProduct set id: a\nProduct set display name: \n" ++
          "Product set index time:\n\tseconds: -1\n\tnanos: 500000000\n"] ∧
      (IndexTime.instant DateTime.firstSecond 1000).readBy exact =
        .ok ⟨DateTime.firstSecond + 1, 1000⟩ := by
  intro t place set get exact
  obtain ⟨inUse, near, -, valid, branches, -, instants, printed⟩ := time_representations_agree
  have gets : Builtin.getProductSet ∈ Builtin.commands := by simp [Builtin.commands]
  have answered : Session.Answered {} get ⟨Builtin.getProductSet, ["a"], rfl⟩ place :=
    ⟨Builtin.resolve_name gets ["a"] rfl, rfl, rfl, rfl⟩
  have drops : Timestamp.Truncates Timestamp.ofInstant (-2) 500000000 :=
    near (-2) 500000000 (by decide) (by decide) (by decide)
  have early : t.epochSeconds = -2 := by decide
  have plain : (IndexTime.plain t 500000).read = .ok ⟨-2, 500000000⟩ := by
    unfold t
    rfl
  refine ⟨⟨rfl, rfl, rfl, rfl, rfl, rfl, rfl⟩, ?_, ?_, ?_⟩
  · obtain ⟨p, read, compared⟩ := branches Timestamp.ofInstant t 500000000 500000 (by decide)
      (by decide) rfl (early ▸ drops)
    obtain ⟨same, more, -⟩ := compared _ ((inUse _).trans plain)
    rw [inUse] at read
    refine ⟨p, _, read, plain, more fun equal => ?_⟩
    exact absurd (same.mp equal) (by rw [early]; decide)
  · obtain ⟨p, -, shown, kept, more⟩ := printed {} get _ place "a" (-2) 500000000 answered rfl rfl
      (by decide) (by decide) (by decide) drops
    have changed : p ≠ ⟨-2, 500000000⟩ := fun equal => absurd (kept.mp equal) (by decide)
    rw [shown, more changed]
    decide +kernel
  · obtain ⟨p, read, kept, more⟩ := instants exact DateTime.firstSecond 1000 (by decide) (by decide)
      (by decide) rfl
    have changed : p ≠ ⟨DateTime.firstSecond, 1000⟩ := fun equal => absurd (kept.mp equal) (by decide)
    rw [read, more changed]

end CatalogConsole
