import Gatehouse.Proofs.Octets
import Gatehouse.Proofs.Time.Calendar
import Gatehouse.Time.Rfc3339

/-!
# Reading timestamps that were written

An instant of the years 0 to 9999 is written as twenty characters and read back to the whole second
that they state (`parse?_render`): a leap second at the end of a minute stays one, and one behind
any other second is the second after it (`Instant.stated`).
-/

namespace Gatehouse

namespace EpochSecond

/-- The earliest second as a number. -/
lemma earliest_eq : earliest = -8334601228800 := by decide

/-- The second behind the last one as a number. -/
lemma latest_eq : latest = 8210266876800 := by decide

/-- A second of the calendar lies between these numbers. -/
lemma bounds (s : EpochSecond) : -8334601228800 ≤ s.toInt ∧ s.toInt < 8210266876800 := by
  have lower := s.earliest_le
  have upper := s.lt_latest
  rw [earliest_eq] at lower
  rw [latest_eq] at upper
  exact ⟨lower, upper⟩

/-- The nearest second to one of the calendar is itself. -/
lemma toInt_nearest {n : Int} (lower : earliest ≤ n) (upper : n < latest) :
    (nearest n).toInt = n := by
  simp only [nearest]
  omega

/-- The second after this one; the last second of the calendar has none and stays. -/
def next (s : EpochSecond) : EpochSecond := nearest (s.toInt + 1)

/-- Within a minute there is a next second, for the calendar ends with a minute. -/
lemma toInt_next {s : EpochSecond} (inside : s.toInt % 60 ≠ 59) : s.next.toInt = s.toInt + 1 := by
  have lower := s.earliest_le
  have upper := s.lt_latest
  refine toInt_nearest (by omega) ?_
  rw [latest_eq] at upper ⊢
  omega

end EpochSecond

namespace Instant

/-- The year in which an instant lies. -/
def year (t : Instant) : Int := (Calendar.Date.ofDay t.day).year

/-- The leap second that follows a second. -/
def leapAfter (s : EpochSecond) : Instant := ⟨s, ⟨nanosPerSecond, by decide⟩⟩

/-- The instant cut down to its whole second; a leap second stays a leap second. -/
def floor (t : Instant) : Instant := if t.inLeapSecond then leapAfter t.seconds else ⟨t.seconds, 0⟩

/--
The whole second that a timestamp states: a leap second stays one at the end of a minute, and is the
second after it elsewhere.
-/
def stated (t : Instant) : Instant :=
  if t.inLeapSecond ∧ t.seconds.toInt % 60 ≠ 59 then ⟨t.seconds.next, 0⟩ else t.floor

/-- What is stated outside of a leap second, in one at the end of a minute, and in any other one. -/
lemma stated_cases (t : Instant) :
    t.inLeapSecond = false ∧ t.stated = ⟨t.seconds, 0⟩ ∨
    t.inLeapSecond = true ∧ t.seconds.toInt % 60 = 59 ∧ t.stated = leapAfter t.seconds ∨
    t.inLeapSecond = true ∧ t.seconds.toInt % 60 ≠ 59 ∧ t.stated = ⟨t.seconds.next, 0⟩ := by
  unfold stated floor
  cases t.inLeapSecond with
  | false => exact .inl ⟨rfl, rfl⟩
  | true =>
    by_cases last : t.seconds.toInt % 60 = 59
    · exact .inr (.inl ⟨rfl, last, if_neg fun inside => inside.2 last⟩)
    · exact .inr (.inr ⟨rfl, last, if_pos ⟨rfl, last⟩⟩)

/-- An instant is read from its parts if it is in no leap second inside a minute. -/
lemma of?_eq_some {t : Instant} (h : t.inLeapSecond = true → t.seconds.toInt % 60 = 59) :
    of? t.seconds.toInt t.nanos = some t := by
  refine dif_pos ⟨⟨t.seconds.earliest_le, t.seconds.lt_latest⟩, t.nanos.isLt, ?_⟩
  by_cases below : (t.nanos : Nat) < nanosPerSecond
  · exact .inl below
  · exact .inr (h (decide_eq_true (Nat.not_lt.mp below)))

end Instant

namespace Rfc3339

open Text (isDigit digitsValue)

/-- The number of a decimal digit. -/
lemma toNat_digit (n : Nat) : (digit n).toNat = 48 + n % 10 :=
  Bytes.toNat_ofNat_of_lt (by omega)

/-- A decimal digit is one. -/
lemma isDigit_digit (n : Nat) : isDigit (digit n) = true := by
  have all : ∀ m : Fin 10, isDigit (Char.ofNat (48 + m)) = true := by decide
  exact all ⟨n % 10, by omega⟩

/-- Exactly as many digits as are asked for are read. -/
lemma number?_append {ds : List Char} (hd : ds.all isDigit = true) (rest : List Char) :
    number? ds.length (ds ++ rest) = some (digitsValue ds, rest) := by
  simp only [number?, List.take_left, List.drop_left, hd, and_self, if_true]

/-- Two digits are read back. -/
lemma number?_two {n : Nat} (h : n < 100) (rest : List Char) :
    number? 2 (two n ++ rest) = some (n, rest) := by
  have hv : digitsValue (two n) = n := by
    simp only [two, digitsValue, List.foldl_cons, List.foldl_nil, toNat_digit]
    omega
  have hd : (two n).all isDigit = true := by simp [two, isDigit_digit]
  have read := number?_append hd rest
  rwa [hv] at read

/-- Four digits are read back. -/
lemma number?_four {n : Nat} (h : n < 10000) (rest : List Char) :
    number? 4 (four n ++ rest) = some (n, rest) := by
  have e : four n = [digit (n / 1000), digit (n / 100), digit (n / 10), digit n] := if_pos h
  have hv : digitsValue (four n) = n := by
    simp only [e, digitsValue, List.foldl_cons, List.foldl_nil, toNat_digit]
    omega
  have hd : (four n).all isDigit = true := by simp [e, isDigit_digit]
  have read := number?_append hd rest
  rwa [hv, show (four n).length = 4 by rw [e]; rfl] at read

/-- The second of the minute that is written: the sixtieth in a leap second. -/
def writtenSecond (t : Instant) : Nat := t.secondOfDay.toNat % 60 + if t.inLeapSecond then 1 else 0

/-- The written second, the sixtieth one read as a leap second, gives what the instant states. -/
lemma writtenSecond_spec (t : Instant) :
    writtenSecond t ≤ 60 ∧
    t.seconds.toInt - t.seconds.toInt % 60 + min (writtenSecond t) 59 = t.stated.seconds.toInt ∧
    (if writtenSecond t = 60 then nanosPerSecond else 0) = (t.stated.nanos : Nat) ∧
    (t.stated.inLeapSecond = true → t.stated.seconds.toInt % 60 = 59) := by
  have minute : (t.secondOfDay.toNat % 60 : Int) = t.seconds.toInt % 60 := by
    simp only [Instant.secondOfDay, secondsPerDay]
    omega
  rcases t.stated_cases with ⟨leap, stated⟩ | ⟨leap, last, stated⟩ | ⟨leap, inside, stated⟩
  · have written : writtenSecond t = t.secondOfDay.toNat % 60 := by
      rw [writtenSecond, leap]
      rfl
    rw [stated, written, if_neg (by omega)]
    exact ⟨by omega, by simp only; omega, rfl, nofun⟩
  · have written : writtenSecond t = 60 := by
      rw [writtenSecond, leap, if_pos rfl]
      omega
    rw [stated, written]
    exact ⟨Nat.le_refl 60, by simp only [Instant.leapAfter]; omega, rfl, fun _ => last⟩
  · have written : writtenSecond t = t.secondOfDay.toNat % 60 + 1 := by
      rw [writtenSecond, leap]
      rfl
    rw [stated, written, EpochSecond.toInt_next inside, if_neg (by omega)]
    exact ⟨by omega, by omega, rfl, nofun⟩

/-- The parts of a written timestamp are read back. -/
lemma parseChars?_parts {year month day hour minute second : Nat} (hy : year < 10000)
    (hmo : month < 100) (hd : day < 100) (hh : hour < 100) (hmi : minute < 100)
    (hs : second < 100) :
    parseChars? (four year ++ '-' :: two month ++ '-' :: two day ++ 'T' :: two hour
        ++ ':' :: two minute ++ ':' :: two second ++ ['Z']) =
      let date : Calendar.Date := ⟨year, month, day⟩
      if date.isValid ∧ hour < 24 ∧ minute < 60 ∧ second ≤ 60 then
        Instant.of? ((date.toDay - Calendar.epochDay) * secondsPerDay
          + (hour * 3600 + minute * 60 + min second 59 : Int))
          (if second = 60 then nanosPerSecond else 0)
      else none := by
  have whole : fraction? ['Z'] = some (0, ['Z']) := rfl
  have utc : offset? ['Z'] = some 0 := rfl
  simp only [List.append_assoc, List.cons_append, parseChars?, Option.bind_eq_bind, number?_four hy,
    number?_two hmo, number?_two hd, number?_two hh, number?_two hmi, number?_two hs,
    Option.bind_some, expect?, timeMark?, whole, utc, if_true, true_or, Int.sub_zero, Nat.zero_add]

/-- A written instant of the years 0 to 9999 is read back to the whole second that it states. -/
lemma parse?_render {t : Instant} (hy : 0 ≤ t.year ∧ t.year ≤ 9999) :
    parse? (render t) = some t.stated := by
  obtain ⟨hm1, hm2, hd1, -⟩ := Calendar.Date.ofDay_month_day t.day
  have hd2 := Calendar.Date.day_le t.day
  have hday := Calendar.Date.toDay_ofDay t.day
  obtain ⟨hs1, hs2, hs3, hs4⟩ := writtenSecond_spec t
  have hsod : t.secondOfDay.toNat < 86400 := by
    simp only [Instant.secondOfDay, secondsPerDay]
    omega
  have hsec : (t.day - Calendar.epochDay) * secondsPerDay
      + (((t.secondOfDay.toNat / 3600 : Nat) : Int) * 3600
        + ((t.secondOfDay.toNat / 60 % 60 : Nat) : Int) * 60
        + ((min (writtenSecond t) 59 : Nat) : Int)) = t.stated.seconds.toInt := by
    rw [← hs2]
    simp only [Instant.secondOfDay, Instant.day, secondsPerDay]
    omega
  have hyear : renderYear (Calendar.Date.ofDay t.day).year = four t.year.toNat := if_pos hy
  have hdate : (⟨(t.year.toNat : Nat), (Calendar.Date.ofDay t.day).month,
      (Calendar.Date.ofDay t.day).day⟩ : Calendar.Date) = Calendar.Date.ofDay t.day := by
    rw [Int.toNat_of_nonneg hy.1]; rfl
  have written : renderChars t =
      four t.year.toNat ++ '-' :: two (Calendar.Date.ofDay t.day).month
      ++ '-' :: two (Calendar.Date.ofDay t.day).day ++ 'T' :: two (t.secondOfDay.toNat / 3600)
      ++ ':' :: two (t.secondOfDay.toNat / 60 % 60) ++ ':' :: two (writtenSecond t) ++ ['Z'] := by
    rw [renderChars, hyear]; rfl
  rw [parse?, render, String.toList_ofList, written,
    parseChars?_parts (by omega) (by omega) (by omega) (by omega) (by omega) (by omega)]
  simp only [hdate, hday]
  rw [if_pos ⟨Calendar.Date.ofDay_isValid t.day, by omega, by omega, hs1⟩, hsec, hs3]
  exact Instant.of?_eq_some hs4

/-- A decimal digit is visible. -/
lemma visible_digit (n : Nat) : Bytes.IsVisibleChar (digit n) := by
  refine .inl ?_
  rw [toNat_digit]
  omega

/-- Four digits are visible. -/
lemma visible_four (n : Nat) : ∀ c ∈ four n, Bytes.IsVisibleChar c := by
  intro c hc
  unfold four at hc
  split at hc
  case isTrue =>
    simp only [List.mem_cons, List.not_mem_nil, or_false] at hc
    rcases hc with rfl | rfl | rfl | rfl
    all_goals exact visible_digit _
  case isFalse =>
    rw [Nat.toString_eq_repr, Nat.toList_repr] at hc
    have isDigit := Nat.isDigit_of_mem_toDigits (by decide) (by decide) hc
    simp only [Char.isDigit, Bool.and_eq_true, decide_eq_true_eq, ge_iff_le,
      UInt32.le_iff_toNat_le] at isDigit
    exact .inl ⟨Nat.le_trans (by decide) isDigit.1, Nat.le_trans isDigit.2 (by decide)⟩

/-- The characters of a timestamp are visible if those of its year are. -/
lemma visible_of_year {t : Instant}
    (h : ∀ c ∈ renderYear (Calendar.Date.ofDay t.day).year, Bytes.IsVisibleChar c) :
    ∀ c ∈ (render t).toList, Bytes.IsVisibleChar c := by
  have marks : Bytes.IsVisibleChar '-' ∧ Bytes.IsVisibleChar 'T' ∧ Bytes.IsVisibleChar ':'
      ∧ Bytes.IsVisibleChar 'Z' := by
    unfold Bytes.IsVisibleChar
    decide
  rw [render, String.toList_ofList, renderChars]
  simp only [two, List.forall_mem_append, List.forall_mem_cons, List.not_mem_nil, false_implies,
    implies_true, visible_digit, marks, and_self, and_true]
  exact h

/-- The characters of a timestamp of the years 0 to 9999 are visible. -/
lemma visible_render {t : Instant} (hy : 0 ≤ t.year ∧ t.year ≤ 9999) :
    ∀ c ∈ (render t).toList, Bytes.IsVisibleChar c := by
  have year : renderYear (Calendar.Date.ofDay t.day).year = four t.year.toNat := if_pos hy
  refine visible_of_year ?_
  rw [year]
  exact visible_four _

end Rfc3339

end Gatehouse
