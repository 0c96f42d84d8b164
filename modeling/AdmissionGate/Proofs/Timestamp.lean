import AdmissionGate.Proofs.Text.Numeral
import AdmissionGate.Timestamp
import Mathlib.Algebra.Group.Nat.Defs

/-!
# Written timestamps

A timestamp that was read lies on the calendar.  Written and read again it is
the same, but for the fraction of its second, which is not written.
-/

namespace AdmissionGate

open Text

namespace Timestamp

/-! ## Numerals -/

theorem toList_padded (width value : Nat) :
    (padded width value).toList =
      List.replicate (width - (Nat.toDigits 10 value).length) '0' ++
        Nat.toDigits 10 value := by
  have hdigits : (toString value).toList = Nat.toDigits 10 value := by
    rw [Nat.toString_eq_repr, Nat.toList_repr]
  rw [padded, String.toList_append, String.toList_ofList,
    ← String.length_toList, hdigits]

theorem isDigit_of_mem_padded {width value : Nat} {digit : Char}
    (h : digit ∈ (padded width value).toList) : digit.isDigit = true := by
  rw [toList_padded, List.mem_append] at h
  rcases h with hzero | hdigit
  · rw [List.eq_of_mem_replicate hzero]
    rfl
  · exact Nat.isDigit_of_mem_toDigits (by decide) (by decide) hdigit

theorem valueOfDigits_padded (width value : Nat) :
    valueOfDigits (padded width value).toList = value := by
  have hvalue (digits : List Char) :
      valueOfDigits digits = Nat.ofDigitChars 10 digits 0 := rfl
  rw [hvalue, toList_padded, Nat.ofDigitChars_append,
    Nat.ofDigitChars_replicate_zero, Nat.mul_zero, Nat.ofDigitChars_ten_toDigits]

theorem length_padded {width value : Nat} (hwidth : 0 < width)
    (fits : value < 10 ^ width) : (padded width value).toList.length = width := by
  have hlength := (Nat.length_toDigits_le_iff (by decide) hwidth).2 fits
  rw [toList_padded, List.length_append, List.length_replicate]
  omega

theorem padded_eq_cons (width value : Nat) :
    ∃ digit rest, (padded width value).toList = digit :: rest ∧
      digit.isDigit = true := by
  cases h : (padded width value).toList with
  | nil => simp [toList_padded, Nat.toDigits_ne_nil] at h
  | cons digit rest =>
      have hmember : digit ∈ (padded width value).toList := by simp [h]
      exact ⟨digit, rest, rfl, isDigit_of_mem_padded hmember⟩

theorem trimStart_padded (width value : Nat) (rest : List Char) :
    trimStart ((padded width value).toList ++ rest) =
      (padded width value).toList ++ rest := by
  obtain ⟨digit, digits, h, hdigit⟩ := padded_eq_cons width value
  rw [h, List.cons_append,
    trimStart_eq_self_of_head (isBlank_of_isDigit hdigit)]

/-! ## Parts of a text -/

theorem readPart?_padded {width value : Nat} (hwidth : 0 < width)
    (fits : value < 10 ^ width) (rest : List Char) :
    readPart? width ((padded width value).toList ++ rest) =
      some (value, rest) := by
  have hlength := length_padded hwidth fits
  have hdigits : (leadingDigits ((padded width value).toList ++ rest)).take
      width = (padded width value).toList := by
    rw [leadingDigits_append fun _ => isDigit_of_mem_padded,
      List.take_append_of_le_length (by omega), List.take_of_length_le (by omega)]
  have hnonempty : (padded width value).toList.isEmpty = false := by
    obtain ⟨digit, digits, h, -⟩ := padded_eq_cons width value
    rw [h]
    rfl
  rw [readPart?, trimStart_padded]
  simp only [hdigits, hnonempty, valueOfDigits_padded, List.drop_left]
  rfl

theorem readMark?_self {mark : Char} (notBlank : isBlank mark = false)
    (rest : List Char) : readMark? mark (mark :: rest) = some rest := by
  simp [readMark?, trimStart_eq_self_of_head notBlank]

theorem readYear?_signed (negative : Bool) (value : Nat) (rest : List Char) :
    readYear? ((if negative then '-' else '+') ::
        ((padded 4 value).toList ++ '-' :: rest)) =
      some (if negative then -(value : Int) else value, '-' :: rest) := by
  have hlead : leadingDigits ((padded 4 value).toList ++ '-' :: rest) =
      (padded 4 value).toList := by
    rw [leadingDigits_append fun _ => isDigit_of_mem_padded]
    simp [leadingDigits]
  have hafter : afterDigits ((padded 4 value).toList ++ '-' :: rest) =
      '-' :: rest := by
    rw [afterDigits_append fun _ => isDigit_of_mem_padded]
    simp [afterDigits]
  have hnonempty : (padded 4 value).toList.isEmpty = false := by
    obtain ⟨digit, digits, h, -⟩ := padded_eq_cons 4 value
    rw [h]
    rfl
  cases negative <;>
    simp [readYear?, trimStart, List.dropWhile, isBlank, hlead, hafter,
      hnonempty, valueOfDigits_padded]

theorem readYear?_unsigned {value : Nat} (fits : value < 10 ^ 4)
    (rest : List Char) :
    readYear? ((padded 4 value).toList ++ rest) = some ((value : Int), rest) := by
  have hpart := readPart?_padded (by decide) fits rest
  have htrim := trimStart_padded 4 value rest
  obtain ⟨digit, digits, h, hdigit⟩ := padded_eq_cons 4 value
  rw [h, List.cons_append] at hpart htrim ⊢
  unfold readYear?
  rw [htrim]
  split
  · rename_i hhead
    cases hhead
    cases hdigit
  · rename_i hhead
    cases hhead
    cases hdigit
  · simp [hpart]

theorem readYear?_yearText (year : Int) (rest : List Char) :
    readYear? ((yearText year).toList ++ '-' :: rest) =
      some (year, '-' :: rest) := by
  have hminus : "-".toList = ['-'] := by simp
  have hplus : "+".toList = ['+'] := by simp
  unfold yearText
  split
  · rename_i hyear
    have fits : year.toNat < 10 ^ 4 := by omega
    rw [readYear?_unsigned fits, Int.toNat_of_nonneg hyear.1]
  · by_cases hnegative : year < 0
    · have hyear : -(year.natAbs : Int) = year := by omega
      have hread := readYear?_signed true year.natAbs rest
      simp only [reduceIte, hyear] at hread
      rw [if_pos hnegative, String.toList_append, List.append_assoc, hminus,
        List.singleton_append]
      exact hread
    · have hyear : (year.natAbs : Int) = year := by omega
      have hread := readYear?_signed false year.natAbs rest
      simp only [Bool.false_eq_true, reduceIte, hyear] at hread
      rw [if_neg hnegative, String.toList_append, List.append_assoc, hplus,
        List.singleton_append]
      exact hread

/-! ## The calendar -/

structure Date.OnCalendar (date : Date) : Prop where
  month : 1 ≤ date.month ∧ date.month ≤ 12
  day : 1 ≤ date.day ∧ date.day ≤ daysInMonth date.year date.month

theorem one_le_daysInMonth (year : Int) (month : Nat) :
    1 ≤ daysInMonth year month := by
  unfold daysInMonth
  split
  · split <;> decide
  · split <;> decide

theorem daysInMonth_le (year : Int) (month : Nat) :
    daysInMonth year month ≤ 31 := by
  unfold daysInMonth
  split
  · split <;> decide
  · split <;> decide

theorem Date.OnCalendar.next {date : Date} (h : date.OnCalendar) :
    date.next.OnCalendar := by
  obtain ⟨hmonth, hday⟩ := h
  unfold Date.next
  split
  · exact ⟨hmonth, by simp; omega⟩
  · split
    · exact ⟨by simp; omega, by simp [one_le_daysInMonth]⟩
    · exact ⟨by simp, by simp [one_le_daysInMonth]⟩

theorem Date.OnCalendar.previous {date : Date} (h : date.OnCalendar) :
    date.previous.OnCalendar := by
  obtain ⟨hmonth, hday⟩ := h
  unfold Date.previous
  split
  · exact ⟨hmonth, by simp; omega⟩
  · split
    · exact ⟨by simp; omega, by simp [one_le_daysInMonth]⟩
    · exact ⟨by simp, by simp [daysInMonth]⟩

structure Valid (timestamp : Timestamp) : Prop where
  date : timestamp.date.OnCalendar
  inRange : timestamp.date.inRange = true
  hour : timestamp.hour ≤ 23
  minute : timestamp.minute ≤ 59
  second : timestamp.second ≤ 60

theorem onCalendar_of_readDate? {text rest : List Char} {date : Date}
    (read : readDate? text = some (date, rest)) : date.OnCalendar := by
  simp only [readDate?, Option.bind_eq_bind, Option.bind_eq_some_iff,
    Option.pure_def] at read
  obtain ⟨_, -, _, -, _, -, _, -, _, -, read⟩ := read
  split at read
  · rename_i valid
    cases read
    simp only [Bool.and_eq_true, decide_eq_true_eq] at valid
    exact ⟨⟨valid.1.1.1.2, valid.1.1.2⟩, ⟨valid.1.2, valid.2⟩⟩
  · cases read

theorem second_of_readClock? {text rest : List Char} {clock : Clock}
    (read : readClock? text = some (clock, rest)) : clock.second ≤ 60 := by
  simp only [readClock?, Option.bind_eq_bind, Option.bind_eq_some_iff,
    Option.pure_def] at read
  obtain ⟨_, -, _, -, _, -, _, -, _, -, _, -, read⟩ := read
  split at read
  · rename_i valid
    cases read
    simp only [Bool.and_eq_true, decide_eq_true_eq] at valid
    exact valid.2
  · cases read

theorem onCalendar_atOffset {date : Date} (h : date.OnCalendar) (clock : Clock)
    (offset : Int) : (atOffset date clock offset).date.OnCalendar := by
  unfold atOffset Timestamp.date
  dsimp only
  split
  · exact h.previous
  · split
    · exact h.next
    · exact h

theorem valid_of_ofText? {text : String} {timestamp : Timestamp}
    (read : ofText? text = some timestamp) : timestamp.Valid := by
  simp only [ofText?, Option.bind_eq_bind, Option.bind_eq_some_iff,
    Option.pure_def] at read
  obtain ⟨⟨date, text⟩, hdate, read⟩ := read
  -- The date and the clock may stand apart in three ways.
  split at read
  case h_4 => cases read
  all_goals
    simp only [Option.bind_some, Option.bind_eq_some_iff] at read
    obtain ⟨⟨clock, _⟩, hclock, ⟨offset, _⟩, -, read⟩ := read
    split at read
    · rename_i hend
      cases read
      rw [Bool.and_eq_true] at hend
      refine ⟨onCalendar_atOffset (onCalendar_of_readDate? hdate) _ _, hend.2,
        ?_, ?_, second_of_readClock? hclock⟩
      · simp only [atOffset]
        omega
      · simp only [atOffset]
        omega
    · cases read

/-! ## Reading what is written -/

def wholeSecond (timestamp : Timestamp) : Timestamp :=
  { timestamp with nanosecond := 0 }

@[simp] theorem toText_wholeSecond (timestamp : Timestamp) :
    timestamp.wholeSecond.toText = timestamp.toText := rfl

def dateText (date : Date) : List Char :=
  (yearText date.year).toList ++ '-' ::
    ((padded 2 date.month).toList ++ '-' :: (padded 2 date.day).toList)

def clockText (hour minute second : Nat) : List Char :=
  (padded 2 hour).toList ++ ':' ::
    ((padded 2 minute).toList ++ ':' :: (padded 2 second).toList)

theorem toList_toText (timestamp : Timestamp) :
    timestamp.toText.toList = dateText timestamp.date ++ 'T' ::
      (clockText timestamp.hour timestamp.minute timestamp.second ++ ['Z']) := by
  simp [toText, dateText, clockText, date]

theorem readDate?_dateText {date : Date} (h : date.OnCalendar)
    (inRange : date.inRange = true) (rest : List Char) :
    readDate? (dateText date ++ rest) = some (date, rest) := by
  obtain ⟨hmonth, hday⟩ := h
  have hdays := daysInMonth_le date.year date.month
  have hdash : isBlank '-' = false := by decide
  simp only [readDate?, dateText, List.append_assoc, List.cons_append,
    readYear?_yearText, readMark?_self hdash, Option.bind_eq_bind,
    Option.bind_some, readPart?_padded (show 0 < 2 by decide)
      (show date.month < 10 ^ 2 by omega),
    readPart?_padded (show 0 < 2 by decide) (show date.day < 10 ^ 2 by omega)]
  simp [inRange, hmonth, hday]

theorem readClock?_clockText {hour minute second : Nat} (hhour : hour ≤ 23)
    (hminute : minute ≤ 59) (hsecond : second ≤ 60) :
    readClock? (clockText hour minute second ++ ['Z']) =
      some (⟨hour, minute, second, 0⟩, ['Z']) := by
  have hcolon : isBlank ':' = false := by decide
  simp only [readClock?, clockText, List.append_assoc, List.cons_append,
    readMark?_self hcolon, Option.bind_eq_bind, Option.bind_some,
    readPart?_padded (show 0 < 2 by decide) (show hour < 10 ^ 2 by omega),
    readPart?_padded (show 0 < 2 by decide) (show minute < 10 ^ 2 by omega),
    readPart?_padded (show 0 < 2 by decide) (show second < 10 ^ 2 by omega)]
  simp [readFraction?, hhour, hminute, hsecond]

theorem atOffset_zero {timestamp : Timestamp} (valid : timestamp.Valid) :
    atOffset timestamp.date
      ⟨timestamp.hour, timestamp.minute, timestamp.second, 0⟩ 0 =
        timestamp.wholeSecond := by
  have hhour := valid.hour
  have hminute := valid.minute
  have hminutes : ¬ ((timestamp.hour * 60 + timestamp.minute : Nat) : Int) - 0 < 0 := by
    omega
  have hday : ¬ (1440 : Int) ≤
      ((timestamp.hour * 60 + timestamp.minute : Nat) : Int) - 0 := by
    omega
  simp only [atOffset, if_neg hminutes, if_neg hday, wholeSecond, date,
    Timestamp.mk.injEq, true_and, and_true]
  omega

theorem ofText?_toText {timestamp : Timestamp} (valid : timestamp.Valid) :
    ofText? timestamp.toText = some timestamp.wholeSecond := by
  have hoffset : readOffset? (trimStart ['Z']) = some (0, []) := by decide
  have hdate : timestamp.wholeSecond.date.inRange = true := valid.inRange
  simp only [ofText?, toList_toText,
    readDate?_dateText valid.date valid.inRange, Option.bind_eq_bind,
    Option.bind_some, readClock?_clockText valid.hour valid.minute valid.second,
    hoffset, atOffset_zero valid, hdate]
  rfl

end Timestamp
end AdmissionGate
