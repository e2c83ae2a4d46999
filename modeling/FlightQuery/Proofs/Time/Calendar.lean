import FlightQuery.Time.Instant

/-! The calendar: the numbers of dates that follow one another, and their range. -/

namespace FlightQuery.Date

/-- The date that follows a date. -/
def next (date : Date) : Date :=
  if date.day < monthLength date.year date.month then { date with day := date.day + 1 }
  else if date.month < 12 then { date with month := date.month + 1, day := 1 }
  else { year := date.year + 1, month := 1, day := 1 }

/-- The days in front of a month are those in front of the month before, and those of that month. -/
theorem daysBeforeMonth_succ (year : Int) {month : Nat} (positive : 1 ≤ month) :
    daysBeforeMonth year (month + 1) = daysBeforeMonth year month + monthLength year month := by
  -- The days before a month are summed month by month, and one more month adds its length.
  obtain ⟨past, rfl⟩ := Nat.exists_eq_add_of_le' positive
  simp only [daysBeforeMonth, Nat.add_sub_cancel, List.range_succ, List.foldl_append,
    List.foldl_cons, List.foldl_nil]

/-- The months of a year, December aside, have one day more in a leap year. -/
theorem daysBeforeMonth_december (year : Int) :
    daysBeforeMonth year 12 + 31 = if isLeap year then 366 else 365 := by
  -- The months from January to November have 306 days besides those of February.
  have months : daysBeforeMonth year 12 = 306 + monthLength year 2 := by
    simp only [daysBeforeMonth, List.range_succ, List.range_zero, List.nil_append,
      List.cons_append, List.foldl_cons, List.foldl_nil, Nat.zero_add, monthLength]
    omega
  rw [months, monthLength]
  split <;> rfl

/-- A year has one day more if it is a leap year. -/
theorem daysBeforeYear_succ (year : Int) :
    daysBeforeYear (year + 1) = daysBeforeYear year + if isLeap year then 366 else 365 := by
  have leap_iff : isLeap year = true ↔
      year % 4 = 0 ∧ (year % 100 ≠ 0 ∨ year % 400 = 0) := by
    simp only [isLeap, Bool.and_eq_true, Bool.or_eq_true, beq_iff_eq, bne_iff_ne]
  simp only [daysBeforeYear, leap_iff]
  split <;> omega

/-- A date exists when its month and its day do. -/
theorem isValid_iff {date : Date} : date.isValid = true ↔
    1 ≤ date.month ∧ date.month ≤ 12 ∧ 1 ≤ date.day ∧
      date.day ≤ monthLength date.year date.month := by
  simp only [isValid, Bool.and_eq_true, decide_eq_true_eq, and_assoc]

/-- Dates that follow one another have numbers that follow one another. -/
theorem number_next {date : Date} (valid : date.isValid = true) :
    date.next.number = date.number + 1 := by
  obtain ⟨firstMonth, lastMonth, firstDay, lastDay⟩ := isValid_iff.1 valid
  unfold next
  split
  · -- The next day of the same month.
    simp only [number]
    omega
  · rename_i beyond
    have last : date.day = monthLength date.year date.month := by omega
    split
    · -- The first day of the next month.
      simp only [number, daysBeforeMonth_succ date.year firstMonth]
      omega
    · -- The first day of the next year.
      have december : date.month = 12 := by omega
      have days := daysBeforeMonth_december date.year
      have day : date.day = 31 := by rw [last, december]; rfl
      have first : daysBeforeMonth (date.year + 1) 1 = 0 := rfl
      simp only [number, daysBeforeYear_succ, first, december, day]
      by_cases leap : isLeap date.year = true
      · simp only [leap, if_true] at days ⊢
        omega
      · simp only [leap, Bool.false_eq_true, if_false] at days ⊢
        omega

/-- A month has 28 to 31 days. -/
theorem monthLength_bounds (year : Int) (month : Nat) :
    28 ≤ monthLength year month ∧ monthLength year month ≤ 31 := by
  unfold monthLength
  split
  · split <;> decide
  all_goals decide

/-- The date that follows a date exists. -/
theorem isValid_next {date : Date} (valid : date.isValid = true) : date.next.isValid = true := by
  obtain ⟨firstMonth, lastMonth, firstDay, lastDay⟩ := isValid_iff.1 valid
  -- Every month has a first day.
  have starts (year : Int) (month : Nat) : 1 ≤ monthLength year month :=
    Nat.le_trans (by decide) (monthLength_bounds year month).1
  rw [isValid_iff]
  unfold next
  split
  · -- The next day is in the same month, the first of the next month or the first of a year.
    rename_i below
    exact ⟨firstMonth, lastMonth, Nat.le_add_left 1 date.day, below⟩
  · split
    · rename_i below
      exact ⟨Nat.le_add_left 1 date.month, below, Nat.le_refl 1, starts _ _⟩
    · exact ⟨Nat.le_refl 1, Nat.le_add_left 1 11, Nat.le_refl 1, starts _ _⟩

/-- The year of the date that follows a date is not less. -/
theorem year_le_next (date : Date) : date.year ≤ date.next.year := by
  unfold next
  split
  · exact Int.le_refl _
  · split
    · exact Int.le_refl _
    · exact Int.le_add_one (Int.le_refl _)

/-- The months of a year have 31 days each at most. -/
theorem daysBeforeMonth_le (year : Int) (month : Nat) :
    daysBeforeMonth year month ≤ 31 * (month - 1) := by
  -- The months are added up one by one.
  unfold daysBeforeMonth
  induction month - 1 with
  | zero => exact Nat.le_refl 0
  | succ months ih =>
    have month_le := (monthLength_bounds year (months + 1)).2
    simp only [List.range_succ, List.foldl_append, List.foldl_cons, List.foldl_nil]
    omega

/-- The numbers of the dates of years with four digits. -/
theorem number_bounds {date : Date} (valid : date.isValid = true) (first : 0 ≤ date.year)
    (last : date.year ≤ 9999) : -719528 ≤ date.number ∧ date.number ≤ 2932931 := by
  obtain ⟨firstMonth, lastMonth, firstDay, lastDay⟩ := isValid_iff.1 valid
  -- The days gone by in a year are bounded by its months, which leaves linear arithmetic.
  have months := daysBeforeMonth_le date.year date.month
  have days := (monthLength_bounds date.year date.month).2
  simp only [number, daysBeforeYear]
  omega

end FlightQuery.Date
