import FlightQuery.Proofs.Time.Written

/-! All spellings of a moment are read as the same milliseconds. -/

namespace FlightQuery.Moment

open Text

variable {date : Date}

/-- The strict form behind the time: a letter for universal time, or an offset. -/
def readZone? : List Char → Option (Int × List Char)
  | 'Z' :: rest => some (0, rest)
  | 'z' :: rest => some (0, rest)
  | text => readOffset? (readChar? ':') text

/-- A separator of the date and the time. -/
def IsSeparator (c : Char) : Prop := c = 'T' ∨ c = ' '

/-- A character is read in front of any text. -/
theorem readChar?_cons (c : Char) (rest : List Char) : readChar? c (c :: rest) = some rest :=
  if_pos rfl

/-- A reader goes on with what the one in front of it has read. -/
theorem bind_of_eq_some {α β : Type} {reader : Option α} {value : α}
    {next : α → Option β} {result : Option β} (read : reader = some value)
    (goesOn : next value = result) : (reader >>= next) = result := by
  rw [read]
  exact goesOn

/-- The strict form is read up to the zone, which decides about it. -/
theorem readStrict?_write (common : date.IsCommon) (clock : Clock) {c : Char}
    (separates : IsSeparator c) {zone : List Char} (stops : Clock.Stops zone) :
    readStrict? (date.write ++ c :: (clock.write ++ zone)) =
      (readZone? zone).map fun (offset, rest) => (clock.on date offset, rest) := by
  -- All numbers fit their digits, so that each of them is read as it was written.
  obtain ⟨year_lt, month_lt, day_lt⟩ := common.lt
  obtain ⟨hour_lt, minute_lt, second_lt⟩ := clock.lt
  have fraction := Clock.readFraction?_writeFraction clock.isDigit_of_mem clock.length_le stops
  have separated : c = 'T' ∨ c = 't' ∨ c = ' ' := separates.imp_right .inr
  have year (rest : List Char) := readNumber?_writePadded (by decide) year_lt (Nat.le_refl 4) rest
  -- The reader goes through the text from the left, one part at a time.
  simp only [common.write_eq, Clock.write, List.append_assoc, List.cons_append]
  refine bind_of_eq_some (year _) ?_
  refine bind_of_eq_some (readChar?_cons _ _) (bind_of_eq_some (readNumber?_two month_lt _) ?_)
  refine bind_of_eq_some (readChar?_cons _ _) (bind_of_eq_some (readNumber?_two day_lt _) ?_)
  refine (if_pos separated).trans ?_
  refine bind_of_eq_some rfl (bind_of_eq_some (readNumber?_two hour_lt _) ?_)
  refine bind_of_eq_some (readChar?_cons _ _) (bind_of_eq_some (readNumber?_two minute_lt _) ?_)
  refine bind_of_eq_some (readChar?_cons _ _) (bind_of_eq_some (readNumber?_two second_lt _) ?_)
  refine bind_of_eq_some fraction ?_
  dsimp only
  rw [common.year_eq]
  -- The letter for universal time is tried before an offset.
  split
  · rfl
  · rfl
  · rename_i notCapital notSmall
    rw [readZone?.eq_3 zone notCapital notSmall]
    cases readOffset? (readChar? ':') zone <;> rfl

/-- A text is read in the first form that it has, and blanks around it do not matter. -/
theorem read?_of_form {text front back : List Char} {moment : Moment} {value : Int}
    {form : List Char → Option (Moment × List Char)}
    {before after : List (List Char → Option (Moment × List Char))}
    (forms_eq : forms = before ++ form :: after) (unread : ∀ other ∈ before, other text = none)
    (read : form text = some (moment, [])) (value_eq : moment.milliseconds? = some value)
    (trimmed : trim text = text) (blankFront : AllBlank front) (blankBack : AllBlank back) :
    read? (String.ofList (front ++ text ++ back)) = some value := by
  -- What stands around the text is trimmed off, and the forms in front of its own do not read it.
  have core : trim (String.ofList (front ++ text ++ back)).toList = text := by
    rw [String.toList_ofList, trim_append blankFront blankBack, trimmed]
  have skipped : (before.findSome? fun other => readForm? other text) = none := by
    refine List.findSome?_eq_none_iff.2 fun other listed => ?_
    rw [readForm?, unread other listed]
  have found : readForm? form text = some value := by
    rw [readForm?, read]
    exact value_eq
  simp only [read?, core, forms_eq, List.findSome?_append, skipped, Option.none_or,
    List.findSome?_cons, found]

section Forms

variable (common : date.IsCommon) (clock : Clock)

include common

/-- A time behind a letter is no time behind blanks. -/
theorem readSpacedOffset?_letter (rest : List Char) :
    readSpacedOffset? (date.write ++ 'T' :: rest) = none := by
  simp only [readSpacedOffset?, readSpaced?, common.readDate?_write]
  rfl

/-- The strict form needs a zone. -/
theorem readStrict?_naive {c : Char} (separates : IsSeparator c) :
    readStrict? (date.write ++ c :: clock.write) = none := by
  have read := readStrict?_write common clock separates Clock.stops_nil
  rwa [List.append_nil] at read

/-- A time behind a letter is read with its date. -/
theorem readLetter?_write :
    readLetter? (date.write ++ 'T' :: clock.write) = some (clock.on date 0, []) := by
  -- The date is read up to the letter and the time up to the end of the text.
  have read := clock.readTime?_write date Clock.stops_nil
  rw [List.append_nil] at read
  simp only [readLetter?, common.readDate?_write, readChar?, Option.bind_eq_bind,
    Option.bind_some, if_true, read]

/-- A time behind a blank is read with its date. -/
theorem readSpaced?_write :
    readSpaced? (date.write ++ ' ' :: clock.write) = some (clock.on date 0, []) := by
  -- The date is read up to the blank and the time up to the end of the text.
  have read := clock.readTime?_write date Clock.stops_nil
  rw [List.append_nil] at read
  simp only [readSpaced?, common.readDate?_write, Option.bind_eq_bind, Option.bind_some]
  exact read

/-- A time behind a blank has no offset if nothing follows it. -/
theorem readSpacedOffset?_naive :
    readSpacedOffset? (date.write ++ ' ' :: clock.write) = none := by
  rw [readSpacedOffset?, readSpaced?_write common clock]
  rfl

/-- A time behind a blank is no time behind a letter. -/
theorem readLetter?_spaced : readLetter? (date.write ++ ' ' :: clock.write) = none := by
  simp only [readLetter?, common.readDate?_write]
  rfl

/-- A date is read as its midnight. -/
theorem readMidnight?_write : readMidnight? date.write = some ({ date }, []) := by
  have read := common.readDate?_write []
  rw [List.append_nil] at read
  rw [readMidnight?, read]
  rfl

/-- No form with a time reads a date. -/
theorem unread_date : ∀ form ∈ [readStrict?, readSpacedOffset?, readLetter?, readSpaced?],
    form date.write = none := by
  -- Every form reads a date first, and then it misses the time.
  obtain ⟨year_lt, month_lt, day_lt⟩ := common.lt
  have year (rest : List Char) := readNumber?_writePadded (by decide) year_lt (Nat.le_refl 4) rest
  have date_read := common.readDate?_write []
  have parts := common.write_eq []
  rw [List.append_nil] at date_read
  rw [List.append_nil, List.append_nil, ← List.append_nil (writePadded 2 date.day)] at parts
  simp only [List.forall_mem_cons, List.not_mem_nil, false_imp_iff, implies_true, and_true]
  refine ⟨?_, ?_, ?_, ?_⟩
  · -- The strict form reads the parts of the date itself.
    rw [parts]
    refine bind_of_eq_some (year _) ?_
    refine bind_of_eq_some (readChar?_cons _ _) (bind_of_eq_some (readNumber?_two month_lt _) ?_)
    exact bind_of_eq_some (readChar?_cons _ _) (bind_of_eq_some (readNumber?_two day_lt _) rfl)
  · simp only [readSpacedOffset?, readSpaced?, date_read]
    rfl
  · simp only [readLetter?, date_read]
    rfl
  · simp only [readSpaced?, date_read]
    rfl

end Forms

/-! ### Spellings -/

section Spellings

variable {front back : List Char} (common : date.IsCommon) (blankFront : AllBlank front)
  (blankBack : AllBlank back)

include common blankFront blankBack

/-- A date is read as its midnight in universal time. -/
theorem read?_date : read? (String.ofList (front ++ date.write ++ back)) =
    some (date.number * 86400000) := by
  -- The blanks around the date are trimmed off, and no form with a time reads it.
  have trimmed : trim (date.write ++ []) = date.write ++ [] := common.trim_write rfl
  rw [List.append_nil] at trimmed
  -- Midnight is the time that is filled in.
  have value : ({ date } : Moment).milliseconds? = some (date.number * 86400000) := by
    have midnight : (Clock.midnight.on date 0).milliseconds? =
        some (date.number * 86400000 + (0 : Nat) - 0 * 1000) :=
      Clock.midnight.milliseconds?_on common (by decide)
    have start : Clock.midnight.on date 0 = { date } := rfl
    rw [start] at midnight
    simpa using midnight
  exact read?_of_form rfl (unread_date common) (readMidnight?_write common) value trimmed
    blankFront blankBack

/-- A date and a time are read as the time in universal time. -/
theorem read?_naive (clock : Clock) {c : Char} (separates : IsSeparator c) :
    read? (String.ofList (front ++ (date.write ++ c :: clock.write) ++ back)) =
      some (date.number * 86400000 + clock.milliseconds) := by
  -- Without a zone the time is that of universal time.
  have value : (clock.on date 0).milliseconds? =
      some (date.number * 86400000 + clock.milliseconds - 0 * 1000) :=
    clock.milliseconds?_on common (by decide)
  rw [Int.zero_mul, Int.sub_zero] at value
  have trimmed := common.trim_write (clock.endsBlank_write [c])
  have strict := readStrict?_naive common clock separates
  -- A letter and a blank are taken by different forms, after others have missed.
  rcases separates with rfl | rfl
  · have unread : ∀ form ∈ [readStrict?, readSpacedOffset?],
        form (date.write ++ 'T' :: clock.write) = none := by
      simpa using ⟨strict, readSpacedOffset?_letter common clock.write⟩
    exact read?_of_form rfl unread (readLetter?_write common clock) value trimmed blankFront
      blankBack
  · have unread : ∀ form ∈ [readStrict?, readSpacedOffset?, readLetter?],
        form (date.write ++ ' ' :: clock.write) = none := by
      simpa using ⟨strict, readSpacedOffset?_naive common clock, readLetter?_spaced common clock⟩
    exact read?_of_form rfl unread (readSpaced?_write common clock) value trimmed blankFront
      blankBack

/-- A date and a time with a zone are read as the time in universal time. -/
theorem read?_zoned (clock : Clock) {c : Char} (separates : IsSeparator c) {zone : List Char}
    {offset : Int} (stops : Clock.Stops zone) (zoned : readZone? zone = some (offset, []))
    (short : offset.natAbs < 86400) (ends : endsBlank (c :: (clock.write ++ zone)) = false) :
    read? (String.ofList (front ++ (date.write ++ c :: (clock.write ++ zone)) ++ back)) =
      some (date.number * 86400000 + clock.milliseconds - offset * 1000) := by
  -- The strict form is tried first, and it reads any zone.
  have strict := readStrict?_write common clock separates stops
  rw [zoned] at strict
  have first : forms = [] ++ readStrict? :: forms.tail := rfl
  exact read?_of_form first nofun strict (clock.milliseconds?_on common short)
    (common.trim_write ends) blankFront blankBack

/-- A date and a time in front of the letter for universal time are read as such. -/
theorem read?_universal (clock : Clock) :
    read? (String.ofList (front ++ (date.write ++ 'T' :: (clock.write ++ ['Z'])) ++ back)) =
      some (date.number * 86400000 + clock.milliseconds) := by
  -- The letter is a zone without an offset, and it stops the fraction.
  have stops : Clock.Stops ['Z'] := by
    rintro c ⟨⟩
    decide
  have zoned : readZone? ['Z'] = some (0, []) := rfl
  have ends : endsBlank ('T' :: (clock.write ++ ['Z'])) = false := by
    rw [← List.cons_append, endsBlank_append _ (List.cons_ne_nil 'Z' [])]
    rfl
  have read := read?_zoned common blankFront blankBack clock (.inl rfl) stops zoned (by decide) ends
  rwa [Int.zero_mul, Int.sub_zero] at read

end Spellings

/-- A written offset is the zone of a time. -/
theorem readZone?_write (offset : Offset) : readZone? offset.write = some (offset.seconds, []) := by
  have read := offset.readOffset?_write []
  rw [List.append_nil] at read
  unfold readZone?
  -- An offset starts with a sign, which is neither of the letters.
  split
  · rename_i capital
    exact absurd (List.cons.inj capital).1 (by split <;> decide)
  · rename_i small
    exact absurd (List.cons.inj small).1 (by split <;> decide)
  · exact read

/--
All spellings of a date and a time are read as the same milliseconds.

A letter and a blank separate the two alike.
The time is that of universal time unless an offset is written, and a date is its midnight.
Fractions are cut off, before 1970 as well, and dates that follow one another are a day apart.
-/
theorem read?_spellings {date : Date} (common : date.IsCommon) (clock : Clock)
    {front back : List Char} (blankFront : AllBlank front) (blankBack : AllBlank back) :
    let around (text : List Char) : String := String.ofList (front ++ text ++ back)
    let naive : Int := date.number * 86400000 + clock.milliseconds
    (∀ c, IsSeparator c → read? (around (date.write ++ c :: clock.write)) = some naive ∧
      ∀ offset : Offset, read? (around (date.write ++ c :: (clock.write ++ offset.write))) =
        some (naive - offset.seconds * 1000)) ∧
    read? (around (date.write ++ 'T' :: (clock.write ++ ['Z']))) = some naive ∧
    read? (around date.write) = some (date.number * 86400000) ∧
    (date.next.year ≤ 9999 →
      read? (around date.next.write) = some (date.number * 86400000 + 86400000)) ∧
    read? (around "1970-01-01".toList) = some 0 := by
  intro around naive
  refine ⟨fun c separates => ⟨read?_naive common blankFront blankBack clock separates,
    fun offset => ?_⟩, ?_, read?_date common blankFront blankBack, fun last => ?_, ?_⟩
  · -- An offset makes the time a zoned one.
    exact read?_zoned common blankFront blankBack clock separates offset.stops_write
      (readZone?_write offset) offset.natAbs_seconds_lt
      (by simpa using offset.endsBlank_write (c :: clock.write))
  · exact read?_universal common blankFront blankBack clock
  · -- The next date is common as well, unless it is too late.
    have next : date.next.IsCommon := {
      valid := Date.isValid_next common.valid
      first := Int.le_trans common.first (Date.year_le_next date)
      last }
    have read := read?_date next blankFront blankBack
    rwa [Date.number_next common.valid, Int.add_mul, Int.one_mul] at read
  · -- The first date of 1970 is a date like any other, whose number is evaluated.
    have epoch : Date.IsCommon ⟨1970, 1, 1⟩ := ⟨by decide, by decide, by decide⟩
    have number_eq : Date.number ⟨1970, 1, 1⟩ = 0 := by decide
    have written : Date.write ⟨1970, 1, 1⟩ = "1970-01-01".toList := by decide
    have read := read?_date epoch blankFront blankBack
    rwa [number_eq, written, Int.zero_mul] at read

/-- The last millisecond in front of 1970 by universal time, told by a clock that is behind it. -/
theorem read?_spellings_behind :
    let clock : Clock := {
      hour := 18, minute := 29, second := 59, fraction := "9999".toList
      hour_lt := by decide, minute_lt := by decide, second_lt := by decide
      isDigit_of_mem := List.all_eq_true.1 (by decide), length_le := by decide }
    let offset : Offset := {
      isBehind := true, hours := 5, minutes := 30, hours_lt := by decide, minutes_lt := by decide }
    Date.IsCommon ⟨1969, 12, 31⟩ ∧ AllBlank [' '] ∧ AllBlank ['\n'] ∧ IsSeparator ' ' ∧
      clock.write ++ offset.write = "18:29:59.9999-05:30".toList ∧
      read? " 1969-12-31 18:29:59.9999-05:30\n" = some (-1) := by
  intro clock offset
  -- The spaces around the text are blanks, and so is the one between date and time.
  have common : Date.IsCommon ⟨1969, 12, 31⟩ := ⟨by decide, by decide, by decide⟩
  refine ⟨common, by decide, by decide, .inr rfl, by decide, ?_⟩
  -- The theorem reads the clock with its offset, and only the value is evaluated.
  have read := ((read?_spellings common clock (by decide : AllBlank [' '])
    (by decide : AllBlank ['\n'])).1 ' ' (.inr rfl)).2 offset
  have written : String.ofList ([' '] ++ (Date.write ⟨1969, 12, 31⟩ ++ ' ' ::
      (clock.write ++ offset.write)) ++ ['\n']) = " 1969-12-31 18:29:59.9999-05:30\n" := by
    decide
  have value : Date.number ⟨1969, 12, 31⟩ * 86400000 + clock.milliseconds -
      offset.seconds * 1000 = -1 := by decide
  dsimp only at read
  rwa [written, value] at read

end FlightQuery.Moment
