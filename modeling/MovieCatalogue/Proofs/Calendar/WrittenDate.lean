import MovieCatalogue.Calendar.Reading
import MovieCatalogue.Proofs.Number.Written
import MovieCatalogue.Proofs.Refusal

/-!
Contract: dates that are written and read again.

Owns: `Date.Writing`, the texts that are read as a date: its three numbers with any zeros and blanks
in front of them; that the written form is one of them, so that every date reads back from it,
whatever blanks the reader allows; and that trimming leaves this form as it is.
Does not own: the further blanks that the lenient form allows.
-/

namespace MovieCatalogue.Calendar

open MovieCatalogue MovieCatalogue.Refusal

/-! ## Blanks and digits -/

/-- A run of digits that has the number as its value, so perhaps with zeros in front. -/
structure Writes (n : Nat) (ds : List Char) : Prop where
  nonempty : ds ≠ []
  digits : ∀ c ∈ ds, Number.isDigit c = true
  value : Number.valueOf ds = n

theorem writes_paddedDigits (places n : Nat) : Writes n (Number.paddedDigits places n) where
  nonempty := Number.paddedDigits_ne_nil places n
  digits := fun _ member => Number.isDigit_of_mem_paddedDigits member
  value := Number.valueOf_paddedDigits places n

variable {n most : Nat} {ds rest : List Char}

private theorem trimStart_cons {c : Char} (cs : List Char) (visible : Text.isBlank c = false) :
    Text.trimStart (c :: cs) = c :: cs := by
  simp [Text.trimStart, visible]

private theorem Writes.head? (writes : Writes n ds) (rest : List Char) :
    ∃ d tail, ds ++ rest = d :: tail ∧ Number.isDigit d = true := by
  cases ds with
  | nil => exact absurd rfl writes.nonempty
  | cons d ds => exact ⟨d, ds ++ rest, rfl, writes.digits d List.mem_cons_self⟩

/-- Blanks in front of a number are taken away, but nothing of the number. -/
private theorem Writes.trimStart (writes : Writes n ds) (rest : List Char) {blanks : List Char}
    (blank : ∀ c ∈ blanks, Text.isBlank c = true) :
    Text.trimStart (blanks ++ (ds ++ rest)) = ds ++ rest := by
  obtain ⟨d, tail, starts, digit⟩ := writes.head? rest
  apply Text.trimStart_append blank
  rw [starts]
  rintro c ⟨⟩
  exact Number.isBlank_of_isDigit digit

private theorem exists_blanks (cs : List Char) :
    ∃ blanks, cs = blanks ++ Text.trimStart cs ∧ ∀ c ∈ blanks, Text.isBlank c = true :=
  ⟨cs.takeWhile Text.isBlank, List.takeWhile_append_dropWhile.symm,
    fun _ => List.mem_takeWhile_imp⟩

/-- Blanks that may be skipped are not at hand before a hyphen or at the end. -/
private theorem skip_hyphen (spacing : Spacing) (cs : List Char) :
    spacing.skip ('-' :: cs) = '-' :: cs := by
  cases spacing with
  | strict => rfl
  | lenient => exact trimStart_cons cs (by decide)

/-- A run of digits is read whole if it fits and no digit follows. -/
private theorem Writes.readNumber (writes : Writes n ds) (fits : ds.length ≤ most)
    (stops : rest = [] ∨ ∃ tail, rest = '-' :: tail) :
    readNumber most (ds ++ rest) = .ok (n, rest) := by
  have noDigit : (rest.take (most - ds.length)).takeWhile Number.isDigit = [] := by
    have hyphen : Number.isDigit '-' = false := by decide
    rcases stops with rfl | ⟨tail, rfl⟩
    · simp
    · cases most - ds.length <;> simp [hyphen]
  have run : ((ds ++ rest).take most).takeWhile Number.isDigit = ds := by
    rw [List.take_append, List.take_of_length_le fits,
      List.takeWhile_append_of_pos writes.digits, noDigit, List.append_nil]
  have notEmpty : ds.isEmpty = false := by simp [writes.nonempty]
  simp [Calendar.readNumber, run, notEmpty, writes.value]

private theorem writes_of_readNumber {cs : List Char} (read : readNumber most cs = .ok (n, rest)) :
    ∃ ds, cs = ds ++ rest ∧ Writes n ds ∧ ds.length ≤ most := by
  unfold readNumber at read
  dsimp only at read
  split at read
  case isTrue => cases read
  case isFalse nonempty =>
      obtain ⟨rfl, rfl⟩ := Prod.mk.inj (Except.ok.inj read)
      have start : (cs.take most).takeWhile Number.isDigit <+: cs :=
        (List.takeWhile_prefix _).trans (List.take_prefix _ _)
      refine ⟨_, (List.prefix_iff_eq_append.mp start).symm,
        ⟨by simpa using nonempty, fun c member => ?_, rfl⟩, ?_⟩
      · exact List.mem_takeWhile_imp member
      · exact Nat.le_trans (List.takeWhile_prefix _).length_le (List.length_take_le _ _)

/-! ## Parts -/

/-- The texts that a year is read from: a sign and digits, or at most four digits without a sign. -/
inductive WritesYear : Int → List Char → Prop
  | unsigned {n : Nat} {ds : List Char} (writes : Writes n ds) (short : ds.length ≤ 4) :
      WritesYear n ds
  | positive {n : Nat} {ds : List Char} (writes : Writes n ds) : WritesYear n ('+' :: ds)
  | negative {n : Nat} {ds : List Char} (writes : Writes n ds) : WritesYear (-n) ('-' :: ds)

theorem writesYear_yearChars (year : Int) : WritesYear year (Date.yearChars year) := by
  have writes := writes_paddedDigits 4 year.natAbs
  unfold Date.yearChars
  split
  case isTrue short =>
      have fits : (Number.paddedDigits 4 year.natAbs).length = 4 :=
        Number.length_paddedDigits (by decide) (by omega)
      have value : (year.natAbs : Int) = year := by omega
      exact value ▸ .unsigned writes (Nat.le_of_eq fits)
  case isFalse =>
      by_cases below : year < 0
      · have value : -(year.natAbs : Int) = year := by omega
        have written := WritesYear.negative writes
        rw [value] at written
        rwa [if_pos below]
      · have value : (year.natAbs : Int) = year := by omega
        have written := WritesYear.positive writes
        rw [value] at written
        rwa [if_neg below]

private theorem WritesYear.readYear {year : Int} {cs tail blanks : List Char}
    (writesYear : WritesYear year cs) (first : firstYear ≤ year) (last : year ≤ lastYear)
    (blank : ∀ c ∈ blanks, Text.isBlank c = true) :
    readYear (blanks ++ (cs ++ '-' :: tail)) = .ok (year, '-' :: tail) := by
  have inWord : -(2 ^ 31) ≤ year ∧ year < 2 ^ 31 := by
    simp only [firstYear, lastYear] at first last
    omega
  have long {n : Nat} {ds : List Char} (writes : Writes n ds) :
      readLongNumber (ds ++ '-' :: tail) = .ok (n, '-' :: tail) :=
    writes.readNumber (by simp) (.inr ⟨tail, rfl⟩)
  have signed (sign : Char) (visible : Text.isBlank sign = false) (ds : List Char) :
      Text.trimStart (blanks ++ (sign :: ds ++ '-' :: tail)) = sign :: (ds ++ '-' :: tail) := by
    apply Text.trimStart_append blank
    rintro c ⟨⟩
    exact visible
  cases writesYear with
  | unsigned writes short =>
      obtain ⟨d, others, starts, digit⟩ := writes.head? ('-' :: tail)
      rw [Calendar.readYear, writes.trimStart _ blank]
      -- A digit is no sign, so the year is read without one.
      split
      case h_1 minus =>
          cases starts.symm.trans minus
          cases digit
      case h_2 plus =>
          cases starts.symm.trans plus
          cases digit
      case h_3 =>
          simp only [writes.readNumber short (.inr ⟨tail, rfl⟩), Except.map, bind, Except.bind]
          exact if_pos inWord
  | positive writes =>
      rw [Calendar.readYear, signed '+' (by decide)]
      simp only [long writes, Except.map, bind, Except.bind]
      exact if_pos inWord
  | negative writes =>
      rw [Calendar.readYear, signed '-' (by decide)]
      simp only [long writes, Except.map, bind, Except.bind]
      exact if_pos inWord

/-- A year that is read has blanks in front of it and what follows it behind. -/
private theorem writesYear_of_readYear {year : Int} {cs : List Char}
    (read : readYear cs = .ok (year, rest)) :
    ∃ blanks ys, cs = blanks ++ (ys ++ rest) ∧ (∀ c ∈ blanks, Text.isBlank c = true) ∧
      WritesYear year ys := by
  suffices written : ∃ ys, Text.trimStart cs = ys ++ rest ∧ WritesYear year ys by
    obtain ⟨ys, behind, writesYear⟩ := written
    obtain ⟨blanks, trimmed, blank⟩ := exists_blanks cs
    exact ⟨blanks, ys, behind ▸ trimmed, blank, writesYear⟩
  have number {most : Nat} {f : Nat → Int} {tail : List Char} (read :
      ((readNumber most tail).map fun found => (f found.1, found.2)) >>= (fun found =>
        if -(2 ^ 31) ≤ found.1 ∧ found.1 < 2 ^ 31 then .ok found else .error .outOfRange) =
        .ok (year, rest)) :
      ∃ n ds, tail = ds ++ rest ∧ Writes n ds ∧ ds.length ≤ most ∧ f n = year := by
    obtain ⟨⟨found, after⟩, numbered, bounded⟩ := bind_eq_ok.mp read
    obtain ⟨⟨n, behind⟩, readDigits, same⟩ := map_eq_ok.mp numbered
    dsimp only at bounded
    split at bounded
    case isFalse => cases bounded
    case isTrue =>
        cases bounded
        cases same
        obtain ⟨ds, starts, writes, short⟩ := writes_of_readNumber readDigits
        exact ⟨n, ds, starts, writes, short, rfl⟩
  unfold readYear at read
  split at read
  case h_1 tail minus =>
      obtain ⟨n, ds, rfl, writes, -, rfl⟩ := number (f := fun n => -n) read
      exact ⟨_, minus, .negative writes⟩
  case h_2 tail plus =>
      obtain ⟨n, ds, rfl, writes, -, rfl⟩ := number (f := fun n => n) read
      exact ⟨_, plus, .positive writes⟩
  case h_3 =>
      obtain ⟨n, ds, starts, writes, short, rfl⟩ := number (f := fun n => n) read
      exact ⟨ds, starts, .unsigned writes short⟩

private theorem Writes.readPart (writes : Writes n ds) (short : ds.length ≤ 2) (positive : 1 ≤ n)
    (bounded : n ≤ most) (stops : rest = [] ∨ ∃ tail, rest = '-' :: tail) {blanks : List Char}
    (blank : ∀ c ∈ blanks, Text.isBlank c = true) :
    readPart most (blanks ++ (ds ++ rest)) = .ok (n, rest) := by
  rw [Calendar.readPart, writes.trimStart _ blank, writes.readNumber short stops]
  exact if_pos ⟨positive, bounded⟩

private theorem writes_of_readPart {cs : List Char} (read : readPart most cs = .ok (n, rest)) :
    ∃ blanks ds, cs = blanks ++ (ds ++ rest) ∧ (∀ c ∈ blanks, Text.isBlank c = true) ∧
      Writes n ds ∧ ds.length ≤ 2 := by
  obtain ⟨⟨number, after⟩, readDigits, bounded⟩ := bind_eq_ok.mp read
  dsimp only at bounded
  split at bounded
  case isFalse => cases bounded
  case isTrue =>
      cases bounded
      obtain ⟨ds, behind, writes, short⟩ := writes_of_readNumber readDigits
      obtain ⟨blanks, trimmed, blank⟩ := exists_blanks cs
      exact ⟨blanks, ds, behind ▸ trimmed, blank, writes, short⟩

private theorem eq_of_readHyphen {cs : List Char} (read : readHyphen cs = .ok rest) :
    cs = '-' :: rest := by
  cases cs with
  | nil => cases read
  | cons c cs =>
      simp only [readHyphen] at read
      split at read
      case isTrue here =>
          cases read
          rw [here]
      case isFalse => cases read

/-! ## Dates -/

/-- The texts of a date: its three numbers, joined by hyphens, each with blanks in front. -/
inductive Date.Writing (d : Date) : List Char → Prop
  | intro {blanksYear year blanksMonth month blanksDay day : List Char}
      (blank : ∀ c ∈ blanksYear ++ (blanksMonth ++ blanksDay), Text.isBlank c = true)
      (writesYear : WritesYear d.year year)
      (writesMonth : Writes d.month month) (shortMonth : month.length ≤ 2)
      (writesDay : Writes d.day day) (shortDay : day.length ≤ 2) :
      Writing d (blanksYear ++ (year ++ '-' :: (blanksMonth ++ (month ++ '-' ::
        (blanksDay ++ day)))))

/-- Months with a day are those from 1 to 12, and no month has more than 31 days. -/
theorem month_of_day {year : Int} {month day : Nat} (first : 1 ≤ day)
    (last : day ≤ daysInMonth year month) : 1 ≤ month ∧ month ≤ 12 ∧ day ≤ 31 := by
  unfold daysInMonth at last
  split at last
  all_goals first | omega | (split at last <;> omega)

/-- A date is read from each of its texts. -/
theorem Date.Writing.readDate {d : Date} {cs : List Char} (writing : d.Writing cs)
    (spacing : Spacing) : readDate spacing cs = .ok d := by
  obtain ⟨year, month, day, valid⟩ := d
  obtain ⟨first, last, firstDay, lastDay⟩ := valid
  obtain ⟨firstMonth, lastMonth, day31⟩ := month_of_day firstDay lastDay
  cases writing with
  | @intro _ _ _ _ blanksDay dayDigits blank writesYear writesMonth shortMonth writesDay shortDay =>
      obtain ⟨blankYear, blank⟩ := List.forall_mem_append.mp blank
      obtain ⟨blankMonth, blankDay⟩ := List.forall_mem_append.mp blank
      have dayRead : readPart 31 (blanksDay ++ dayDigits) = .ok (day, []) := by
        simpa using writesDay.readPart shortDay firstDay day31 (.inl rfl) blankDay
      have atEnd : spacing.skip [] = [] := by cases spacing <;> rfl
      have found : Date.of? year month day = some ⟨year, month, day, ⟨first, last, firstDay, lastDay⟩⟩ :=
        dif_pos _
      simp [Calendar.readDate, writesYear.readYear first last blankYear, skip_hyphen, readHyphen,
        writesMonth.readPart shortMonth firstMonth lastMonth (.inr ⟨_, rfl⟩) blankMonth,
        dayRead, atEnd, found, bind, Except.bind]

/-- A text that is read as a date without further blanks is one of its texts. -/
theorem writing_of_readDate {d : Date} {cs : List Char} (read : readDate .strict cs = .ok d) :
    d.Writing cs := by
  obtain ⟨⟨year, afterYear⟩, readHere, afterwards⟩ := bind_eq_ok.mp read
  obtain ⟨beforeMonth, hyphen, afterwards⟩ := bind_eq_ok.mp afterwards
  obtain ⟨⟨month, afterMonth⟩, readMonth, afterwards⟩ := bind_eq_ok.mp afterwards
  obtain ⟨beforeDay, hyphenAgain, afterwards⟩ := bind_eq_ok.mp afterwards
  obtain ⟨⟨day, afterDay⟩, readDay, dated⟩ := bind_eq_ok.mp afterwards
  obtain ⟨blanksYear, yearDigits, rfl, blankYear, writesYear⟩ := writesYear_of_readYear readHere
  obtain rfl := eq_of_readHyphen hyphen
  obtain ⟨blanksMonth, monthDigits, rfl, blankMonth, writesMonth, shortMonth⟩ :=
    writes_of_readPart readMonth
  obtain rfl := eq_of_readHyphen hyphenAgain
  obtain ⟨blanksDay, dayDigits, rfl, blankDay, writesDay, shortDay⟩ := writes_of_readPart readDay
  dsimp only at dated
  split at dated
  case isFalse => cases dated
  case isTrue atEnd =>
      obtain rfl : afterDay = [] := List.isEmpty_iff.mp atEnd
      have isDate : Date.of? year month day = some d := by
        cases found : Date.of? year month day with
        | none =>
            rw [found] at dated
            cases dated
        | some other =>
            rw [found] at dated
            exact congrArg some (Except.ok.inj dated)
      obtain ⟨valid, rfl⟩ : ∃ valid, (⟨year, month, day, valid⟩ : Date) = d := by
        simpa [Date.of?] using isDate
      have blank := List.forall_mem_append.mpr
        ⟨blankYear, List.forall_mem_append.mpr ⟨blankMonth, blankDay⟩⟩
      rw [List.append_nil]
      exact .intro blank writesYear writesMonth shortMonth writesDay shortDay

theorem Date.writing_chars (d : Date) : d.Writing d.chars := by
  obtain ⟨-, -, firstDay, lastDay⟩ := d.valid
  obtain ⟨firstMonth, lastMonth, day31⟩ := month_of_day firstDay lastDay
  have short {n : Nat} (small : n < 10 ^ 2) : (Number.paddedDigits 2 n).length ≤ 2 :=
    Nat.le_of_eq (Number.length_paddedDigits (by decide) small)
  have noBlanks : ∀ c ∈ ([] : List Char) ++ ([] ++ []), Text.isBlank c = true := List.forall_mem_nil _
  have writing : d.Writing _ := .intro noBlanks (writesYear_yearChars d.year)
    (writes_paddedDigits 2 d.month) (short (by omega)) (writes_paddedDigits 2 d.day)
    (short (by omega))
  simpa [Date.chars] using writing

/-- Every date reads back from its written form. -/
theorem readDate_chars (spacing : Spacing) (d : Date) : readDate spacing d.chars = .ok d :=
  d.writing_chars.readDate spacing

/-- The written form of a date is read as that date. -/
theorem readDate_text (spacing : Spacing) (d : Date) :
    readDate spacing d.text.toList = .ok d := by
  rw [Date.text, String.toList_ofList, readDate_chars]

/-- Dates are told apart by their written forms. -/
theorem Date.text_injective : Function.Injective Date.text := by
  intro d other same
  have read := readDate_text .strict d
  rw [same, readDate_text] at read
  exact (Except.ok.inj read).symm

/-- A written date holds digits, hyphens and plus signs, so no blanks. -/
theorem trimBlanks_chars (d : Date) : Text.trimBlanks d.chars = d.chars := by
  have digits {places n : Nat} {c : Char} (member : c ∈ Number.paddedDigits places n) :
      Text.isBlank c = false :=
    Number.isBlank_of_isDigit (Number.isDigit_of_mem_paddedDigits member)
  have year : ∀ c ∈ Date.yearChars d.year, Text.isBlank c = false := by
    intro c member
    unfold Date.yearChars at member
    split at member
    · exact digits member
    · rcases List.mem_cons.mp member with rfl | later
      · split <;> decide
      · exact digits later
  have noBlank : ∀ c ∈ d.chars, Text.isBlank c = false := by
    intro c member
    simp only [Date.chars, List.mem_append, List.mem_cons] at member
    rcases member with (inYear | rfl | inMonth) | rfl | inDay
    · exact year c inYear
    · decide
    · exact digits inMonth
    · decide
    · exact digits inDay
  exact (Text.trimmed_of_no_blanks noBlank).trimBlanks_eq_self

end MovieCatalogue.Calendar
