import CivicForum.Proofs.Time.Calendar
import CivicForum.Proofs.Time.Layouts

/-! # Spellings of a time

* `Timestamp.Civil`: a date and a time of day as they are spelled, `Timestamp.Civil.text`, and the
  time in UTC that they mean, `Timestamp.Civil.instant`.
* `Timestamp.Civil.readZoned_text`: the text is read up to its offset.
* `Timestamp.Civil.findSome?_naiveLayouts`: without one it is read in the first layout that fits.
* `Timestamp.exists_civil`: an instant is the one that its own date and time of day spell.
* `Timestamp.spellings_agree`: a timestamp means the same instant in every spelling.
-/

set_option autoImplicit false

namespace CivicForum.Timestamp

open Text Time

/-! ## Times as they are spelled -/

/-- A date and a time of day that exist, in the years that four digits can name, and the digits of a
fraction of a second. Second 60 is a leap second. -/
structure Civil where
  date : Date
  hour : Nat
  minute : Nat
  second : Nat
  fraction : List Char
  date_valid : date.isValid = true
  year_nonneg : 0 ≤ date.year
  year_le : date.year ≤ 9999
  hour_le : hour ≤ 23
  minute_le : minute ≤ 59
  second_le : second ≤ 60
  digits : ∀ c ∈ fraction, isDigit c = true

namespace Civil

/-- The time as text, with a mark between the date and the time of day. -/
def text (x : Civil) (mark : Char) : List Char :=
  padded 4 x.date.year.toNat ++ '-' :: padded 2 x.date.month ++ '-' :: padded 2 x.date.day ++
  mark :: padded 2 x.hour ++ ':' :: padded 2 x.minute ++ ':' :: padded 2 x.second ++
  pointed x.fraction

/-- The time in UTC: the days since the start of 1970, counted one by one, the time of day, and the
fraction in nanoseconds, rounded down. A leap second counts on top of the second before it. -/
def instant (x : Civil) : Instant where
  seconds := ((x.date.count : Int) - Date.count ⟨1970, 1, 1⟩) * 86400 +
    (x.hour * 3600 + x.minute * 60 + min x.second 59 : Nat)
  nanos := ofDigits x.fraction * 10 ^ 9 / 10 ^ x.fraction.length +
    if x.second = 60 then 1000000000 else 0

def clock (x : Civil) : Clock := ⟨x.date, x.hour, x.minute, x.second, ofFraction x.fraction⟩

variable (x : Civil)

theorem isValid_clock : x.clock.isValid = true := by
  unfold Clock.isValid clock
  simp only [Bool.and_eq_true, decide_eq_true_eq]
  exact ⟨⟨⟨x.date_valid, x.hour_le⟩, x.minute_le⟩, x.second_le⟩

theorem month_day_le : 1 ≤ x.date.month ∧ x.date.month ≤ 12 ∧ 1 ≤ x.date.day ∧ x.date.day ≤ 31 :=
  Date.month_day_of_isValid x.date_valid

theorem toInstant_clock (offset : Int) :
    x.clock.toInstant offset = { x.instant with seconds := x.instant.seconds - offset } := by
  have hsecond := x.second_le
  unfold Clock.toInstant instant clock
  dsimp only
  rw [Date.dayNumber_eq_count x.date_valid x.year_nonneg, ofFraction_eq x.digits]
  by_cases hleap : x.second = 60
  · simp only [hleap, if_true]
    rfl
  · have hmin : min x.second 59 = x.second := by omega
    simp only [hleap, if_false, hmin]

theorem toInstant_clock_zero : x.clock.toInstant 0 = x.instant := by
  rw [x.toInstant_clock, Int.sub_zero]

theorem text_append (mark : Char) (rest : List Char) :
    x.text mark ++ rest = padded 4 x.date.year.toNat ++ '-' :: (padded 2 x.date.month ++
      '-' :: (padded 2 x.date.day ++ mark :: (padded 2 x.hour ++ ':' :: (padded 2 x.minute ++
        ':' :: (padded 2 x.second ++ (pointed x.fraction ++ rest)))))) := by
  unfold text
  simp only [List.append_assoc, List.cons_append]

theorem readZoned_text {mark : Char} (hmark : mark = 'T' ∨ mark = 't' ∨ mark = ' ')
    {rest : List Char} (hrest : ∀ c ∈ rest.head?, c ≠ '.' ∧ isDigit c = false) :
    readZoned (x.text mark ++ rest) = (readOffset rest).bind fun (offset, left) =>
      if left = [] then some (x.clock.toInstant offset) else none := by
  obtain ⟨-, hmonth, -, hday⟩ := x.month_day_le
  have hyear := x.year_le
  have hhour := x.hour_le
  have hminute := x.minute_le
  have hsecond := x.second_le
  have hclock : (⟨⟨(x.date.year.toNat : Nat), x.date.month, x.date.day⟩, x.hour, x.minute,
      x.second, ofFraction x.fraction⟩ : Clock) = x.clock := by
    rw [Int.toNat_of_nonneg x.year_nonneg]
    rfl
  rw [x.text_append]
  unfold readZoned
  refine bind_of_eq_some (readExactly_padded (k := 3) (by omega) _) ?_
  refine bind_of_eq_some (readMark_cons _ _) ?_
  refine bind_of_eq_some (readExactly_padded (k := 1) (by omega) _) ?_
  refine bind_of_eq_some (readMark_cons _ _) ?_
  refine bind_of_eq_some (readExactly_padded (k := 1) (by omega) _) ?_
  refine (if_pos hmark).trans (bind_of_eq_some rfl ?_)
  refine bind_of_eq_some (readExactly_padded (k := 1) (by omega) _) ?_
  refine bind_of_eq_some (readMark_cons _ _) ?_
  refine bind_of_eq_some (readExactly_padded (k := 1) (by omega) _) ?_
  refine bind_of_eq_some (readMark_cons _ _) ?_
  refine bind_of_eq_some (readExactly_padded (k := 1) (by omega) _) ?_
  refine bind_of_eq_some (readFraction_pointed x.digits hrest) ?_
  dsimp only
  rw [hclock]
  simp only [x.isValid_clock, true_and]
  rfl

/-! ### Layouts -/

/-- The layout with white space between date and time of day. -/
def gapLayout : Layout := dateLayout ++ .gap :: (timeLayout ++ [.fraction])

/-- The layout with a letter between them. -/
def letterLayout : Layout := dateLayout ++ .mark 'T' :: (timeLayout ++ [.fraction])

theorem naiveLayouts_eq : naiveLayouts = gapLayout :: letterLayout :: naiveLayouts.drop 2 := rfl

theorem readFrom_date (c : Clock) (l : Layout) (rest : List Char) :
    (dateLayout ++ l).readFrom c (padded 4 x.date.year.toNat ++ '-' :: (padded 2 x.date.month ++
      '-' :: (padded 2 x.date.day ++ rest))) = l.readFrom { c with date := x.date } rest := by
  obtain ⟨-, hmonth, -, hday⟩ := x.month_day_le
  have hyear := x.year_le
  have hdate : (⟨(x.date.year.toNat : Nat), x.date.month, x.date.day⟩ : Date) = x.date := by
    rw [Int.toNat_of_nonneg x.year_nonneg]
  rw [readFrom_date_of_readExactly (readExactly_padded (k := 3) (by omega) _) (readMark_cons _ _)
    (readExactly_padded (k := 1) (by omega) _) (readMark_cons _ _)
    (readExactly_padded (k := 1) (by omega) _), hdate]

theorem readFrom_time (c : Clock) (l : Layout) (rest : List Char) :
    (timeLayout ++ l).readFrom c (padded 2 x.hour ++ ':' :: (padded 2 x.minute ++
      ':' :: (padded 2 x.second ++ rest))) =
      l.readFrom { c with hour := x.hour, minute := x.minute, second := x.second } rest := by
  have hhour := x.hour_le
  have hminute := x.minute_le
  have hsecond := x.second_le
  exact readFrom_time_of_readExactly (readExactly_padded (k := 1) (by omega) _) (readMark_cons _ _)
    (readExactly_padded (k := 1) (by omega) _) (readMark_cons _ _)
    (readExactly_padded (k := 1) (by omega) _) l c

theorem readFrom_fraction (c : Clock) :
    Layout.readFrom [.fraction] c (pointed x.fraction) =
      some ({ c with nanos := ofFraction x.fraction }, []) := by
  have hrest : ∀ c ∈ ([] : List Char).head?, c ≠ '.' ∧ isDigit c = false := nofun
  have hread := readFraction_pointed x.digits hrest
  rw [List.append_nil] at hread
  simp only [Layout.readFrom, Piece.read, hread, Option.map_some, Option.bind_eq_bind,
    Option.bind_some]

theorem read?_of_readFrom {l : Layout} {cs : List Char}
    (h : l.readFrom ⟨⟨0, 0, 0⟩, 0, 0, 0, 0⟩ cs = some (x.clock, [])) :
    l.read? cs = some (x.clock.toInstant 0) :=
  read?_eq_some.mpr ⟨x.clock, h, x.isValid_clock, rfl⟩

theorem read?_gapLayout : gapLayout.read? (x.text ' ') = some (x.clock.toInstant 0) := by
  have hblank : ∀ rest, trimStart (' ' :: rest) = trimStart rest :=
    fun rest => List.dropWhile_cons_of_pos (by decide)
  apply x.read?_of_readFrom
  unfold text gapLayout
  simp only [List.append_assoc, List.cons_append]
  rw [x.readFrom_date]
  simp only [Layout.readFrom, Piece.read, Option.bind_eq_bind, Option.bind_some, hblank]
  rw [trimStart_append_of_solid (solid_padded 2 x.hour), x.readFrom_time, x.readFrom_fraction]
  rfl

theorem read?_letterLayout : letterLayout.read? (x.text 'T') = some (x.clock.toInstant 0) := by
  apply x.read?_of_readFrom
  unfold text letterLayout
  simp only [List.append_assoc, List.cons_append]
  rw [x.readFrom_date]
  simp only [Layout.readFrom, Piece.read, Option.bind_eq_bind, Option.bind_some, readMark_cons,
    Option.map_some]
  rw [x.readFrom_time, x.readFrom_fraction]
  rfl

theorem read?_gapLayout_of_letter : gapLayout.read? (x.text 'T') = none :=
  read?_gap_of_letter x.read?_letterLayout

theorem findSome?_naiveLayouts {mark : Char} (hmark : mark = 'T' ∨ mark = ' ') :
    (naiveLayouts.findSome? fun l => l.read? (x.text mark)) = some (x.clock.toInstant 0) := by
  rw [naiveLayouts_eq]
  rcases hmark with rfl | rfl
  · rw [List.findSome?_cons, x.read?_gapLayout_of_letter, List.findSome?_cons,
      x.read?_letterLayout]
  · rw [List.findSome?_cons, x.read?_gapLayout]

/-! ### Texts -/

theorem trim_text (mark : Char) {zone : List Char} (hzone : ∀ c ∈ zone, isBlank c = false) :
    trim (x.text mark ++ zone) = x.text mark ++ zone := by
  have hfraction : ∀ c ∈ pointed x.fraction, isBlank c = false := by
    unfold pointed
    split
    · nofun
    · exact List.forall_mem_cons.mpr ⟨by decide, fun c hc => isBlank_of_isDigit (x.digits c hc)⟩
  have hend : Solid (padded 2 x.second ++ (pointed x.fraction ++ zone)) := by
    have hsecond := solid_padded 2 x.second
    refine ⟨List.append_ne_nil_of_left_ne_nil hsecond.ne_nil _, ?_⟩
    simp only [List.forall_mem_append]
    exact ⟨hsecond.solid, hfraction, hzone⟩
  have hends : ∃ middle, x.text mark ++ zone = padded 4 x.date.year.toNat ++ middle ++
      (padded 2 x.second ++ (pointed x.fraction ++ zone)) := by
    refine ⟨'-' :: (padded 2 x.date.month ++ '-' :: (padded 2 x.date.day ++ mark ::
      (padded 2 x.hour ++ ':' :: (padded 2 x.minute ++ [':'])))), ?_⟩
    rw [x.text_append]
    simp only [List.append_assoc, List.cons_append, List.nil_append]
  obtain ⟨middle, htext⟩ := hends
  rw [htext]
  exact trim_eq_self (solid_padded 4 _) hend

theorem read?_zoned {mark : Char} (hmark : mark = 'T' ∨ mark = 't' ∨ mark = ' ')
    {zone : List Char} {offset : Int} (h : Zone zone offset) :
    read? (String.ofList (x.text mark ++ zone)) =
      some { x.instant with seconds := x.instant.seconds - offset } := by
  unfold read? readWith?
  dsimp only
  rw [String.toList_ofList, x.trim_text mark h.not_blank, x.readZoned_text hmark h.head,
    readOffset_of_zone h, ← x.toInstant_clock]
  rfl

theorem read?_naive {mark : Char} (hmark : mark = 'T' ∨ mark = ' ') :
    read? (String.ofList (x.text mark)) = some x.instant := by
  have hzone : ∀ c ∈ ([] : List Char), isBlank c = false := nofun
  have hrest : ∀ c ∈ ([] : List Char).head?, c ≠ '.' ∧ isDigit c = false := nofun
  have htrim := x.trim_text mark hzone
  have hzoned := x.readZoned_text (hmark.imp_right .inr) hrest
  rw [List.append_nil] at htrim hzoned
  unfold read? readWith?
  dsimp only
  rw [String.toList_ofList, htrim, hzoned, ← x.toInstant_clock_zero]
  exact x.findSome?_naiveLayouts hmark

end Civil

/-! ## Times as they are written -/

theorem Clock.toInstant_ofInstant {t : Instant} (h : t.IsCivil) :
    (Clock.ofInstant t).toInstant 0 = t := by
  obtain ⟨seconds, nanos⟩ := t
  have hseconds := Instant.seconds_eq ⟨seconds, nanos⟩
  obtain ⟨hlow, hhigh⟩ := Instant.secondOfDay_bounds ⟨seconds, nanos⟩
  unfold Clock.toInstant Clock.ofInstant
  dsimp only at hseconds ⊢
  rw [Date.dayNumber_ofDayNumber]
  by_cases hleap : Instant.inLeapSecond ⟨seconds, nanos⟩ = true
  · have hsecond := h.secondOfDay hleap
    have hnanos : 1000000000 ≤ nanos := Instant.inLeapSecond_eq_true.mp hleap
    have hlast : (Instant.secondOfDay ⟨seconds, nanos⟩).toNat % 60 + 1 = 60 := by omega
    simp only [hleap, if_true, hlast, Instant.mk.injEq]
    omega
  · have hlast : (Instant.secondOfDay ⟨seconds, nanos⟩).toNat % 60 ≠ 60 := by omega
    simp only [hleap, Bool.false_eq_true, if_false, Nat.add_zero, hlast, Instant.mk.injEq, and_true]
    omega

theorem Clock.time_ofInstant_le (t : Instant) :
    (ofInstant t).hour ≤ 23 ∧ (ofInstant t).minute ≤ 59 ∧ (ofInstant t).second ≤ 60 := by
  obtain ⟨hlow, hhigh⟩ := t.secondOfDay_bounds
  have hleap : (if t.inLeapSecond then 1 else 0) ≤ 1 := by
    split <;> decide
  unfold ofInstant
  dsimp only
  omega

theorem Clock.nanos_ofInstant_lt {t : Instant} (h : t.IsCivil) :
    (ofInstant t).nanos < 1000000000 := by
  have hnanos := h.nanos_lt
  unfold ofInstant
  dsimp only
  split
  · omega
  · next hleap => exact Instant.inLeapSecond_eq_false.mp (eq_false_of_ne_true hleap)

/-- An instant in the years of four digits is the one that its own date and time of day spell. -/
theorem exists_civil {t : Instant} (h : t.IsCivil) (hmin : 0 ≤ (Clock.ofInstant t).date.year)
    (hmax : (Clock.ofInstant t).date.year ≤ 9999) :
    ∃ x : Civil, x.text 'T' = writeClock (Clock.ofInstant t) ∧ x.instant = t := by
  obtain ⟨hhour, hminute, hsecond⟩ := Clock.time_ofInstant_le t
  have hvalid : (Clock.ofInstant t).date.isValid = true :=
    Date.isValid_ofDayNumber (Int.le_trans (by decide) hmin) (Int.le_trans hmax (by decide))
  let x : Civil :=
    { date := (Clock.ofInstant t).date
      hour := (Clock.ofInstant t).hour
      minute := (Clock.ofInstant t).minute
      second := (Clock.ofInstant t).second
      fraction := fractionDigits (Clock.ofInstant t).nanos
      date_valid := hvalid
      year_nonneg := hmin
      year_le := hmax
      hour_le := hhour
      minute_le := hminute
      second_le := hsecond
      digits := isDigit_of_mem_fractionDigits _ }
  have hclock : x.clock = Clock.ofInstant t :=
    congrArg (Clock.mk _ _ _ _) (ofFraction_fractionDigits (Clock.nanos_ofInstant_lt h))
  have hinstant := x.toInstant_clock_zero
  rw [hclock, Clock.toInstant_ofInstant h] at hinstant
  refine ⟨x, ?_, hinstant.symm⟩
  unfold writeClock writeYear Civil.text
  rw [if_pos ⟨hmin, hmax⟩, pointed_fractionDigits]

theorem read?_write {t : Instant} (h : t.IsCivil) (hmin : 0 ≤ (Clock.ofInstant t).date.year)
    (hmax : (Clock.ofInstant t).date.year ≤ 9999) :
    read? (write t) = some t ∧ read? (writeWithOffset t) = some t := by
  obtain ⟨x, htext, hinstant⟩ := exists_civil h hmin hmax
  have hutc := x.read?_zoned (.inl rfl) (.utc 'Z' (.inl rfl))
  have hdigits := x.read?_zoned (.inl rfl) Zone.zero
  rw [htext, hinstant, Int.sub_zero] at hutc hdigits
  exact ⟨hutc, hdigits⟩

theorem read?_append {before after : String} (hbefore : AllBlank before.toList)
    (hafter : AllBlank after.toList) (text : String) :
    read? (before ++ text ++ after) = read? text := by
  unfold read? readWith?
  rw [String.toList_append, String.toList_append, trim_append hbefore hafter]

/-- A timestamp means the same instant in every spelling, with an offset or without. -/
theorem spellings_agree :
    (∀ x : Civil, ∀ mark ∈ ['T', 't', ' '], ∀ zone offset, Zone zone offset →
      read? (String.ofList (x.text mark ++ zone)) =
        some { x.instant with seconds := x.instant.seconds - offset }) ∧
    (∀ x : Civil, ∀ mark ∈ ['T', ' '],
      read? (String.ofList (x.text mark)) = some x.instant ∧
      read? (String.ofList (x.text mark ++ ['+', '0', '0', ':', '0', '0'])) = some x.instant) ∧
    (∀ before text after : String, AllBlank before.toList → AllBlank after.toList →
      read? (before ++ text ++ after) = read? text) ∧
    ∀ t : Instant, t.IsCivil → 0 ≤ (Clock.ofInstant t).date.year →
      (Clock.ofInstant t).date.year ≤ 9999 →
      read? (write t) = some t ∧ read? (writeWithOffset t) = some t := by
  refine ⟨fun x mark hmark zone offset hzone => ?_, fun x mark hmark => ?_,
    fun before text after hbefore hafter => read?_append hbefore hafter text,
    fun t h hmin hmax => read?_write h hmin hmax⟩
  · simp only [List.mem_cons, List.not_mem_nil, or_false] at hmark
    exact x.read?_zoned hmark hzone
  · simp only [List.mem_cons, List.not_mem_nil, or_false] at hmark
    have hzoned := x.read?_zoned (hmark.imp_right .inr) Zone.zero
    rw [Int.sub_zero] at hzoned
    exact ⟨x.read?_naive hmark, hzoned⟩

/-- Late on a leap day, with a fraction of ten digits. -/
def Civil.leapNight : Civil where
  date := ⟨2024, 2, 29⟩
  hour := 23
  minute := 30
  second := 5
  fraction := ['1', '2', '3', '4', '5', '6', '7', '8', '9', '9']
  date_valid := by decide
  year_nonneg := by decide
  year_le := by decide
  hour_le := by decide
  minute_le := by decide
  second_le := by decide
  digits := List.all_eq_true.mp rfl

/-- An hour behind UTC, the leap night lies in March already. -/
theorem leapNight_spelled :
    read? "2024-02-29T23:30:05.1234567899-01:00" = some ⟨1709253005, 123456789⟩ ∧
    read? "2024-02-29 23:30:05.1234567899" = some ⟨1709249405, 123456789⟩ ∧
    read? ("\n " ++ "2024-02-29 23:30:05.1234567899" ++ "\t") = some ⟨1709249405, 123456789⟩ ∧
    write ⟨1709253005, 123456789⟩ = "2024-03-01T00:30:05.123456789Z" ∧
    read? (write ⟨1709253005, 123456789⟩) = some ⟨1709253005, 123456789⟩ := by
  obtain ⟨hzoned, hnaive, hblank, hwritten⟩ := spellings_agree
  have hzone := Zone.behind '-' 1 0 (.inl rfl) (by decide) (by decide)
  have hbehind := hzoned .leapNight 'T' (by decide) _ _ hzone
  have hutc := (hnaive .leapNight ' ' (by decide)).1
  have hzonedText : String.ofList (Civil.leapNight.text 'T' ++ '-' :: (padded 2 1 ++
      ':' :: padded 2 0)) = "2024-02-29T23:30:05.1234567899-01:00" := by
    decide +kernel
  have hnaiveText :
      String.ofList (Civil.leapNight.text ' ') = "2024-02-29 23:30:05.1234567899" := by
    decide +kernel
  have hinstant : Civil.leapNight.instant = ⟨1709249405, 123456789⟩ := by
    rw [← Civil.toInstant_clock_zero]
    decide +kernel
  rw [hzonedText, hinstant] at hbehind
  rw [hnaiveText, hinstant] at hutc
  have hbefore : AllBlank "\n ".toList := List.all_eq_true.mp rfl
  have hafter : AllBlank "\t".toList := List.all_eq_true.mp rfl
  have hspaced := hblank "\n " "2024-02-29 23:30:05.1234567899" "\t" hbefore hafter
  have hagain := hwritten ⟨1709253005, 123456789⟩ (by decide) (by decide) (by decide)
  exact ⟨hbehind, hutc, hspaced.trans hutc, by decide +kernel, hagain.1⟩

end CivicForum.Timestamp
