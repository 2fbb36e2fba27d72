import ProxyMeter.Proofs.Calendar.Strict

/-!
# Texts that are read leniently

The lenient reader takes the text of an instant in answers for the instant, whatever its year, as
long as the calendar has it (`parseLenient?_render`). Whatever else it takes, what it gives is an
instant that a clock shows in such a year.
-/

namespace ProxyMeter.Calendar

open Text

namespace Rfc3339

/-! ### What is read -/

/-- A zone has whole minutes. -/
theorem zone?_emod {cs rest : List Char} {shift : Int} (h : zone? cs = some (shift, rest)) :
    shift % 60 = 0 := by
  have numeric {shift : Int} {rest : List Char} (h : zone?.numeric? cs = some (shift, rest)) :
      shift % 60 = 0 := by
    unfold zone?.numeric? at h
    split at h
    · cases h
    · cases h
      rfl
    · cases h
      rfl
    · next s a b rest' _ _ =>
      dsimp only at h
      generalize (if s = '+' then some (1 : Int)
        else if s = '-' ∨ s = '−' then some (-1) else none) = sign at h
      split at h
      · simp only [Option.bind_eq_bind, Option.bind_eq_some_iff] at h
        obtain ⟨hours, -, minutes, -, direction, -, h⟩ := h
        split at h
        · cases h
          have whole : (60 : Int) ∣ (hours * 3600 + minutes * 60 : Nat) := by omega
          exact Int.emod_eq_zero_of_dvd (Int.dvd_trans whole (Int.dvd_mul_left direction _))
        · cases h
      · cases h
    · cases h
  unfold zone? at h
  split at h
  · split at h
    · cases h
      rfl
    · exact numeric h
  · exact numeric h

/-- An instant that a clock shows in a year that the calendar has. -/
structure IsRepresentable (a : Instant) : Prop where
  clock : a.OnClock
  year : isReachable a.year = true

theorem isRepresentable_of_ite {condition : Prop} [Decidable condition] {t a : Instant}
    (clock : t.OnClock) (year : condition → isReachable t.year = true)
    (h : (if condition then some t else none) = some a) : IsRepresentable a := by
  split at h
  · next holds =>
    cases h
    exact ⟨clock, year holds⟩
  · cases h

/-- What is read leniently is such an instant. -/
theorem isRepresentable_of_parseLenient? {s : String} {a : Instant}
    (h : parseLenient? s = some a) : IsRepresentable a := by
  unfold parseLenient? at h
  -- The cases are the reader's: the mark before the time of day, and whether a fraction follows.
  obtain ⟨⟨year, rest⟩, -, h⟩ := Option.bind_eq_some_iff.mp h
  obtain ⟨rest, -, h⟩ := Option.bind_eq_some_iff.mp h
  obtain ⟨⟨month, rest⟩, -, h⟩ := Option.bind_eq_some_iff.mp h
  obtain ⟨rest, -, h⟩ := Option.bind_eq_some_iff.mp h
  obtain ⟨⟨day, rest⟩, -, h⟩ := Option.bind_eq_some_iff.mp h
  dsimp only at h
  split at h
  · split at h
    · obtain ⟨rest, -, h⟩ := Option.bind_eq_some_iff.mp h
      obtain ⟨⟨hour, rest⟩, -, h⟩ := Option.bind_eq_some_iff.mp h
      obtain ⟨rest, -, h⟩ := Option.bind_eq_some_iff.mp h
      obtain ⟨⟨minute, rest⟩, -, h⟩ := Option.bind_eq_some_iff.mp h
      obtain ⟨rest, -, h⟩ := Option.bind_eq_some_iff.mp h
      obtain ⟨⟨second, rest⟩, -, h⟩ := Option.bind_eq_some_iff.mp h
      dsimp only at h
      split at h
      · next more =>
        split at h
        · cases h
        · obtain ⟨_, ⟨⟩, h⟩ := Option.bind_eq_some_iff.mp h
          obtain ⟨⟨shift, rest⟩, zone, h⟩ := Option.bind_eq_some_iff.mp h
          have bound : nanosOf ((more.takeWhile Char.isDigit).map byte) < Instant.second := by
            apply nanosOf_lt
            intro b member
            obtain ⟨c, digit, rfl⟩ := List.mem_map.mp member
            exact isDigit_byte (List.mem_takeWhile_imp digit)
          exact isRepresentable_of_ite (onClock_instantOf _ _ _ _ bound (zone?_emod zone))
            (fun ⟨_, _, _, _, _, year, _⟩ => year) h
      · obtain ⟨_, ⟨⟩, h⟩ := Option.bind_eq_some_iff.mp h
        obtain ⟨⟨shift, rest⟩, zone, h⟩ := Option.bind_eq_some_iff.mp h
        have bound : 0 < Instant.second := by decide
        exact isRepresentable_of_ite (onClock_instantOf _ _ _ _ bound (zone?_emod zone))
          (fun ⟨_, _, _, _, _, year, _⟩ => year) h
    · cases h
  · cases h

/-! ### What is written is read -/

section

variable {rest : List Char}

theorem dropWhile_isBlank_of_isDigit {c : Char} (digit : c.isDigit = true) (cs : List Char) :
    (c :: cs).dropWhile isBlank = c :: cs := by
  have visible : isBlank c = false := by
    rw [Bool.eq_false_iff]
    intro blank
    simp only [Char.isDigit, Bool.and_eq_true, decide_eq_true_eq] at digit
    have range : 48 ≤ c.toNat ∧ c.toNat ≤ 57 := digit
    simp only [isBlank, blankRanges, List.any_cons, List.any_nil, Bool.or_eq_true,
      Bool.and_eq_true, decide_eq_true_eq, Bool.false_eq_true, or_false] at blank
    omega
  simp [visible]

/-- Digits are read up to a character that is none, or as many as are asked for. -/
theorem number?_append {ds : List Char} {n most : Nat} (value : natural? ds = some n)
    (digit : ∀ c ∈ ds, c.isDigit = true) (length : ds.length = most) :
    number? most (ds ++ rest) = some (n, rest) := by
  obtain ⟨c, cs, rfl⟩ := List.exists_cons_of_ne_nil (natural?_eq_some_iff.mp value).1
  have all : (c :: cs).takeWhile Char.isDigit = c :: cs := by
    rw [List.takeWhile_eq_self_iff]
    exact digit
  rw [number?, List.cons_append, dropWhile_isBlank_of_isDigit (digit c (.head _)),
    ← List.cons_append, List.take_left' length, all]
  simp [value]

theorem number?_pair {n : Nat} (h : n < 100) : number? 2 (pair n ++ rest) = some (n, rest) := by
  rw [← toList_padded_two h]
  refine number?_append (natural?_padded 2 n) (fun c => isDigit_of_mem_padded) ?_
  rw [String.length_toList, length_padded (by decide) (by omega)]

theorem mark?_cons {c : Char} (visible : isBlank c = false) : mark? c (c :: rest) = some rest := by
  simp [mark?, visible]

/-- A year is read with its sign, up to the hyphen. -/
theorem year?_yearText (year : Int) :
    year? ((Instant.yearText year).toList ++ '-' :: rest) = some (year, '-' :: rest) := by
  have signed (n : Nat) : year?.signed? ((padded 4 n).toList ++ '-' :: rest) =
      some ((n : Int), '-' :: rest) := by
    have digits : ((padded 4 n).toList ++ '-' :: rest).takeWhile Char.isDigit =
        (padded 4 n).toList := by
      rw [List.takeWhile_append_of_pos fun c => isDigit_of_mem_padded]
      simp
    rw [year?.signed?, digits, natural?_padded]
    simp
  rw [Instant.yearText]
  split_ifs with four negative
  · obtain ⟨c, cs, begins⟩ := List.exists_cons_of_ne_nil
      (natural?_eq_some_iff.mp (natural?_padded 4 year.toNat)).1
    have digit : c.isDigit = true := isDigit_of_mem_padded (begins ▸ List.mem_cons_self)
    have unsigned : c ≠ '-' ∧ c ≠ '+' := by
      constructor <;> (rintro rfl; exact absurd digit (by decide))
    have number : number? 4 ((padded 4 year.toNat).toList ++ '-' :: rest) =
        some (year.toNat, '-' :: rest) := by
      refine number?_append (natural?_padded 4 _) (fun c => isDigit_of_mem_padded) ?_
      rw [String.length_toList, length_padded (by decide) (by omega)]
    rw [begins, List.cons_append] at number ⊢
    rw [year?, dropWhile_isBlank_of_isDigit digit]
    simp [unsigned, number, four.1]
  · have minus : isBlank '-' = false := by decide
    rw [String.toList_append, show "-".toList = ['-'] from rfl, List.cons_append, List.nil_append,
      List.cons_append, year?, List.dropWhile_cons_of_neg (by simp [minus])]
    simp only [signed, Option.map_some, show -(year.natAbs : Int) = year by omega]
  · have plus : isBlank '+' = false := by decide
    rw [String.toList_append, show "+".toList = ['+'] from rfl, List.cons_append, List.nil_append,
      List.cons_append, year?, List.dropWhile_cons_of_neg (by simp [plus])]
    simp only [signed, show (year.natAbs : Int) = year by omega]

end

/-- The text of an instant in answers is read leniently as the instant. -/
theorem parseLenient?_render {a : Instant} (h : IsRepresentable a) :
    parseLenient? a.render = some a := by
  have valid : (partsAt 0 a).date.isValid = true := Date.isValid_ofDays _
  have time := time_partsAt 0 a
  have nanos := nanos_partsAt h.clock 0
  have year : isReachable (partsAt 0 a).date.year = true := by
    rw [partsAt, Int.add_zero]
    exact h.year
  have instant : instantOf _ _ _ _ _ 0 = a := instant_spelling h.clock
  have chars := toList_text (s := spelling a) valid time
  rw [text_spelling, Parts.fields] at chars
  have fields := Date.isValid_iff.mp valid
  have days := monthLength_le (partsAt 0 a).date.year (partsAt 0 a).date.month
  have letter (shift : Int) : (zoneOf true shift).toList = ['Z'] := by simp [zoneOf]
  have zone : zone? (['Z'].dropWhile isBlank) = some (0, []) := by decide
  have blank : isBlank '-' = false ∧ isBlank ':' = false := by decide
  simp only [spelling] at chars instant
  rw [parseLenient?, chars]
  refine Option.bind_eq_some_iff.mpr ⟨(_, _), year?_yearText _, ?_⟩
  refine Option.bind_eq_some_iff.mpr ⟨_, mark?_cons blank.1, ?_⟩
  refine Option.bind_eq_some_iff.mpr ⟨(_, _), number?_pair (by omega), ?_⟩
  refine Option.bind_eq_some_iff.mpr ⟨_, mark?_cons blank.1, ?_⟩
  refine Option.bind_eq_some_iff.mpr ⟨(_, _), number?_pair (by omega), ?_⟩
  dsimp only
  rw [if_pos (.inl rfl)]
  refine Option.bind_eq_some_iff.mpr ⟨_, rfl, ?_⟩
  refine Option.bind_eq_some_iff.mpr ⟨(_, _), number?_pair (by omega), ?_⟩
  refine Option.bind_eq_some_iff.mpr ⟨_, mark?_cons blank.2, ?_⟩
  refine Option.bind_eq_some_iff.mpr ⟨(_, _), number?_pair (by omega), ?_⟩
  refine Option.bind_eq_some_iff.mpr ⟨_, mark?_cons blank.2, ?_⟩
  refine Option.bind_eq_some_iff.mpr ⟨(_, _), number?_pair (by omega), ?_⟩
  dsimp only
  have reachable := (congrArg (fun t : Instant => isReachable t.year) instant).trans h.year
  rw [letter]
  by_cases none : digitsOf (partsAt 0 a).nanos = 0
  · have zero : (partsAt 0 a).nanos = 0 := by
      rw [digitsOf] at none
      split_ifs at none
      assumption
    rw [zero] at instant reachable
    rw [none, show (fractionOf 0 (partsAt 0 a).nanos).toList = [] from rfl, List.nil_append]
    refine Option.bind_eq_some_iff.mpr ⟨(_, _), rfl, ?_⟩
    refine Option.bind_eq_some_iff.mpr ⟨(_, _), zone, ?_⟩
    exact (if_pos ⟨valid, year, time.1, time.2.1, time.2.2, reachable, rfl⟩).trans
      (congrArg some instant)
  · have inside : ((fractionDigits (digitsOf (partsAt 0 a).nanos) (partsAt 0 a).nanos) ++
        ['Z']).takeWhile Char.isDigit =
          fractionDigits (digitsOf (partsAt 0 a).nanos) (partsAt 0 a).nanos := by
      rw [List.takeWhile_append_of_pos fun c => isDigit_of_mem_fractionDigits]
      simp
    have value := nanosOf_fractionDigits none nanos (pow_digitsOf_dvd _)
    rw [toList_fractionOf none, List.cons_append]
    refine (if_neg (by simp [inside, fractionDigits_ne_nil])).trans ?_
    rw [inside, List.drop_left]
    refine Option.bind_eq_some_iff.mpr ⟨(_, _), rfl, ?_⟩
    refine Option.bind_eq_some_iff.mpr ⟨(_, _), zone, ?_⟩
    rw [← value] at instant reachable
    exact (if_pos ⟨valid, year, time.1, time.2.1, time.2.2, reachable, rfl⟩).trans
      (congrArg some instant)

end Rfc3339
end ProxyMeter.Calendar
