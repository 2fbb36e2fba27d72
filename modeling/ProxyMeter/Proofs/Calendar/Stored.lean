import ProxyMeter.Proofs.Calendar.Date
import ProxyMeter.Proofs.Calendar.Instant
import ProxyMeter.Proofs.Text.Order

/-!
# Stored texts in order

The text of an instant in a table has its date and time in numerals of fixed width, and a fraction
that ends after no, three, six or nine digits. What follows the fraction begins with a plus sign,
which is less than a point and less than any digit. So a fraction that has ended comes first, and
the texts are ordered as the instants, as long as the year has its four digits and no sign.
-/

namespace ProxyMeter.Calendar

open Text

namespace Instant

/-! ### Fractions -/

/-- Groups of three digits, those at the end left out that are zero, and the zone after them. -/
private def groups : List Nat → String
  | [] => "+00:00"
  | n :: rest => if ∀ m ∈ n :: rest, m = 0 then "+00:00" else padded 3 n ++ groups rest

private theorem not_lt_of_forall_eq_zero {ms ns : List Nat} (length : ms.length = ns.length)
    (zero : ∀ n ∈ ns, n = 0) : ¬ ms < ns := by
  induction ms generalizing ns with
  | nil =>
    rw [List.length_eq_zero_iff.mp length.symm]
    exact List.not_lt_nil _
  | cons m ms ih =>
    cases ns with
    | nil => exact List.not_lt_nil _
    | cons n ns =>
      have first : n = 0 := zero n (.head _)
      have rest : ¬ ms < ns := ih (by simpa using length) fun k hk => zero k (.tail _ hk)
      rw [List.cons_lt_cons_iff, first]
      rintro (h | ⟨-, h⟩)
      · exact Nat.not_lt_zero m h
      · exact rest h

private theorem groups_lt {ms ns : List Nat} (length : ms.length = ns.length)
    (hm : ∀ m ∈ ms, m < 1000) (hn : ∀ n ∈ ns, n < 1000) (less : ms < ns) :
    groups ms < groups ns := by
  induction ms generalizing ns with
  | nil =>
    rw [List.length_eq_zero_iff.mp length.symm] at less
    exact absurd less (List.not_lt_nil _)
  | cons m ms ih =>
    cases ns with
    | nil => simp at length
    | cons n ns =>
      have more : ¬ ∀ k ∈ n :: ns, k = 0 := fun zero =>
        not_lt_of_forall_eq_zero length zero less
      have rest : ms < ns → groups ms < groups ns :=
        ih (by simpa using length) (fun k hk => hm k (.tail _ hk)) fun k hk => hn k (.tail _ hk)
      rw [groups, groups, if_neg more]
      split
      · exact lt_padded_append rfl (by decide) 3 n _
      · apply padded_append_lt (by decide) (hm m (.head _)) (hn n (.head _))
        exact (List.cons_lt_cons_iff.mp less).imp id fun h => ⟨h.1, rest h.2⟩

private theorem fractionText_append (nanos : Nat) : fractionText nanos ++ "+00:00" =
    if nanos = 0 then "+00:00"
    else "." ++ groups [nanos / 1000000, nanos / 1000 % 1000, nanos % 1000] := by
  have six : padded (3 + 3) (nanos / 1000) =
      padded 3 (nanos / 1000000) ++ padded 3 (nanos / 1000 % 1000) := by
    rw [padded_add (by decide) (by decide), Nat.div_div_eq_div_mul]
    rfl
  have nine : padded (6 + 3) nanos = padded 6 (nanos / 1000) ++ padded 3 (nanos % 1000) :=
    padded_add (by decide) (by decide) nanos
  rw [fractionText]
  split_ifs with none three six'
  · rfl
  · have first : nanos / 1000000 ≠ 0 := by omega
    have second : nanos / 1000 % 1000 = 0 := by omega
    have third : nanos % 1000 = 0 := by omega
    simp [groups, first, second, third, String.append_assoc]
  · have second : nanos / 1000 % 1000 ≠ 0 := by omega
    have third : nanos % 1000 = 0 := by omega
    simp [groups, second, third, six, String.append_assoc]
  · have third : nanos % 1000 ≠ 0 := by omega
    simp [groups, third, six, nine, String.append_assoc]

/-- A fraction, with the zone after it, is ordered as its nanoseconds. -/
private theorem fractionText_lt {m n : Nat} (hn : n < second) (less : m < n) :
    fractionText m ++ "+00:00" < fractionText n ++ "+00:00" := by
  rw [second] at hn
  rw [fractionText_append, fractionText_append, if_neg (by omega : n ≠ 0)]
  split_ifs with none
  · rw [String.lt_iff_toList_lt, String.toList_append]
    exact List.cons_lt_cons_iff.mpr (.inl (by decide))
  · rw [append_lt_append_left]
    refine groups_lt (by rfl) ?_ ?_ ?_
    · simp only [List.mem_cons, List.not_mem_nil, or_false, forall_eq_or_imp, forall_eq]
      omega
    · simp only [List.mem_cons, List.not_mem_nil, or_false, forall_eq_or_imp, forall_eq]
      omega
    · simp only [List.cons_lt_cons_iff]
      omega

/-! ### Whole texts -/

private theorem field_lt {width m n : Nat} {mark s t : String} (h : 0 < width)
    (hm : m < 10 ^ width) (hn : n < 10 ^ width) (less : m < n ∨ m = n ∧ s < t) :
    padded width m ++ (mark ++ s) < padded width n ++ (mark ++ t) :=
  padded_append_lt h hm hn (less.imp_right fun h => ⟨h.1, (append_lt_append_left mark).mpr h.2⟩)

/-- The time of a day in seconds and nanoseconds, and the zone after it. -/
private def timeText (time nanos : Nat) : String :=
  padded 2 (time / 3600) ++ (":" ++ (padded 2 (time / 60 % 60) ++ (":" ++
    (padded 2 (time % 60 + if second ≤ nanos then 1 else 0) ++
      (fractionText (if second ≤ nanos then nanos - second else nanos) ++ "+00:00")))))

private theorem timeText_lt {s t m n : Nat} (hs : s < 86400) (ht : t < 86400)
    (clock : m < second ∨ s % 60 = 59 ∧ m < 2 * second)
    (clock' : n < second ∨ t % 60 = 59 ∧ n < 2 * second) (less : s < t ∨ s = t ∧ m < n) :
    timeText s m < timeText t n := by
  refine field_lt (by decide) (by omega) (by omega) ?_
  by_cases hour : s / 3600 = t / 3600
  · refine .inr ⟨hour, field_lt (by decide) (by omega) (by omega) ?_⟩
    by_cases minute : s / 60 % 60 = t / 60 % 60
    · refine .inr ⟨minute, padded_append_lt (by decide) ?_ ?_ ?_⟩
      · split_ifs <;> omega
      · split_ifs <;> omega
      · obtain sooner | ⟨rfl, shorter⟩ := less
        · -- Nothing but the leap second itself comes after a second 59.
          have early : m < second := by omega
          refine .inl ?_
          rw [if_neg (by omega)]
          omega
        · by_cases leap : second ≤ m
          · rw [if_pos leap, if_pos leap, if_pos (by omega), if_pos (by omega)]
            exact .inr ⟨rfl, fractionText_lt (by omega) (by omega)⟩
          · rw [if_neg leap, if_neg leap]
            by_cases leap' : second ≤ n
            · rw [if_pos leap']
              exact .inl (by omega)
            · rw [if_neg leap', if_neg leap']
              exact .inr ⟨rfl, fractionText_lt (by omega) shorter⟩
    · exact .inl (by omega)
  · exact .inl (by omega)

variable {a b : Instant}

private theorem stored_eq (digits : a.HasFourDigits) : a.stored =
    padded 4 (Date.ofDays (a.seconds / 86400)).year.toNat ++ ("-" ++
      (padded 2 (Date.ofDays (a.seconds / 86400)).month ++ ("-" ++
        (padded 2 (Date.ofDays (a.seconds / 86400)).day ++ ("T" ++
          timeText (a.seconds % 86400).toNat a.nanos))))) := by
  rw [HasFourDigits, year] at digits
  simp only [stored, renderWith, yearText, if_pos digits, timeText, String.append_assoc]

/-- The text of a later instant is greater. -/
theorem stored_lt_stored (clock : a.OnClock) (clock' : b.OnClock) (digits : a.HasFourDigits)
    (digits' : b.HasFourDigits) (less : ¬ b ≤ a) : a.stored < b.stored := by
  rw [stored_eq digits, stored_eq digits']
  obtain ⟨month, day⟩ := Date.ofDays_lt (a.seconds / 86400)
  obtain ⟨month', day'⟩ := Date.ofDays_lt (b.seconds / 86400)
  rw [OnClock] at clock clock'
  rw [HasFourDigits, year] at digits digits'
  rw [le_iff] at less
  refine field_lt (by decide) (by omega) (by omega) ?_
  by_cases days : a.seconds / 86400 = b.seconds / 86400
  · rw [days]
    simp only [append_lt_append_left]
    exact .inr ⟨trivial, timeText_lt (by omega) (by omega) (by omega) (by omega) (by omega)⟩
  · have before := Date.ofDays_before (lt_of_le_of_ne (by omega) days)
    obtain year | ⟨year, month | ⟨month, day⟩⟩ := before
    · exact .inl (by omega)
    · exact .inr ⟨by rw [year], field_lt (by decide) (by omega) (by omega) (.inl month)⟩
    · refine .inr ⟨by rw [year], field_lt (by decide) (by omega) (by omega) (.inr ⟨month, ?_⟩)⟩
      exact field_lt (by decide) (by omega) (by omega) (.inl day)

/-- The order of the texts is that of the instants. -/
theorem stored_le_stored_iff (clock : a.OnClock) (clock' : b.OnClock) (digits : a.HasFourDigits)
    (digits' : b.HasFourDigits) : a.stored ≤ b.stored ↔ a ≤ b := by
  constructor
  · intro h
    by_contra later
    exact absurd (stored_lt_stored clock' clock digits' digits later) (not_lt.mpr h)
  · intro h
    by_cases later : b ≤ a
    · exact Instant.le_antisymm h later ▸ le_refl a.stored
    · exact (stored_lt_stored clock clock' digits digits' later).le

/-- A year with a sign makes a text less than all those without. -/
theorem stored_lt_of_not_hasFourDigits (signed : ¬ a.HasFourDigits) (digits : b.HasFourDigits) :
    a.stored < b.stored := by
  rw [HasFourDigits, year] at signed
  rw [stored_eq digits, stored, renderWith, yearText, if_neg signed]
  by_cases negative : (Date.ofDays (a.seconds / 86400)).year < 0
  · rw [if_pos negative]
    exact lt_padded_append (by simp; rfl) (by decide : '-' < '0') 4 _ _
  · rw [if_neg negative]
    exact lt_padded_append (by simp; rfl) (by decide : '+' < '0') 4 _ _

/-- The years of later instants are not less. -/
theorem year_mono (h : a ≤ b) : a.year ≤ b.year := by
  rw [le_iff] at h
  exact Date.year_ofDays_mono (by omega)

/-- An earlier year is an earlier instant. -/
theorem le_of_year_lt (h : a.year < b.year) : a ≤ b := by
  obtain before | after := Instant.le_total a b
  · exact before
  · have years := year_mono after
    omega

/-- Before a plain text come those of the instants before it, and those of all years that are too
great for four digits. -/
theorem stored_le_iff_of_hasFourDigits (clock : a.OnClock) (clock' : b.OnClock)
    (digits : b.HasFourDigits) : a.stored ≤ b.stored ↔ a ≤ b ∨ 9999 < a.year := by
  by_cases plain : a.HasFourDigits
  · rw [stored_le_stored_iff clock clock' plain digits]
    have least : ¬ 9999 < a.year := not_lt.mpr plain.2
    simp [least]
  · have before := (stored_lt_of_not_hasFourDigits plain digits).le
    refine iff_of_true before ?_
    by_cases great : 9999 < a.year
    · exact .inr great
    · refine .inl (le_of_year_lt ?_)
      rw [HasFourDigits] at plain digits
      omega

/-- After a plain text come those of the instants after it, as long as their years have no more
than four digits. -/
theorem le_stored_iff_of_hasFourDigits (clock : a.OnClock) (clock' : b.OnClock)
    (digits : a.HasFourDigits) : a.stored ≤ b.stored ↔ a ≤ b ∧ b.year ≤ 9999 := by
  by_cases plain : b.HasFourDigits
  · rw [stored_le_stored_iff clock clock' digits plain]
    simp [plain.2]
  · have after := stored_lt_of_not_hasFourDigits plain digits
    refine iff_of_false (not_le.mpr after) ?_
    rintro ⟨before, few⟩
    have years := year_mono before
    rw [HasFourDigits] at plain digits
    omega

end Instant

/-- The texts between those of two instants are those of the instants between them. -/
theorem TimeRange.holds_iff_stored {r : TimeRange} {t : Instant} (plain : r.HasFourDigits)
    (clock : t.OnClock) :
    r.holds t = true ↔ r.start.stored ≤ t.stored ∧ t.stored ≤ r.stop.stored := by
  obtain ⟨start, stop, first, last⟩ := plain
  rw [holds_iff]
  by_cases digits : t.HasFourDigits
  · rw [Instant.stored_le_stored_iff start clock first digits,
      Instant.stored_le_stored_iff clock stop digits last]
  · constructor
    · intro h
      have least : r.start.year ≤ t.year := Instant.year_mono h.1
      have greatest : t.year ≤ r.stop.year := Instant.year_mono h.2
      rw [Instant.HasFourDigits] at *
      omega
    · intro h
      exact absurd (Instant.stored_lt_of_not_hasFourDigits digits first) (not_lt.mpr h.1)

/-- Of plain texts, those between the texts of a range are those of its instants, unless the range
ends in a year that is too great for four digits: then there are none. -/
theorem TimeRange.stored_mem_iff {r : TimeRange} {t : Instant} (forward : r.start ≤ r.stop)
    (start : r.start.OnClock) (stop : r.stop.OnClock) (clock : t.OnClock)
    (digits : t.HasFourDigits) : r.start.stored ≤ t.stored ∧ t.stored ≤ r.stop.stored ↔
      r.holds t = true ∧ r.stop.year ≤ 9999 := by
  rw [Instant.stored_le_iff_of_hasFourDigits start clock digits,
    Instant.le_stored_iff_of_hasFourDigits clock stop digits, holds_iff]
  have years := Instant.year_mono forward
  constructor
  · rintro ⟨first | great, last, few⟩
    · exact ⟨⟨first, last⟩, few⟩
    · omega
  · rintro ⟨⟨first, last⟩, few⟩
    exact ⟨.inl first, last, few⟩

end ProxyMeter.Calendar
