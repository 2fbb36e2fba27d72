/-!
# Blank characters

The characters with the property White_Space, and the text between the first and the last
character without it.
-/

namespace ProxyMeter.Text

/-- The property White_Space, as ranges in ascending order. -/
def blankRanges : List (Nat × Nat) :=
  [(0x09, 0x0D), (0x20, 0x20), (0x85, 0x85), (0xA0, 0xA0), (0x1680, 0x1680), (0x2000, 0x200A),
    (0x2028, 0x2029), (0x202F, 0x202F), (0x205F, 0x205F), (0x3000, 0x3000)]

/-- Whether a character is blank. -/
def isBlank (c : Char) : Bool :=
  blankRanges.any fun r => r.1 ≤ c.toNat && c.toNat ≤ r.2

/-- A list without its blank characters at both ends. -/
def trimBlanks (cs : List Char) : List Char :=
  ((cs.dropWhile isBlank).reverse.dropWhile isBlank).reverse

/-- A text without its blank characters at both ends. -/
def trim (s : String) : String :=
  String.ofList (trimBlanks s.toList)

/-- Nothing is left of a list exactly if all its characters are blank. -/
theorem trimBlanks_eq_nil_iff {cs : List Char} :
    trimBlanks cs = [] ↔ ∀ c ∈ cs, isBlank c = true := by
  have nothing (cs : List Char) : cs.dropWhile isBlank = [] ↔ ∀ c ∈ cs, isBlank c = true := by
    induction cs with
    | nil => simp
    | cons c cs ih =>
      by_cases blank : isBlank c = true
      · simp [blank, ih]
      · simp [blank]
  rw [trimBlanks, List.reverse_eq_nil_iff, nothing]
  constructor
  · intro rest c member
    rw [← List.takeWhile_append_dropWhile (p := isBlank) (l := cs), List.mem_append] at member
    rcases member with first | later
    · exact List.all_eq_true.mp List.all_takeWhile c first
    · exact rest c (List.mem_reverse.mpr later)
  · intro blank c member
    exact blank c ((List.dropWhile_sublist _).subset (List.mem_reverse.mp member))

end ProxyMeter.Text
