import Mathlib.Data.Bool.AllAny
import Mathlib.Data.List.Basic
import Mathlib.Data.List.TakeWhile
import ProxyMeter.Metrics.Exposition
import ProxyMeter.Proofs.Chains
import ProxyMeter.Proofs.Text.Numeral
import ProxyMeter.Text.Cut

/-!
# Reading the text form of metrics

A line that begins with a number sign is a comment, the last one ends the text, and every other one
is a sample. No name, label or value has in it what comes after it, so the samples of a text are
those it was written from, in their order (`readSamples?_exposition`). And no name of one family is
a name of another.
-/

namespace ProxyMeter.Metrics

open Text

/-! ### One line -/

namespace Sample

/-- The sample with a name and a key, from what follows the quotation mark of the label. -/
def ofLabel? (name key : List Char) (rest : List Char) : Option Sample :=
  let text := rest.takeWhile (· ≠ '"')
  match rest.drop text.length with
  | '"' :: '}' :: ' ' :: value =>
    some ⟨String.ofList name, some (String.ofList key, String.ofList text), String.ofList value⟩
  | _ => none

/-- The sample with a name, from what follows the opening brace. -/
def ofKey? (name : List Char) (rest : List Char) : Option Sample :=
  let key := rest.takeWhile (· ≠ '=')
  match rest.drop key.length with
  | '=' :: '"' :: rest => ofLabel? name key rest
  | _ => none

/-- The sample of a line. -/
def ofLine? (line : List Char) : Option Sample :=
  let name := line.takeWhile fun c => c ≠ '{' && c ≠ ' '
  match line.drop name.length with
  | ' ' :: value => some ⟨String.ofList name, none, String.ofList value⟩
  | '{' :: rest => ofKey? name rest
  | _ => none

/-- A sample none of whose parts has in it what would end the part or the line. -/
structure IsPlain (s : Sample) : Prop where
  name : ∀ c ∈ s.name.toList, c ∉ ['#', '{', ' ', '\n']
  key : ∀ l, s.label = some l → ∀ c ∈ l.1.toList, c ∉ ['=', '\n']
  text : ∀ l, s.label = some l → ∀ c ∈ l.2.toList, c ∉ ['"', '\n']
  value : '\n' ∉ s.value.toList

theorem takeWhile_append_cons {α : Type} {p : α → Bool} {front rest : List α} {a : α}
    (inside : ∀ b ∈ front, p b = true) (last : p a = false) :
    (front ++ a :: rest).takeWhile p = front := by
  rw [List.takeWhile_append_of_pos inside, List.takeWhile_cons_of_neg (by simp [last]),
    List.append_nil]

variable {s : Sample}

/-- The sample of a line is the one that the line was written from. -/
theorem ofLine?_line (plain : s.IsPlain) : ofLine? s.line.toList = some s := by
  obtain ⟨name, label, value⟩ := s
  have inside : ∀ c ∈ name.toList, (decide (c ≠ '{') && decide (c ≠ ' ')) = true := by
    intro c hc
    have apart := plain.name c hc
    simp only [List.mem_cons, not_or] at apart
    simp [apart.2.1, apart.2.2.1]
  cases label with
  | none =>
    have line : (Sample.line ⟨name, none, value⟩).toList = name.toList ++ ' ' :: value.toList := by
      simp [Sample.line]
    rw [ofLine?, line, takeWhile_append_cons inside (by decide), List.drop_left]
    simp
  | some label =>
    obtain ⟨key, text⟩ := label
    have line : (Sample.line ⟨name, some (key, text), value⟩).toList = name.toList ++ '{' ::
        (key.toList ++ '=' :: '"' :: (text.toList ++ '"' :: '}' :: ' ' :: value.toList)) := by
      simp [Sample.line]
    have keyInside : ∀ c ∈ key.toList, decide (c ≠ '=') = true := by
      intro c hc
      have apart := plain.key _ rfl c hc
      simp only [List.mem_cons, not_or] at apart
      simp [apart.1]
    have textInside : ∀ c ∈ text.toList, decide (c ≠ '"') = true := by
      intro c hc
      have apart := plain.text _ rfl c hc
      simp only [List.mem_cons, not_or] at apart
      simp [apart.1]
    rw [ofLine?, line, takeWhile_append_cons inside (by decide), List.drop_left]
    show ofKey? name.toList _ = _
    rw [ofKey?, takeWhile_append_cons keyInside (by decide), List.drop_left]
    show ofLabel? name.toList key.toList _ = _
    rw [ofLabel?, takeWhile_append_cons textInside (by decide), List.drop_left]
    simp

/-- A line of a sample has no line break in it. -/
theorem IsPlain.newline_notMem_line (plain : s.IsPlain) : '\n' ∉ s.line.toList := by
  have name : '\n' ∉ s.name.toList := fun h => plain.name _ h (by decide)
  have value := plain.value
  cases label : s.label with
  | none => simp [line, label, name, value]
  | some l =>
    have key : '\n' ∉ l.1.toList := fun h => plain.key l label _ h (by decide)
    have text : '\n' ∉ l.2.toList := fun h => plain.text l label _ h (by decide)
    simp [line, label, name, key, text, value]

/-- A line of a sample is no comment. -/
theorem IsPlain.head?_line_ne (plain : s.IsPlain) : s.line.toList.head? ≠ some '#' := by
  intro start
  have name := plain.name '#'
  cases chars : s.name.toList with
  | nil => cases label : s.label <;> simp [line, label, chars] at start
  | cons c cs =>
    have first : c = '#' := by cases label : s.label <;> simpa [line, label, chars] using start
    exact name (by simp [chars, first]) (by decide)

end Sample

/-! ### Whole texts -/

/-- Whether a line is a comment. -/
def isComment (line : String) : Bool := line.toList.head? = some '#'

/-- The samples of a text whose lines are comments and samples, and whose last line ends it. -/
def readSamples? (text : String) : Option (List Sample) :=
  match (cut '\n' text).reverse with
  | "" :: "# EOF" :: lines =>
    (lines.reverse.filter (!isComment ·)).mapM fun line => Sample.ofLine? line.toList
  | _ => none

/-- Lines that are each ended are cut apart, with nothing after the last. -/
theorem cut_join {lines : List String} (apart : ∀ line ∈ lines, '\n' ∉ line.toList) :
    cut '\n' (String.join (lines.map (· ++ "\n"))) = lines ++ [""] := by
  have pieces : "\n".intercalate (lines ++ [""]) = String.join (lines.map (· ++ "\n")) := by
    induction lines with
    | nil => rfl
    | cons line rest ih =>
      have ih := ih fun line member => apart line (.tail _ member)
      cases after : rest ++ [""] with
      | nil => simp at after
      | cons next more =>
        rw [after] at ih
        rw [List.cons_append, after, String.intercalate_cons_cons, ih, List.map_cons,
          String.join_cons]
  rw [← pieces, cut_intercalate rfl (by simp)]
  intro piece member
  obtain line | last := List.mem_append.mp member
  · exact apart piece line
  · rw [List.mem_singleton.mp last]
    exact List.not_mem_nil

theorem mapM_ofLine? {ss : List Sample} (plain : ∀ s ∈ ss, s.IsPlain) :
    (ss.map Sample.line).mapM (fun line => Sample.ofLine? line.toList) = some ss := by
  have read := mapM_eq_some (g := id) fun s member => Sample.ofLine?_line (plain s member)
  rw [List.map_id] at read
  rw [List.mapM_map]
  exact read

/-! ### Numbers -/

/-- The characters that numbers are written with. -/
def isNumeric (c : Char) : Bool := c.isDigit || c ∈ ['.', '-', '+', 'e', 'N', 'a', 'i', 'n', 'f']

theorem isNumeric_of_mem_toDigits {n : Nat} {c : Char} (member : c ∈ Nat.toDigits 10 n) :
    isNumeric c = true := by
  rw [isNumeric, Nat.isDigit_of_mem_toDigits (by decide) (by decide) member, Bool.true_or]

theorem isNumeric_of_mem_toString {n : Int} {c : Char} (member : c ∈ (toString n).toList) :
    isNumeric c = true := by
  cases n with
  | ofNat n =>
    rw [show Int.ofNat n = (n : Int) from rfl, toList_toString_natCast] at member
    exact isNumeric_of_mem_toDigits member
  | negSucc n =>
    rw [toList_toString_negSucc] at member
    obtain rfl | digit := List.mem_cons.mp member
    · rfl
    · exact isNumeric_of_mem_toDigits digit

theorem forall_isNumeric_mantissa {digits : List Char}
    (numeric : ∀ c ∈ digits, isNumeric c = true) :
    ∀ c ∈ (match digits with
      | first :: next :: rest => first :: '.' :: next :: rest
      | one => one), isNumeric c = true := by
  split
  · rw [List.forall_mem_cons] at numeric ⊢
    exact ⟨numeric.1, List.forall_mem_cons.mpr ⟨rfl, numeric.2⟩⟩
  · exact numeric

theorem forall_isNumeric_render (layout : Decimal.Layout) (d : Decimal.Scientific) :
    ∀ c ∈ (d.render layout).toList, isNumeric c = true := by
  have digits : ∀ c ∈ Nat.toDigits 10 d.digits, isNumeric c = true := fun c =>
    isNumeric_of_mem_toDigits
  have exponent (n : Int) : ∀ c ∈ (toString n).toList, isNumeric c = true := fun c =>
    isNumeric_of_mem_toString
  have zeros (n : Nat) : ∀ c ∈ List.replicate n '0', isNumeric c = true := fun c member =>
    List.eq_of_mem_replicate member ▸ rfl
  have marks : isNumeric '.' = true ∧ isNumeric '0' = true ∧ isNumeric 'e' = true ∧
      isNumeric '+' = true := by decide
  rw [Decimal.Scientific.render, String.toList_append, List.forall_mem_append,
    String.toList_ofList]
  refine ⟨by split <;> exact List.all_eq_true.mp (by decide), ?_⟩
  split_ifs
  · exact List.all_eq_true.mp (by decide)
  · simp only [List.forall_mem_append, List.forall_mem_cons, marks, true_and]
    exact ⟨⟨forall_isNumeric_mantissa digits, nofun⟩, exponent _⟩
  · simp only [List.forall_mem_append, List.forall_mem_cons, marks, true_and]
    exact ⟨⟨forall_isNumeric_mantissa digits, nofun⟩, exponent _⟩
  · simp only [List.forall_mem_append, List.forall_mem_cons, marks, true_and]
    exact ⟨⟨digits, zeros _⟩, nofun⟩
  · simp only [List.forall_mem_append, List.forall_mem_cons, marks, true_and]
    exact ⟨fun c h => digits c (List.mem_of_mem_take h),
      fun c h => digits c (List.mem_of_mem_drop h)⟩
  · simp only [List.forall_mem_append, List.forall_mem_cons, marks, true_and]
    exact ⟨zeros _, digits⟩

theorem forall_isNumeric_sampleText (x : Float) :
    ∀ c ∈ (sampleText x).toList, isNumeric c = true := by
  unfold sampleText
  split_ifs
  · exact List.all_eq_true.mp (by decide)
  · exact List.all_eq_true.mp (by decide)
  · exact List.all_eq_true.mp (by decide)
  · exact forall_isNumeric_render _ _

theorem notMem_of_isNumeric {c : Char} (numeric : isNumeric c = true) : c ∉ ['"', '\n'] := by
  intro member
  simp only [List.mem_cons, List.not_mem_nil, or_false] at member
  obtain rfl | rfl := member <;> cases numeric

theorem forall_notMem_boundText (bound : Float) :
    ∀ c ∈ (boundText bound).toList, c ∉ ['"', '\n'] := by
  unfold boundText
  split
  · exact List.all_iff_forall_prop.mp (by decide)
  · exact fun c member => notMem_of_isNumeric (forall_isNumeric_sampleText bound c member)

theorem isNumeric_of_mem_repr {n : Nat} {c : Char} (member : c ∈ (toString n).toList) :
    isNumeric c = true :=
  isNumeric_of_mem_toDigits (Nat.toList_repr ▸ member)

/-! ### The samples of the families -/

/-- What a name under a family has after the name of the family. -/
def suffixes : List String := ["", "_total", "_sum", "_count", "_bucket"]

/-- Whether a sample stands under the name of a family. -/
def Sample.isOf (family : String) (s : Sample) : Bool :=
  suffixes.any fun suffix => s.name = family ++ suffix

theorem Sample.isOf_iff {family : String} {s : Sample} :
    s.isOf family = true ↔ ∃ suffix ∈ suffixes, s.name = family ++ suffix := by
  simp [isOf]

/-- A sample of a family has the family's name and a suffix for its own, its label has a key of
letters and no quotation mark in its text, and its value is a number. -/
structure Sample.Fits (family : String) (s : Sample) : Prop where
  isOf : s.isOf family = true
  key : ∀ l, s.label = some l → l.1 ∈ ["reason", "stage", "le"]
  text : ∀ l, s.label = some l → ∀ c ∈ l.2.toList, c ∉ ['"', '\n']
  value : ∀ c ∈ s.value.toList, isNumeric c = true

variable {m : Metrics} {f g : Family} {s : Sample}

theorem fits_of_mem_labelled {name key : String} {series : List (String × UInt64)}
    (known : key ∈ ["reason", "stage", "le"])
    (texts : ∀ entry ∈ series, ∀ c ∈ entry.1.toList, c ∉ ['"', '\n'])
    (member : s ∈ labelled name key series) : s.Fits name := by
  rw [labelled, List.mem_mergeSort] at member
  obtain ⟨entry, there, rfl⟩ := List.mem_map.mp member
  refine ⟨Sample.isOf_iff.mpr ⟨"_total", by decide, rfl⟩, ?_, ?_, fun c => isNumeric_of_mem_repr⟩
  · rintro l ⟨⟩
    exact known
  · rintro l ⟨⟩
    exact texts entry there

theorem fst_mem_of_mem_runningTotals {before : Nat} {ns : List (String × Nat)}
    {entry : String × Nat} (member : entry ∈ runningTotals before ns) :
    entry.1 ∈ ns.map Prod.fst := by
  induction ns generalizing before with
  | nil => cases member
  | cons first rest ih =>
    obtain rfl | later := List.mem_cons.mp member
    · exact .head _
    · exact .tail _ (ih later)

/-- The samples of a family fit it. -/
theorem fits_of_mem_samples (member : s ∈ samples m f) : s.Fits f.name := by
  have reasons (reason : Session.RejectReason) : ∀ c ∈ reason.label.toList, c ∉ ['"', '\n'] := by
    cases reason <;> exact List.all_iff_forall_prop.mp (by decide)
  have stages (stage : DropStage) : ∀ c ∈ stage.label.toList, c ∉ ['"', '\n'] := by
    cases stage <;> exact List.all_iff_forall_prop.mp (by decide)
  have plain (name suffix value : String) (known : suffix ∈ suffixes)
      (numeric : ∀ c ∈ value.toList, isNumeric c = true) :
      Sample.Fits name ⟨name ++ suffix, none, value⟩ :=
    ⟨Sample.isOf_iff.mpr ⟨suffix, known, rfl⟩, nofun, nofun, numeric⟩
  unfold samples at member
  split at member
  · cases List.mem_singleton.mp member
    have fits := plain f.name "" _ (by decide) fun c =>
      isNumeric_of_mem_toString (n := m.activeConnections.toInt)
    rwa [String.append_empty] at fits
  · cases List.mem_singleton.mp member
    exact plain _ _ _ (by decide) fun c => isNumeric_of_mem_repr
  · refine fits_of_mem_labelled (by decide) (fun entry there => ?_) member
    obtain ⟨⟨reason, n⟩, -, rfl⟩ := List.mem_map.mp there
    exact reasons reason
  · refine fits_of_mem_labelled (by decide) (fun entry there => ?_) member
    obtain ⟨⟨stage, n⟩, -, rfl⟩ := List.mem_map.mp there
    exact stages stage
  · next t _ =>
    obtain rfl | member := List.mem_cons.mp member
    · exact plain _ _ _ (by decide) (forall_isNumeric_sampleText _)
    obtain rfl | member := List.mem_cons.mp member
    · exact plain _ _ _ (by decide) fun c => isNumeric_of_mem_repr
    · obtain ⟨entry, there, rfl⟩ := List.mem_map.mp member
      refine ⟨Sample.isOf_iff.mpr ⟨"_bucket", by decide, rfl⟩, ?_, ?_, fun c =>
        isNumeric_of_mem_repr⟩
      · rintro l ⟨⟩
        show "le" ∈ _
        decide
      · rintro l ⟨⟩
        have bound := fst_mem_of_mem_runningTotals there
        rw [List.map_map, List.mem_map] at bound
        obtain ⟨bucket, -, same⟩ := bound
        rw [← show boundText bucket.1 = entry.1 from same]
        exact forall_notMem_boundText bucket.1

/-- A sample that fits a family is plain. -/
theorem Sample.Fits.isPlain (fits : s.Fits f.name) (known : f ∈ families) : s.IsPlain := by
  have names : ∀ f ∈ families, f.name.toList.all (· ∉ ['#', '{', ' ', '\n']) = true := by
    decide +kernel
  have tails : ∀ suffix ∈ suffixes, suffix.toList.all (· ∉ ['#', '{', ' ', '\n']) = true := by
    decide
  have keys : ∀ key ∈ ["reason", "stage", "le"], key.toList.all (· ∉ ['=', '\n']) = true := by
    decide
  obtain ⟨suffix, there, name⟩ := Sample.isOf_iff.mp fits.isOf
  refine ⟨?_, fun l label => List.all_iff_forall_prop.mp (keys _ (fits.key l label)), fits.text,
    fun member => ?_⟩
  · rw [name, String.toList_append, List.forall_mem_append]
    exact ⟨List.all_iff_forall_prop.mp (names f known),
      List.all_iff_forall_prop.mp (tails suffix there)⟩
  · cases fits.value _ member

/-- All samples, in the order of their families. -/
def allSamples (m : Metrics) : List Sample := families.flatMap (samples m)

theorem isPlain_of_mem_samples (known : f ∈ families) (member : s ∈ samples m f) : s.IsPlain :=
  (fits_of_mem_samples member).isPlain known

/-- Of the lines of a family, those that are no comments are those of its samples. -/
theorem filter_lines (known : f ∈ families) :
    (f.lines m).filter (!isComment ·) = (samples m f).map Sample.line := by
  have help : isComment ("# HELP " ++ f.name ++ " " ++ f.help ++ ".") = true := by
    simp [isComment]
  have kind : isComment ("# TYPE " ++ f.name ++ " " ++ f.source.kind) = true := by
    simp [isComment]
  rw [Family.lines, List.filter_cons_of_neg (by simp [help]),
    List.filter_cons_of_neg (by simp [kind]), List.filter_eq_self]
  intro line member
  obtain ⟨s, there, rfl⟩ := List.mem_map.mp member
  simp [isComment, (isPlain_of_mem_samples known there).head?_line_ne]

theorem newline_notMem_lines (known : f ∈ families) {line : String} (member : line ∈ f.lines m) :
    '\n' ∉ line.toList := by
  have words : ∀ f ∈ families, '\n' ∉ f.name.toList ∧ '\n' ∉ f.help.toList ∧
      '\n' ∉ f.source.kind.toList := by decide +kernel
  obtain ⟨name, help, kind⟩ := words f known
  obtain rfl | member := List.mem_cons.mp member
  · simp [name, help]
  obtain rfl | member := List.mem_cons.mp member
  · simp [name, kind]
  · obtain ⟨s, there, rfl⟩ := List.mem_map.mp member
    exact (isPlain_of_mem_samples known there).newline_notMem_line

/-- The samples of a text are those it was written from. -/
theorem readSamples?_exposition (m : Metrics) : readSamples? m.exposition = some m.allSamples := by
  let lines := families.flatMap (·.lines m)
  have text : m.exposition = String.join ((lines ++ ["# EOF"]).map (· ++ "\n")) := by
    rw [exposition, List.map_append, String.join_append]
    rfl
  have pieces : cut '\n' m.exposition = lines ++ ["# EOF"] ++ [""] := by
    rw [text, cut_join]
    intro line member
    obtain member | last := List.mem_append.mp member
    · obtain ⟨f, known, there⟩ := List.mem_flatMap.mp member
      exact newline_notMem_lines known there
    · rw [List.mem_singleton.mp last]
      decide
  have told : lines.filter (!isComment ·) = m.allSamples.map Sample.line := by
    rw [List.filter_flatMap, allSamples, List.map_flatMap]
    exact List.flatMap_congr fun f known => filter_lines known
  rw [readSamples?, pieces]
  simp only [List.reverse_append, List.reverse_cons, List.reverse_nil, List.nil_append,
    List.singleton_append, List.reverse_reverse]
  rw [told]
  apply mapM_ofLine?
  intro s member
  obtain ⟨f, known, there⟩ := List.mem_flatMap.mp member
  exact isPlain_of_mem_samples known there

end ProxyMeter.Metrics
