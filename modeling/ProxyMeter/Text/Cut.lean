/-!
# Texts cut at a character

The pieces of a text between the places of a character, in their order; some may be empty.
-/

namespace ProxyMeter.Text

/-- The pieces of a text between the places of a character. -/
def cut (separator : Char) (text : String) : List String :=
  (text.toList.splitOn separator).map String.ofList

/-- The pieces joined with the character are the text. -/
theorem intercalate_cut (separator : Char) (text : String) :
    [separator].intercalate ((cut separator text).map String.toList) = text.toList := by
  have same : String.toList ∘ String.ofList = id := funext fun _ => String.toList_ofList
  rw [cut, List.map_map, same, List.map_id, List.intercalate_splitOn]

/-- No piece has the character in it. -/
theorem not_mem_of_mem_cut {separator : Char} {text piece : String}
    (h : piece ∈ cut separator text) : separator ∉ piece.toList := by
  have apart (cs : List Char) : ∀ piece ∈ cs.splitOn separator, separator ∉ piece := by
    induction cs with
    | nil => simp
    | cons c cs ih =>
      rw [List.splitOn_cons_eq_if_modifyHead]
      split
      · simpa using ih
      · next other =>
        cases pieces : cs.splitOn separator with
        | nil => simp
        | cons first rest =>
          rw [pieces, List.forall_mem_cons] at ih
          rw [List.modifyHead_cons, List.forall_mem_cons, List.mem_cons, not_or]
          exact ⟨⟨fun same => other (by simp [same]), ih.1⟩, ih.2⟩
  obtain ⟨cs, member, rfl⟩ := List.mem_map.mp h
  rw [String.toList_ofList]
  exact apart _ cs member

/-- Pieces that do not have the character in them are those of the text that they are joined to. -/
theorem cut_intercalate {separator : Char} {joint : String} (single : joint.toList = [separator])
    {pieces : List String} (some : pieces ≠ [])
    (apart : ∀ piece ∈ pieces, separator ∉ piece.toList) :
    cut separator (joint.intercalate pieces) = pieces := by
  have same : String.ofList ∘ String.toList = id := funext fun _ => String.ofList_toList
  rw [cut, String.toList_intercalate, single, List.splitOn_intercalate, List.map_map, same,
    List.map_id]
  · simpa using apart
  · simpa using some

/-- What holds of the characters of all pieces holds of all characters but the separators. -/
theorem forall_mem_cut_iff {separator : Char} {text : String} {P : Char → Prop} :
    (∀ piece ∈ cut separator text, ∀ c ∈ piece.toList, P c) ↔
      ∀ c ∈ text.toList, c = separator ∨ P c := by
  have apart (cs : List Char) : (∀ piece ∈ cs.splitOn separator, ∀ c ∈ piece, P c) ↔
      ∀ c ∈ cs, c = separator ∨ P c := by
    induction cs with
    | nil => simp
    | cons c cs ih =>
      rw [List.splitOn_cons_eq_if_modifyHead, List.forall_mem_cons, ← ih]
      split
      · next same => simp [show c = separator by simpa using same]
      · next other =>
        cases pieces : cs.splitOn separator with
        | nil => exact absurd pieces (List.splitOn_ne_nil _ _)
        | cons first rest =>
          have other : c ≠ separator := by simpa using other
          simp [other, and_assoc]
  rw [cut, List.forall_mem_map, ← apart]
  simp

end ProxyMeter.Text
