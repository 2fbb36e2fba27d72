import ProxyMeter.Text.Utf8
/-!
# Text and its bytes
-/

namespace ProxyMeter.Text

private theorem toList_loop (bs : ByteArray) (i : Nat) (r : List UInt8) :
    ByteArray.toList.loop bs i r = r.reverse ++ bs.data.toList.drop i := by
  induction i, r using ByteArray.toList.loop.induct bs with
  | case1 i r inside ih =>
    have bound : i < bs.data.toList.length := inside
    have byte : bs.get! i = bs.data.toList[i] := by
      show bs.data[i]! = _
      rw [getElem!_pos bs.data i inside, Array.getElem_toList]
    rw [ByteArray.toList.loop, if_pos inside, ih, List.reverse_cons, List.append_assoc,
      List.drop_eq_getElem_cons bound, byte]
    rfl
  | case2 i r outside =>
    rw [ByteArray.toList.loop, if_neg outside, List.drop_of_length_le, List.append_nil]
    exact Nat.le_of_not_lt outside

/-- The bytes of a text, as an array. -/
theorem toArray_utf8 (s : String) : (utf8 s).toArray = s.toByteArray.data := by
  rw [utf8, ByteArray.toList, toList_loop]
  simp

/-- A text has as many bytes as it says. -/
theorem length_utf8 (s : String) : (utf8 s).length = s.utf8ByteSize := by
  rw [← List.size_toArray, toArray_utf8]
  rfl

/-- Only the empty text has no bytes. -/
theorem utf8_eq_nil_iff {s : String} : utf8 s = [] ↔ s = "" := by
  rw [← List.length_eq_zero_iff, length_utf8]
  simp

/-- Bytes are those of a text exactly if the text is read from them. -/
theorem ofUtf8?_eq_some_iff {bs : List UInt8} {s : String} :
    ofUtf8? bs = some s ↔ utf8 s = bs := by
  unfold ofUtf8? String.fromUTF8?
  constructor
  · intro h
    split at h
    · cases h
      rw [utf8, ByteArray.toList, toList_loop]
      rfl
    · cases h
  · intro h
    have bytes : (⟨bs.toArray⟩ : ByteArray) = s.toByteArray := by
      rw [← h, toArray_utf8]
    rw [bytes, dif_pos s.isValidUTF8]
    rfl

end ProxyMeter.Text
