import WorkflowCanvas.Web.Percent

/-! Encoding with percent signs is undone by decoding: a text without percent signs of its own is read
back from what it is encoded as, whichever characters are encoded. -/
namespace WorkflowCanvas.Percent
variable {c : Char} {cs : List Char} {cls : Char → Bool}

/-! ### Bytes -/

theorem toList_loop (bytes : List UInt8) (i : Nat) (acc : List UInt8) :
    ByteArray.toList.loop ⟨⟨bytes⟩⟩ i acc = acc.reverse ++ bytes.drop i := by
  have hsize : ByteArray.size ⟨⟨bytes⟩⟩ = bytes.length := rfl
  induction h : bytes.length - i generalizing i acc with
  | zero =>
    have hi : ¬i < bytes.length := by omega
    rw [ByteArray.toList.loop, hsize, if_neg hi, List.drop_of_length_le (by omega), List.append_nil]
  | succ n ih =>
    have hi : i < bytes.length := by omega
    have hget : ByteArray.get! ⟨⟨bytes⟩⟩ i = bytes[i] :=
      getElem!_pos (Array.mk bytes) i hi
    rw [ByteArray.toList.loop, hsize, if_pos hi, ih _ _ (by omega), hget, List.reverse_cons,
      List.append_assoc, List.singleton_append, List.drop_eq_getElem_cons hi]

theorem utf8_singleton (c : Char) :
    (String.singleton c).toUTF8.toList = String.utf8EncodeChar c := by
  have hbytes : (String.singleton c).toUTF8 = ⟨⟨String.utf8EncodeChar c⟩⟩ := by
    rw [String.toUTF8_eq_toByteArray, String.toByteArray_singleton, List.utf8Encode_singleton]
    exact ByteArray.ext List.data_toByteArray
  rw [ByteArray.toList, hbytes, toList_loop]
  rfl

/-! ### Decoding -/

theorem hexValue?_hexDigit : ∀ n < 16, Scan.hexValue? (hexDigit n) = some n := by decide

theorem bytes_cons_of_ne (h : c ≠ '%') :
    bytes (c :: cs) = String.utf8EncodeChar c ++ bytes cs := by
  rw [← utf8_singleton]
  exact bytes.eq_2 c cs fun _ _ _ heq => absurd heq h

/-- A byte that is written with a percent sign is read as it was. -/
theorem bytes_encoded (b : UInt8) (cs : List Char) :
    bytes ('%' :: hexDigit (b.toNat / 16) :: hexDigit (b.toNat % 16) :: cs) = b :: bytes cs := by
  have hb : b.toNat < 256 := b.toNat_lt
  have hnumber : Scan.hexNumber? [hexDigit (b.toNat / 16), hexDigit (b.toNat % 16)] =
      some b.toNat := by
    simp only [Scan.hexNumber?, List.foldl_cons, List.foldl_nil,
      hexValue?_hexDigit _ (show b.toNat / 16 < 16 by omega),
      hexValue?_hexDigit _ (show b.toNat % 16 < 16 by omega)]
    exact congrArg some (by omega)
  rw [bytes, hnumber]
  simp

theorem bytes_encodeChar (c : Char) (cs : List Char) :
    bytes (encodeChar c ++ cs) = String.utf8EncodeChar c ++ bytes cs := by
  rw [encodeChar, utf8_singleton]
  induction String.utf8EncodeChar c with
  | nil => rfl
  | cons b rest ih => exact (bytes_encoded b _).trans (congrArg (b :: ·) ih)

theorem bytes_encode (h : '%' ∉ cs) : bytes (encode cls cs) = cs.flatMap String.utf8EncodeChar := by
  induction cs with
  | nil => rfl
  | cons c cs ih =>
    obtain ⟨hc, hcs⟩ := not_or.mp (mt List.mem_cons.mpr h)
    rw [encode, List.flatMap_cons, ← encode, List.flatMap_cons, ← ih hcs]
    split
    · exact bytes_encodeChar c _
    · exact bytes_cons_of_ne (Ne.symm hc)

theorem decode?_encode (cls : Char → Bool) (h : '%' ∉ cs) : decode? (encode cls cs) = some cs := by
  have hbytes : (⟨(bytes (encode cls cs)).toArray⟩ : ByteArray) = cs.utf8Encode := by
    rw [bytes_encode h]
    exact ByteArray.ext List.data_toByteArray.symm
  have hvalid : cs.utf8Encode.IsValidUTF8 := ByteArray.isValidUTF8_utf8Encode
  rw [decode?, hbytes, String.fromUTF8?, dif_pos hvalid]
  exact congrArg some String.toList_ofList

end WorkflowCanvas.Percent
