import SchemaLedger.Text.Utf8

namespace SchemaLedger

theorem bytes_toList (bytes : ByteArray) : bytes.toList = bytes.data.toList := by
  have loop (i : Nat) (read : List UInt8) :
      ByteArray.toList.loop bytes i read = read.reverse ++ bytes.data.toList.drop i := by
    fun_induction ByteArray.toList.loop bytes i read with
    | case1 i read inside ih =>
      have bound : i < bytes.data.toList.length := inside
      have byte : bytes.get! i = bytes.data.toList[i] := getElem!_pos bytes.data i inside
      rw [ih, List.drop_eq_getElem_cons bound, byte, List.reverse_cons, List.append_assoc,
        List.singleton_append]
    | case2 i read outside =>
      have bound : bytes.data.toList.length ≤ i := Nat.not_lt.1 outside
      rw [List.drop_eq_nil_of_le bound, List.append_nil]
  exact loop 0 []

/-- Different texts have different bytes. -/
theorem Utf8.encode_injective {a b : String} (same : encode a = encode b) : a = b := by
  rw [encode, encode, bytes_toList, bytes_toList] at same
  have data := ByteArray.ext (Array.toList_inj.1 same)
  rwa [String.toUTF8_eq_toByteArray, String.toUTF8_eq_toByteArray, String.toByteArray_inj] at data

theorem Utf8.encode_empty : encode "" = [] := by
  rw [encode, bytes_toList]
  rfl

theorem Utf8.encode_append (a b : String) : encode (a ++ b) = encode a ++ encode b := by
  simp only [encode, bytes_toList, String.toUTF8_eq_toByteArray, String.toByteArray_append,
    ByteArray.data_append, Array.toList_append]

end SchemaLedger
