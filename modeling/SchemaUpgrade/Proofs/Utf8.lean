import SchemaUpgrade.Text.Lines
/-!
# The bytes of a text

A text and its UTF-8 bytes determine each other (`Text.decodeUtf8_eq_some_iff`), and the bytes of an
ASCII character occur in them only where that character stands: every byte of any other character is
128 or more (`Text.toNat_of_mem_utf8EncodeChar`).  So line feeds and carriage returns can be sought
in the text or in its bytes alike.
-/

namespace SchemaUpgrade.Text

/-! ## Byte arrays as lists -/

theorem toList_loop (bytes : ByteArray) (i : Nat) (done : List UInt8) :
    ByteArray.toList.loop bytes i done = done.reverse ++ bytes.data.toList.drop i := by
  fun_induction ByteArray.toList.loop bytes i done with
  | case1 i done hi ih =>
    have hlength : i < bytes.data.toList.length := by simpa using hi
    have hget : bytes.get! i = bytes.data.toList[i] := by
      simp [ByteArray.get!, hi]
    rw [ih, List.drop_eq_getElem_cons hlength, hget]
    simp
  | case2 i done hi =>
    have hlength : bytes.data.toList.length ≤ i := by simpa using Nat.le_of_not_lt hi
    rw [List.drop_eq_nil_of_le hlength]
    simp

theorem toList_eq_data (bytes : ByteArray) : bytes.toList = bytes.data.toList := by
  rw [ByteArray.toList, toList_loop]
  rfl

/-! ## Encoding and decoding -/

/-- The UTF-8 bytes of a text. -/
def encode (text : String) : List UInt8 := text.toUTF8.toList

theorem encode_eq (text : String) : encode text = text.toList.flatMap String.utf8EncodeChar := by
  rw [encode, String.toUTF8_eq_toByteArray, ← String.utf8Encode_toList, toList_eq_data,
    List.utf8Encode, List.toList_data_toByteArray]

theorem decodeUtf8_eq_some_iff {bytes : List UInt8} {text : String} :
    decodeUtf8 bytes = some text ↔ encode text = bytes := by
  have hdata : encode text = bytes ↔ text.toByteArray = ⟨bytes.toArray⟩ := by
    rw [encode, toList_eq_data, String.toUTF8_eq_toByteArray]
    constructor
    · rintro rfl
      rfl
    · intro h
      rw [h]
  rw [hdata, decodeUtf8, String.fromUTF8?]
  split
  · rw [Option.some.injEq, ← String.toByteArray_inj]
    exact eq_comm
  · rename_i hinvalid
    constructor
    · intro h
      exact absurd h (by simp)
    · intro h
      exact absurd (h ▸ text.isValidUTF8) hinvalid

/-! ## ASCII characters -/

/-- The bytes of characters that take several of them carry a mark in their highest bits. -/
theorem le_toNat_marked (n : Nat) {width mark : Nat} (hwidth : 0 < width) (hmark : 128 ≤ mark)
    (hfits : mark + width ≤ 256) : 128 ≤ (UInt8.ofNat (n % width + mark)).toNat := by
  have hlt : n % width < width := Nat.mod_lt n hwidth
  have hsmall : n % width + mark < 256 := by omega
  rw [UInt8.toNat_ofNat', Nat.mod_eq_of_lt hsmall]
  omega

/-- A byte below 128 is the whole of its character. -/
theorem toNat_of_mem_utf8EncodeChar {c : Char} {byte : UInt8} (h : byte ∈ String.utf8EncodeChar c)
    (hbyte : byte.toNat < 128) : c.toNat = byte.toNat := by
  have hmarked {n width mark : Nat} (heq : byte = UInt8.ofNat (n % width + mark))
      (hwidth : 0 < width) (hmark : 128 ≤ mark) (hfits : mark + width ≤ 256) : False := by
    have hle := le_toNat_marked n hwidth hmark hfits
    rw [← heq] at hle
    omega
  rw [String.utf8EncodeChar] at h
  split at h
  · rename_i hascii
    have hcode : byte = UInt8.ofNat c.val.toNat := List.mem_singleton.1 h
    rw [hcode, UInt8.toNat_ofNat', Nat.mod_eq_of_lt (by omega)]
    rfl
  · exfalso
    simp only [apply_ite (byte ∈ ·), List.mem_cons, List.not_mem_nil, or_false] at h
    split at h
    · rcases h with h | h <;> exact hmarked h (by decide) (by decide) (by decide)
    · split at h
      · rcases h with h | h | h <;> exact hmarked h (by decide) (by decide) (by decide)
      · rcases h with h | h | h | h <;> exact hmarked h (by decide) (by decide) (by decide)

/-- The byte of an ASCII character. -/
theorem toNat_ascii {c : Char} (hc : c.toNat < 128) : (UInt8.ofNat c.toNat).toNat = c.toNat := by
  rw [UInt8.toNat_ofNat', Nat.mod_eq_of_lt (by omega)]

/-- The byte of an ASCII character is a byte of no other character. -/
theorem eq_of_mem_utf8EncodeChar {c other : Char} (hc : c.toNat < 128)
    (h : UInt8.ofNat c.toNat ∈ String.utf8EncodeChar other) : other = c := by
  have hbyte := toNat_ascii hc
  have hsame : other.toNat = c.toNat := by
    rw [toNat_of_mem_utf8EncodeChar h (by omega), hbyte]
  exact Char.toNat_inj.1 hsame

/-- An ASCII character stands in a text where its byte stands among the bytes of the text. -/
theorem mem_encode_iff {c : Char} (hc : c.toNat < 128) {text : String} :
    UInt8.ofNat c.toNat ∈ encode text ↔ c ∈ text.toList := by
  rw [encode_eq, List.mem_flatMap]
  constructor
  · rintro ⟨other, hother, hmem⟩
    rwa [← eq_of_mem_utf8EncodeChar hc hmem]
  · intro hmem
    have hsize : c.utf8Size = 1 := by
      rw [Char.utf8Size_eq_one_iff, UInt32.le_iff_toNat_le]
      exact Nat.le_of_lt_succ hc
    have hcode : String.utf8EncodeChar c = [c.val.toUInt8] :=
      String.utf8EncodeChar_eq_singleton hsize
    exact ⟨c, hmem, hcode ▸ List.mem_singleton.2 rfl⟩

/-- A text ends in an ASCII character if its bytes end in the byte of that character. -/
theorem getLast?_of_encode {c : Char} (hc : c.toNat < 128) {text : String}
    (h : (encode text).getLast? = some (UInt8.ofNat c.toNat)) : text.toList.getLast? = some c := by
  rw [encode_eq] at h
  cases hlast : text.toList.getLast? with
  | none =>
    rw [List.getLast?_eq_none_iff.1 hlast] at h
    exact absurd h (by simp)
  | some last =>
    obtain ⟨front, hfront⟩ := List.getLast?_eq_some_iff.1 hlast
    have hbytes : (String.utf8EncodeChar last).getLast? = some (UInt8.ofNat c.toNat) := by
      have hne : String.utf8EncodeChar last ≠ [] := String.utf8EncodeChar_ne_nil
      rw [hfront, List.flatMap_append, List.flatMap_singleton, List.getLast?_append,
        List.getLast?_eq_some_getLast hne, Option.some_or] at h
      rw [List.getLast?_eq_some_getLast hne, h]
    rw [eq_of_mem_utf8EncodeChar hc (List.mem_of_getLast? hbytes)]

end SchemaUpgrade.Text
