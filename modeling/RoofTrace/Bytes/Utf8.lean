import Mathlib.Data.List.Basic

/-!
# UTF-8

The bytes of a text, which are read as the text again. A byte below 128 is the byte of a character
of its own.
-/

namespace Utf8

/-- The bytes of a text. -/
def encode (s : String) : List UInt8 := s.toList.flatMap String.utf8EncodeChar

/-- The text of bytes that are valid. -/
def decode (bytes : List UInt8) : Option String := String.fromUTF8? bytes.toByteArray

@[simp] theorem encode_append (s t : String) : encode (s ++ t) = encode s ++ encode t := by
  rw [encode, String.toList_append, List.flatMap_append]
  rfl

theorem toByteArray_encode (s : String) : (encode s).toByteArray = s.toByteArray :=
  String.utf8Encode_toList

/-- The text is read from its bytes. -/
@[simp] theorem decode_encode (s : String) : decode (encode s) = some s := by
  rw [decode, toByteArray_encode, String.fromUTF8?, dif_pos s.isValidUTF8]
  rfl

/-- A byte below 128 is that of a character of its own. -/
theorem toNat_eq_of_mem {c : Char} {b : UInt8} (hb : b ∈ String.utf8EncodeChar c)
    (hascii : b.toNat < 128) :
  c.toNat = b.toNat
  := by
  have hlead : ∀ n k, 128 ≤ k → n + k < 256 → ¬ (UInt8.ofNat (n + k)).toNat < 128 := by
    intro n k hk hlt
    rw [UInt8.toNat_ofNat']
    omega
  unfold String.utf8EncodeChar at hb
  simp only at hb
  split_ifs at hb with h1 h2 h3 <;> simp only [List.mem_cons, List.not_mem_nil, or_false] at hb
  · subst hb
    rw [UInt8.toNat_ofNat']
    change c.val.toNat = c.val.toNat % 2 ^ 8
    omega
  · rcases hb with rfl | rfl <;> exact absurd hascii (hlead _ _ (by omega) (by omega))
  · rcases hb with rfl | rfl | rfl <;> exact absurd hascii (hlead _ _ (by omega) (by omega))
  · rcases hb with rfl | rfl | rfl | rfl <;> exact absurd hascii (hlead _ _ (by omega) (by omega))

/-- A text without a character does not have its byte. -/
theorem not_mem_encode {s : String} {c : Char} (hascii : c.toNat < 128) (h : c ∉ s.toList) :
  UInt8.ofNat c.toNat ∉ encode s
  := by
  intro hmem
  obtain ⟨d, hd, hb⟩ := List.mem_flatMap.mp hmem
  have hbyte : (UInt8.ofNat c.toNat).toNat = c.toNat := by
    rw [UInt8.toNat_ofNat']
    omega
  have hdc := toNat_eq_of_mem hb (by omega)
  rw [hbyte] at hdc
  obtain rfl : d = c := Char.toNat_inj.mp hdc
  exact h hd

theorem exists_byte (c : Char) : String.utf8EncodeChar c ≠ [] := by
  unfold String.utf8EncodeChar
  simp only
  split_ifs <;> exact List.cons_ne_nil _ _

/-- The first byte of a text is one of its first character. -/
theorem head?_encode {s : String} {b : UInt8} (h : b ∈ (encode s).head?) :
  ∃ c ∈ s.toList.head?, b ∈ String.utf8EncodeChar c
  := by
  rw [encode] at h
  cases hs : s.toList with
  | nil =>
      rw [hs] at h
      cases h
  | cons c cs =>
      obtain ⟨b', bytes, hbytes⟩ := List.exists_cons_of_ne_nil (exists_byte c)
      rw [hs, List.flatMap_cons, hbytes] at h
      cases h
      exact ⟨c, rfl, hbytes ▸ List.mem_cons_self⟩

/-- The last byte of a text is one of its last character. -/
theorem getLast?_encode {s : String} {b : UInt8} (h : b ∈ (encode s).getLast?) :
  ∃ c ∈ s.toList.getLast?, b ∈ String.utf8EncodeChar c
  := by
  rw [encode] at h
  obtain hs | ⟨cs, c, hs⟩ := List.eq_nil_or_concat s.toList
  · rw [hs] at h
    cases h
  · rw [hs, List.concat_eq_append, List.flatMap_append, List.flatMap_singleton,
      List.getLast?_append_of_ne_nil _ (exists_byte c)] at h
    refine ⟨c, ?_, List.mem_of_getLast? h⟩
    rw [hs, List.concat_eq_append, List.getLast?_concat]
    rfl

end Utf8
