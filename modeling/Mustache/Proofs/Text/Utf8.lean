import Mathlib.Tactic.IntervalCases
import Mustache.Text.Utf8

namespace Mustache.Text

/-! Characters written as UTF-8 are read as themselves. What a lead byte announces leaves
out just the bytes that write no character: those with too many bytes, the surrogates, and
what lies behind the last code point. -/

theorem leadByte?_one {value : Nat} (small : value < 128) :
    leadByte? (UInt8.ofNat value) = some ⟨value, 0, 0, 0⟩ := by
  have same : (UInt8.ofNat value).toNat = value := by
    rw [UInt8.toNat_ofNat', Nat.mod_eq_of_lt (by omega)]
  rw [leadByte?, same, if_pos small]

theorem leadByte?_two {bits : Nat} (least : 2 ≤ bits) (small : bits < 32) :
    leadByte? (UInt8.ofNat (bits + 192)) = some ⟨bits, 1, 0x80, 0xBF⟩ := by
  interval_cases bits <;> rfl

theorem leadByte?_three {bits : Nat} (small : bits < 16) :
    leadByte? (UInt8.ofNat (bits + 224)) =
      some ⟨bits, 2, if bits = 0 then 0xA0 else 0x80, if bits = 13 then 0x9F else 0xBF⟩ := by
  interval_cases bits <;> rfl

theorem leadByte?_four {bits : Nat} (small : bits < 5) :
    leadByte? (UInt8.ofNat (bits + 240)) =
      some ⟨bits, 3, if bits = 0 then 0x90 else 0x80, if bits = 4 then 0x8F else 0xBF⟩ := by
  interval_cases bits <;> rfl

/-- The low six bits of a code point stand in a following byte. -/
theorem readFollowing_low {bits count low high value : Nat} (bound : value < 64)
    (above : low ≤ value + 128) (below : value + 128 ≤ high) (rest : List UInt8) :
    readFollowing bits (count + 1) low high (UInt8.ofNat (value + 128) :: rest) =
      readFollowing (bits * 64 + value) count 0x80 0xBF rest := by
  have same : (UInt8.ofNat (value + 128)).toNat = value + 128 := by
    rw [UInt8.toNat_ofNat', Nat.mod_eq_of_lt (by omega)]
  rw [readFollowing, same, if_pos (by simp [above, below]), Nat.add_sub_cancel]

theorem decodeUtf8_of_lead {byte : UInt8} {bits count low high : Nat} {rest behind : List UInt8}
    {character : Char} (announced : leadByte? byte = some ⟨bits, count, low, high⟩)
    (follows : readFollowing bits count low high rest = (some character.toNat, behind)) :
    decodeUtf8 (byte :: rest) = character :: decodeUtf8 behind := by
  rw [decodeUtf8, announced]
  simp only [follows, Option.map_some, Option.getD_some, Char.ofNat_toNat]

/-- Code points are those below the surrogates and those above them up to the last one. -/
theorem toNat_bounds (character : Char) :
    character.toNat < 0xD800 ∨ 0xDFFF < character.toNat ∧ character.toNat < 0x110000 :=
  character.valid

theorem decodeUtf8_encodeChar_append (character : Char) (rest : List UInt8) :
    decodeUtf8 (String.utf8EncodeChar character ++ rest) = character :: decodeUtf8 rest := by
  have bounds := toNat_bounds character
  have value : character.val.toNat = character.toNat := rfl
  simp only [String.utf8EncodeChar, value]
  split
  · next one =>
    exact decodeUtf8_of_lead (leadByte?_one (by omega)) rfl
  split
  · next beyond two =>
    rw [Nat.mod_eq_of_lt (by omega : character.toNat / 64 < 32), List.cons_append,
      List.cons_append, List.nil_append]
    refine decodeUtf8_of_lead (leadByte?_two (by omega) (by omega)) ?_
    rw [readFollowing_low (by omega) (by omega) (by omega), readFollowing]
    congr 2
    omega
  split
  · next beyond three =>
    rw [Nat.mod_eq_of_lt (by omega : character.toNat / 4096 < 16)]
    simp only [List.cons_append, List.nil_append]
    refine decodeUtf8_of_lead (leadByte?_three (by omega)) ?_
    rw [readFollowing_low (by omega) (by split <;> omega) (by split <;> omega),
      readFollowing_low (by omega) (by omega) (by omega), readFollowing]
    congr 2
    omega
  · next beyond =>
    rw [Nat.mod_eq_of_lt (by omega : character.toNat / 262144 < 8)]
    simp only [List.cons_append, List.nil_append]
    refine decodeUtf8_of_lead (leadByte?_four (by omega)) ?_
    rw [readFollowing_low (by omega) (by split <;> omega) (by split <;> omega),
      readFollowing_low (by omega) (by omega) (by omega),
      readFollowing_low (by omega) (by omega) (by omega), readFollowing]
    congr 2
    omega

theorem decodeUtf8_encodeUtf8 (text : List Char) : decodeUtf8 (encodeUtf8 text) = text := by
  induction text with
  | nil => rw [encodeUtf8, List.flatMap_nil, decodeUtf8]
  | cons character rest induction =>
      rw [encodeUtf8, List.flatMap_cons, decodeUtf8_encodeChar_append]
      exact congrArg (character :: ·) induction

/-- In a character of several bytes each has its highest bit. -/
theorem le_toNat_of_mem_encodeChar {character : Char} (long : 128 ≤ character.toNat) {byte : UInt8}
    (member : byte ∈ String.utf8EncodeChar character) : 128 ≤ byte.toNat := by
  have bounds := toNat_bounds character
  have value : character.val.toNat = character.toNat := rfl
  have high : ∀ number < 256, 128 ≤ number → 128 ≤ (UInt8.ofNat number).toNat := by
    intro number bound large
    rwa [UInt8.toNat_ofNat', Nat.mod_eq_of_lt bound]
  simp only [String.utf8EncodeChar, value] at member
  split at member
  · omega
  split at member
  · simp only [List.mem_cons, List.not_mem_nil, or_false] at member
    rcases member with rfl | rfl <;> exact high _ (by omega) (by omega)
  split at member
  · simp only [List.mem_cons, List.not_mem_nil, or_false] at member
    rcases member with rfl | rfl | rfl <;> exact high _ (by omega) (by omega)
  · simp only [List.mem_cons, List.not_mem_nil, or_false] at member
    rcases member with rfl | rfl | rfl | rfl <;> exact high _ (by omega) (by omega)

end Mustache.Text
