namespace Mustache.Text

/-! UTF-8 read with replacement: what is no character becomes U+FFFD, once for
each longest start of a character and once for each other byte. -/

def replacement : Char := '\uFFFD'

def encodeUtf8 (text : List Char) : List UInt8 :=
  text.flatMap String.utf8EncodeChar

/-- What a lead byte announces: the value of its own bits, the number of bytes
that follow, and the bounds of the first of these. -/
structure LeadByte where
  bits : Nat
  count : Nat
  low : Nat
  high : Nat

def leadByte? (byte : UInt8) : Option LeadByte :=
  let value := byte.toNat
  if value < 0x80 then some ⟨value, 0, 0, 0⟩
  else if value < 0xC2 then none
  else if value < 0xE0 then some ⟨value - 0xC0, 1, 0x80, 0xBF⟩
  else if value == 0xE0 then some ⟨0, 2, 0xA0, 0xBF⟩
  else if value == 0xED then some ⟨0xD, 2, 0x80, 0x9F⟩
  else if value < 0xF0 then some ⟨value - 0xE0, 2, 0x80, 0xBF⟩
  else if value == 0xF0 then some ⟨0, 3, 0x90, 0xBF⟩
  else if value < 0xF4 then some ⟨value - 0xF0, 3, 0x80, 0xBF⟩
  else if value == 0xF4 then some ⟨4, 3, 0x80, 0x8F⟩
  else none

/-- Read the bytes that follow a lead byte. The result is the code point, or
none if a byte is missing or out of its bounds, and the bytes not used. -/
def readFollowing (bits : Nat) : (count low high : Nat) → List UInt8 → Option Nat × List UInt8
  | 0, _, _, bytes => (some bits, bytes)
  | _ + 1, _, _, [] => (none, [])
  | count + 1, low, high, byte :: rest =>
    if low ≤ byte.toNat && byte.toNat ≤ high then
      readFollowing (bits * 64 + (byte.toNat - 0x80)) count 0x80 0xBF rest
    else (none, byte :: rest)

theorem length_readFollowing (bits count low high : Nat) (bytes : List UInt8) :
    (readFollowing bits count low high bytes).2.length ≤ bytes.length := by
  induction count generalizing bits low high bytes with
  | zero => simp [readFollowing]
  | succ count induction =>
    cases bytes with
    | nil => simp [readFollowing]
    | cons byte rest =>
      simp only [readFollowing]
      split
      · exact Nat.le_succ_of_le (induction _ _ _ rest)
      · simp

def decodeUtf8 (bytes : List UInt8) : List Char :=
  match bytes with
  | [] => []
  | byte :: rest =>
    match leadByte? byte with
    | none => replacement :: decodeUtf8 rest
    | some lead =>
      let following := readFollowing lead.bits lead.count lead.low lead.high rest
      let character := (following.1.map Char.ofNat).getD replacement
      character :: decodeUtf8 following.2
termination_by bytes.length
decreasing_by
  · simp
  · have := length_readFollowing lead.bits lead.count lead.low lead.high rest
    simp only [List.length_cons]
    omega

example : decodeUtf8 (encodeUtf8 "aé日😀".toList) = "aé日😀".toList := by decide +kernel

/-- A character that is cut off is replaced once. -/
example : decodeUtf8 [0xE2, 0x82, 0x78] = [replacement, 'x'] := by decide +kernel

/-- A surrogate is no character, so each of its bytes is replaced. -/
example : decodeUtf8 [0xED, 0xA0, 0x80] = [replacement, replacement, replacement] := by
  decide +kernel

end Mustache.Text
