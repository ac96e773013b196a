import Mustache.Entries
import Mustache.Text.Pieces

namespace Mustache

/-! The payload of a pragma tag: keys with values, for the host to read. -/

abbrev Pragma := Entries String

namespace Pragma

/-- The key and the value of a piece. A piece without a colon is a key whose
value is empty; further colons belong to the value. -/
def entryOfPiece (piece : List Char) : String × String :=
  match Text.cut? ':' piece with
  | some (key, value) => (String.ofList key, String.ofList value)
  | none => (String.ofList piece, "")

/-- Pieces between commas, the empty ones left out. The last value of a key
counts, at the place of the first. Blank characters are kept. -/
def parse (payload : List Char) : Pragma :=
  Entries.ofPairs (((Text.pieces ',' payload).filter (!·.isEmpty)).map entryOfPiece)

example : parse "mode:a,strict,,mode:b:c".toList = [("mode", "b:c"), ("strict", "")] := by decide

end Pragma

end Mustache
