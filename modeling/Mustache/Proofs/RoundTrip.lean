import Mustache.Proofs.Nesting

namespace Mustache

/-! Writing what was parsed. A template keeps its source to the last character:
the bodies of its tags with their blanks, and the marks around each of them. -/

namespace Template

theorem forestToChars_of_parse {name source : String} {template : Template}
    (parsed : parse name source = .ok template) :
    Node.forestToChars template.forest = source.toList := by
  rcases parse_eq_ok_iff.mp parsed with ⟨-, lexemes, spelled, -, spells⟩
  rw [Node.forestToChars_of_spelled spelled, spells]

theorem toSource_of_parse {name source : String} {template : Template}
    (parsed : parse name source = .ok template) : template.toSource = source := by
  rw [toSource, forestToChars_of_parse parsed, String.ofList_toList]

/-- The section is closed under other marks, which stay in force behind it. -/
theorem toSource_of_parse_moved_marks :
    (parse "page" "\x7b\x7b# a \x7d\x7d\x7b\x7b=| |=\x7d\x7dé|/ a||b|").map toSource =
      .ok "\x7b\x7b# a \x7d\x7d\x7b\x7b=| |=\x7d\x7dé|/ a||b|" := by
  have accepted :
      (parse "page" "\x7b\x7b# a \x7d\x7d\x7b\x7b=| |=\x7d\x7dé|/ a||b|").isOk = true := by
    decide +kernel
  cases parsed : parse "page" "\x7b\x7b# a \x7d\x7d\x7b\x7b=| |=\x7d\x7dé|/ a||b|" with
  | error fault =>
      rw [parsed] at accepted
      cases accepted
  | ok template => rw [Except.map, toSource_of_parse parsed]

end Template

end Mustache
