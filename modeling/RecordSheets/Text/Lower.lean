import RecordSheets.Text.CaseData
import RecordSheets.Text.Ranges

/-!
# Lower case

Full lower-casing of a text, without regard to language. Two characters are special: a capital I with a dot becomes two
characters, and a capital sigma that ends a word becomes the final form of the small letter.
-/

namespace RecordSheets.Text

/-- Tells whether a run holds a code point. -/
def CaseRun.holds (r : CaseRun) (n : Nat) : Bool := r.first ≤ n && n ≤ r.last && (n - r.first) % r.stride == 0

/-- The lower-case letter of one character, where it is a single character. -/
def lowerChar (c : Char) : Char :=
  match caseRuns.find? fun r => r.holds c.toNat with
  | some r => Char.ofNat ((c.toNat : Int) + r.shift).toNat
  | none => c

/-- Tells whether the first character that is not passed over has case. -/
def meetsCased (cs : List Char) : Bool :=
  match cs.dropWhile (inRanges passedRanges) with
  | [] => false
  | c :: _ => inRanges casedRanges c

/-- The lower case of the rest of a text, given the characters before it, nearest first. -/
def lowerAfter (before : List Char) : List Char → List Char
  | [] => []
  | c :: rest =>
    let small :=
      if c = 'Σ' then [if meetsCased before && !meetsCased rest then 'ς' else 'σ']
      else if c = 'İ' then ['i', Char.ofNat 0x307]
      else [lowerChar c]
    small ++ lowerAfter (c :: before) rest

/-- The lower case of a text. -/
def lower (s : String) : String := String.ofList (lowerAfter [] s.toList)

end RecordSheets.Text
