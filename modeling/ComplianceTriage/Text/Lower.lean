import ComplianceTriage.Text.CaseTable

/-!
# Lower-casing

Texts are compared without regard to case in two ways. Folding ASCII changes the letters `A` to `Z`
and nothing else. Lower-casing covers all of Unicode, and it is not a map on characters: `İ` becomes
two characters, and a capital sigma becomes `ς` where it ends a word and `σ` elsewhere, so its form
depends on the text on both sides of it.
-/

namespace ComplianceTriage.Text

/-- The text with `A` to `Z` in lower case. -/
def foldAscii (text : List Char) : List Char :=
  text.map Char.toLower

/-- Whether two texts differ at most in the case of ASCII letters. -/
def sameUpToAsciiCase (a b : String) : Bool :=
  foldAscii a.toList = foldAscii b.toList

/-- The lower-case form of one character, where the text around it does not matter. -/
def lowerChar (c : Char) : List Char :=
  if c.toNat < 128 then [c.toLower]
  -- The only character whose form has two characters.
  else if c = 'İ' then ['i', '\u0307']
  else
    match caseRuns.find? fun run => run.covers c.toNat with
    | some run => [Char.ofNat ((c.toNat : Int) + run.shift).toNat]
    | none => [c]

/-- Whether a text, after the characters that may stand inside a word, starts with a letter that
has case. -/
def startsCased (text : List Char) : Bool :=
  match text.dropWhile isCaseIgnorable with
  | [] => false
  | c :: _ => isCased c

/-- A word ends between two texts, of which the first is given back to front, if letters with case
precede and none follow. -/
def endsWord (reversedBefore after : List Char) : Bool :=
  startsCased reversedBefore && !startsCased after

/-- The lower-case form of a text that follows another, which is given back to front. -/
def lowerAfter (reversedBefore : List Char) : List Char → List Char
  | [] => []
  | c :: after =>
    -- The form of a sigma depends on the text on both sides; all other forms do not.
    let form :=
      if c = 'Σ' then [if endsWord reversedBefore after then 'ς' else 'σ'] else lowerChar c
    form ++ lowerAfter (c :: reversedBefore) after

/-- The lower-case form of a text. -/
def lower (text : List Char) : List Char :=
  lowerAfter [] text

/-- The lower-case form of a string. -/
def lowerString (s : String) : String :=
  String.ofList (lower s.toList)

end ComplianceTriage.Text
