import ComplianceTriage.Text.Blank
import ComplianceTriage.Text.Search

/-!
# Resources named in a message

A status message says in free text which resource is not as the policy wants it. There is no
grammar; three shapes are known, and the first that claims a message reads it:

* `… no matches for kind "Kind" in version …`: an API kind that the cluster does not serve;
* `[kind] name …`;
* `kind [name] …`, or `kind …` without a name.

The namespace is read from wherever the message says `in namespace`, whichever shape it has. What
is not found reads as the empty text. All reading is done on the *detail* of a message, which is
what follows its preamble, without the blanks around it.
-/

namespace ComplianceTriage

/-- A resource as far as a message names it; a part that it does not name is empty. -/
structure Resource where
  kind : String
  name : String
  ns : String
deriving DecidableEq, Repr, Inhabited

/-- A text, unless it is empty. -/
def presence (s : String) : Option String :=
  if s = "" then none else some s

/-- What is present is the text itself, if it is not empty. -/
theorem presence_eq_some_iff {s t : String} : presence s = some t ↔ s ≠ "" ∧ s = t := by
  unfold presence
  by_cases h : s = "" <;> simp [h]

namespace Resource

/-- Nothing is named. -/
def unnamed : Resource := ⟨"", "", ""⟩

/-- The kind, if it is named. -/
def kind? (r : Resource) : Option String := presence r.kind

/-- The name, if it is given. -/
def name? (r : Resource) : Option String := presence r.name

/-- The namespace, if it is given. -/
def ns? (r : Resource) : Option String := presence r.ns

/-- Whether nothing is named. -/
def isUnnamed (r : Resource) : Bool := r = unnamed

end Resource

namespace Message

open Text

/-- What ends the preamble of a message. -/
def preambleEnd : List Char := "violation - ".toList

/-- What stands before a namespace. -/
def nsMark : List Char := "in namespace ".toList

/-- The phrases for a kind that the cluster does not serve. The kind, if given, comes next. -/
def unservedPhrases : List (List Char) :=
  ["no matches for kind".toList,
    "the server doesn't have a resource type".toList,
    "could not find the requested resource".toList]

/-- The message without its preamble. -/
def withoutPreamble (message : List Char) : List Char :=
  match splitFirst? preambleEnd message with
  | some (_, rest) => rest
  | none => message

/-- The part of a message that names a resource. -/
def detail (message : List Char) : List Char :=
  trim (withoutPreamble message)

/-- The shapes of a detail. -/
inductive Shape where
  | unservedKind
  | bracketedKind
  | kindFirst
deriving DecidableEq, Repr

/-- The kind and the name in a detail. -/
structure Naming where
  kind : List Char
  name : List Char
deriving DecidableEq, Repr

namespace Shape

/-- All shapes, the first to claim a detail first. -/
def all : List Shape := [unservedKind, bracketedKind, kindFirst]

/-- The name of a shape. -/
def label : Shape → String
  | unservedKind => "unserved-kind"
  | bracketedKind => "bracketed-kind"
  | kindFirst => "kind-first"

/-- Whether a detail has the shape. The last shape claims every detail. -/
def claims : Shape → List Char → Bool
  | unservedKind, detail => unservedPhrases.any fun phrase => occurs phrase detail
  | bracketedKind, detail => detail.head? = some '['
  | kindFirst, _ => true

/-- The characters that may surround an unquoted kind. -/
def isKindEdge (c : Char) : Bool :=
  c = '"' || c = ':' || c = ';' || c = ','

/-- The kind at the start of a text: between quotes, or up to the first blank. -/
def leadingKind (text : List Char) : List Char :=
  match text with
  | '"' :: quotedKind => before (· = '"') quotedKind
  | _ => trimOf isKindEdge (before isBlank text)

/-- Reads the kind after the first of the phrases, in their order, that occurs. The name is never
known. -/
def readUnservedKind (detail : List Char) : Naming :=
  let rest := (unservedPhrases.findSome? fun phrase => splitFirst? phrase detail).map fun parts =>
    trimStart parts.2
  ⟨leadingKind (rest.getD []), []⟩

/-- Reads `[kind] name …`. The name ends at the first space or tab. -/
def readBracketedKind (detail : List Char) : Naming :=
  match splitAtChar? ']' detail with
  | none => ⟨[], []⟩
  | some ([], _) => ⟨[], []⟩
  -- The first character is the opening bracket.
  | some (_ :: kind, rest) => ⟨kind, before isSpaceOrTab (trim rest)⟩

/-- The first word of a text, if a space or tab follows it. -/
def leadingWord (text : List Char) : List Char :=
  match since isSpaceOrTab text with
  | [] => []
  | _ => before isSpaceOrTab text

/-- Reads `kind [name] …`, and `kind …` where there is no bracket after the first character. -/
def readKindFirst (detail : List Char) : Naming :=
  match splitAtChar? '[' detail with
  | none => ⟨leadingWord detail, []⟩
  -- A bracket at the start encloses no name.
  | some ([], _) => ⟨leadingWord detail, []⟩
  | some (kind, rest) =>
    match splitAtChar? ']' rest with
    | none => ⟨trim kind, []⟩
    | some (name, _) => ⟨trim kind, name⟩

/-- Reads a detail that has the shape. -/
def read : Shape → List Char → Naming
  | unservedKind => readUnservedKind
  | bracketedKind => readBracketedKind
  | kindFirst => readKindFirst

end Shape

/-- What the first shape that claims the detail reads. -/
def naming (detail : List Char) : Naming :=
  match Shape.all.find? fun shape => shape.claims detail with
  | some shape => shape.read detail
  | none => ⟨[], []⟩

/-- The characters that end a namespace. -/
def endsNs (c : Char) : Bool :=
  isBlank c || c = ';' || c = ','

/-- The namespace after the first mark; empty if there is none. -/
def nsIn (detail : List Char) : List Char :=
  match splitFirst? nsMark detail with
  | some (_, rest) => before endsNs rest
  | none => []

/-- The resource that a detail names. -/
def resourceOfDetail (detail : List Char) : Resource :=
  if detail.isEmpty then .unnamed
  else
    let named := naming detail
    ⟨String.ofList named.kind, String.ofList named.name, String.ofList (nsIn detail)⟩

/-- The resource that a message names. -/
def resource (message : String) : Resource :=
  resourceOfDetail (detail message.toList)

/-- The first `limit` characters of a message, with three dots if any were cut off. -/
def truncate (message : String) (limit : Nat) : String :=
  let chars := message.toList
  if chars.length ≤ limit then message else String.ofList (chars.take limit ++ "...".toList)

end Message

end ComplianceTriage
