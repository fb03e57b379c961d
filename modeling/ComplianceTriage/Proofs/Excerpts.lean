import ComplianceTriage.Proofs.Tokens

/-!
# Nothing is read that is not written

Kind, name and namespace of a resource are parts of the message that names it, each in one piece
(`Excerpt`). More exactly they are parts of its detail, and the detail is all that decides on them:
what stands in front of the preamble's end and the blanks around are of no account. Where a shape
looks for brackets, what it reads is bounded by them, whatever other brackets stand around.

The detail is described here without the way in which it is found (`IsDetail`).
-/

namespace ComplianceTriage

namespace Text

/-- What is left of a text without the blanks around it. -/
structure TrimsTo (text left : List Char) : Prop where
  trimmed : Trimmed left
  around : ∃ front back, text = front ++ (left ++ back) ∧ (∀ c ∈ front, isBlank c = true) ∧
    ∀ c ∈ back, isBlank c = true

/-- Trimming finds what is left. -/
theorem trim_eq_iff {text left : List Char} : trim text = left ↔ TrimsTo text left := by
  constructor
  · rintro rfl
    obtain ⟨back, hback, hblanks⟩ := exists_trimEnd_append (trimStart text)
    refine ⟨trimmed_trim text, text.takeWhile isBlank, back, ?_, ?_, hblanks⟩
    · rw [trim, ← hback, trimStart, List.takeWhile_append_dropWhile]
    · exact List.all_eq_true.1 List.all_takeWhile
  · rintro ⟨htrimmed, front, back, rfl, hfront, hback⟩
    -- If nothing is left, the text is all blanks, and there is no place at which the trimming
    -- stops.
    by_cases hne : left = []
    · subst hne
      refine trim_eq_nil fun c hc => ?_
      rw [List.nil_append] at hc
      exact (List.mem_append.1 hc).elim (hfront c) (hback c)
    · have hstart : trimStart front = [] := List.dropWhile_eq_nil_iff.2 hfront
      rw [htrimmed.trim_between hne, hstart, trimEnd_eq_nil hback, List.nil_append,
        List.append_nil]

end Text

namespace Message

open Text

/-! ## The detail -/

/-- What the preamble leaves of a message: what stands behind its first end, or all of it. -/
inductive LeftBehind (message : List Char) : List Char → Prop where
  | preamble {front rest : List Char} (text : message = front ++ (preambleEnd ++ rest))
      (first : ∀ front' rest', message = front' ++ (preambleEnd ++ rest') →
        front.length ≤ front'.length) : LeftBehind message rest
  | nothing (free : ¬ preambleEnd <:+: message) : LeftBehind message message

/-- A text is the detail of a message if the preamble leaves it, but for the blanks around it. -/
def IsDetail (message text : List Char) : Prop :=
  ∃ rest, LeftBehind message rest ∧ TrimsTo rest text

/-- Cutting at the first end of the preamble finds what it leaves. -/
theorem withoutPreamble_eq_iff {message rest : List Char} :
    withoutPreamble message = rest ↔ LeftBehind message rest := by
  unfold withoutPreamble
  constructor
  -- Cutting at the first end decides which of the two cases it is.
  · rintro rfl
    split
    · next front rest hcut =>
      obtain ⟨htext, hfirst⟩ := splitFirst?_eq_some_iff.1 hcut
      exact .preamble htext hfirst
    · next hcut => exact .nothing (splitFirst?_eq_none.1 hcut)
  · rintro (⟨htext, hfirst⟩ | hfree)
    · rw [splitFirst?_eq_some_iff.2 ⟨htext, hfirst⟩]
    · rw [splitFirst?_eq_none.2 hfree]

/-- The detail that is found is the one described. -/
theorem detail_eq_iff {message text : List Char} :
    detail message = text ↔ IsDetail message text := by
  unfold detail IsDetail
  rw [trim_eq_iff]
  constructor
  · intro htrims
    exact ⟨_, withoutPreamble_eq_iff.1 rfl, htrims⟩
  · rintro ⟨rest, hleft, htrims⟩
    rw [withoutPreamble_eq_iff.2 hleft]
    exact htrims

/-! ## What the shapes read -/

/-- That kind and name are parts of a detail. -/
structure Naming.Within (named : Naming) (detail : List Char) : Prop where
  kind : named.kind <:+: detail
  name : named.name <:+: detail

/-- A kind behind a phrase is a part of what stands there. -/
theorem leadingKind_isInfix (text : List Char) : Shape.leadingKind text <:+: text := by
  unfold Shape.leadingKind
  split
  · next quotedKind => exact List.infix_cons (before_isPrefix _ quotedKind).isInfix
  · exact (trimOf_isInfix _ _).trans (before_isPrefix _ text).isInfix

/-- Behind a phrase, what is read is a part of the detail. -/
theorem readUnservedKind_within (detail : List Char) :
    (Shape.readUnservedKind detail).Within detail := by
  refine ⟨(leadingKind_isInfix _).trans ?_, List.nil_infix⟩
  cases hfound : unservedPhrases.findSome? fun phrase => splitFirst? phrase detail with
  | none => exact List.nil_infix
  | some parts =>
    obtain ⟨phrase, -, hcut⟩ := List.exists_of_findSome?_eq_some hfound
    -- What stands behind a phrase ends where the detail does.
    have hafter : parts.2 <:+ detail := ⟨parts.1 ++ phrase, (splitFirst?_eq_some hcut).symm⟩
    exact (List.dropWhile_suffix _).isInfix.trans hafter.isInfix

/-- What is read kind in brackets. -/
structure ReadsBracketed (detail kind name : List Char) : Prop where
  kind_free : ']' ∉ kind
  /-- If anything is read, the detail begins with the kind and the brackets around it. -/
  kind_bracketed : kind ≠ [] ∨ name ≠ [] → '[' :: (kind ++ [']']) <+: detail

/-- A kind in brackets and a name behind them are read as the shape says. -/
theorem readBracketedKind_spec {detail : List Char} (hhead : detail.head? = some '[') :
    (Shape.readBracketedKind detail).Within detail ∧
      ReadsBracketed detail (Shape.readBracketedKind detail).kind
        (Shape.readBracketedKind detail).name := by
  unfold Shape.readBracketedKind
  cases hcut : splitAtChar? ']' detail with
  | none => exact ⟨⟨List.nil_infix, List.nil_infix⟩, by simp, by simp⟩
  | some parts =>
    obtain ⟨front, rest⟩ := parts
    obtain ⟨rfl, hclose⟩ := splitAtChar?_eq_some.1 hcut
    cases front with
    -- The detail would start with the closing bracket.
    | nil => cases hhead
    | cons c kind =>
      obtain rfl : c = '[' := Option.some.inj hhead
      have hname : before isSpaceOrTab (trim rest) <:+: rest :=
        (before_isPrefix _ _).isInfix.trans (trim_isInfix rest)
      refine ⟨⟨⟨['['], ']' :: rest, by simp⟩, hname.trans ⟨'[' :: kind ++ [']'], [], by simp⟩⟩,
        fun hin => hclose (List.mem_cons_of_mem _ hin), fun _ => ⟨rest, by simp⟩⟩

/-- What is read kind first. -/
structure ReadsKindFirst (detail kind name : List Char) : Prop where
  kind_free : '[' ∉ kind
  name_free : ']' ∉ name
  /-- A name stands between the first opening bracket and the next closing one. -/
  name_bracketed : name ≠ [] → ∃ front rest, detail = front ++ '[' :: (name ++ ']' :: rest) ∧
    '[' ∉ front

/-- The word that a text begins with is where it begins. -/
theorem leadingWord_isPrefix (text : List Char) : Shape.leadingWord text <+: text := by
  unfold Shape.leadingWord
  split
  · exact List.nil_prefix
  · exact before_isPrefix _ text

/-- A kind in front and a name in brackets are read as the shape says. -/
theorem readKindFirst_spec {detail : List Char} (hhead : detail.head? ≠ some '[') :
    (Shape.readKindFirst detail).Within detail ∧
      ReadsKindFirst detail (Shape.readKindFirst detail).kind
        (Shape.readKindFirst detail).name := by
  unfold Shape.readKindFirst
  cases hopen : splitAtChar? '[' detail with
  | none =>
    -- Without an opening bracket the kind is a word, and there is no name.
    have hfree : '[' ∉ detail := splitAtChar?_eq_none.1 hopen
    have hword := leadingWord_isPrefix detail
    exact ⟨⟨hword.isInfix, List.nil_infix⟩, fun hin => hfree (hword.subset hin), by simp, by simp⟩
  | some parts =>
    obtain ⟨front, rest⟩ := parts
    obtain ⟨rfl, hfree⟩ := splitAtChar?_eq_some.1 hopen
    cases front with
    | nil => exact absurd rfl hhead
    | cons c front =>
      have hkind : trim (c :: front) <:+: (c :: front) ++ '[' :: rest :=
        (trim_isInfix _).trans (List.prefix_append _ _).isInfix
      -- The kind stands in front of the first bracket that opens.
      have hkindFree : '[' ∉ trim (c :: front) := fun hin => hfree ((trim_isInfix _).subset hin)
      dsimp only
      cases hclose : splitAtChar? ']' rest with
      | none => exact ⟨⟨hkind, List.nil_infix⟩, hkindFree, by simp, by simp⟩
      | some parts =>
        obtain ⟨name, behind⟩ := parts
        obtain ⟨rfl, hname⟩ := splitAtChar?_eq_some.1 hclose
        exact ⟨⟨hkind, ⟨c :: front ++ ['['], ']' :: behind, by simp⟩⟩, hkindFree, hname,
          fun _ => ⟨c :: front, behind, rfl, hfree⟩⟩

/-- A namespace is a part of the detail. -/
theorem nsIn_isInfix (detail : List Char) : nsIn detail <:+: detail := by
  unfold nsIn
  split
  · next front rest hcut =>
    have hrest : rest <:+ detail := ⟨front ++ nsMark, (splitFirst?_eq_some hcut).symm⟩
    exact (before_isPrefix _ rest).isInfix.trans hrest.isInfix
  · exact List.nil_infix

/-! ## What a message is read as -/

/-- That a resource is read out of a text, and nothing of it is made up. -/
structure Excerpt (text : List Char) (read : Resource) : Prop where
  kind : read.kind.toList <:+: text
  name : read.name.toList <:+: text
  ns : read.ns.toList <:+: text
  ns_solid : ∀ c ∈ read.ns.toList, isBlank c = false ∧ c ≠ ';' ∧ c ≠ ','
  /-- Behind a phrase for a kind that is not served no name is read. -/
  unserved : (∃ phrase ∈ unservedPhrases, phrase <:+: text) → read.name = ""
  kindFirst : (∀ phrase ∈ unservedPhrases, ¬ phrase <:+: text) → text.head? ≠ some '[' →
    ReadsKindFirst text read.kind.toList read.name.toList
  bracketed : (∀ phrase ∈ unservedPhrases, ¬ phrase <:+: text) → text.head? = some '[' →
    ReadsBracketed text read.kind.toList read.name.toList

/-- Whatever the shape is, kind and name are parts of the detail. -/
theorem naming_within (detail : List Char) : (naming detail).Within detail := by
  -- The shapes are tried in this order, and one of them claims every detail.
  cases hclaims : Shape.unservedKind.claims detail with
  | true =>
    rw [naming_eq_readUnservedKind hclaims]
    exact readUnservedKind_within detail
  | false =>
    by_cases hhead : detail.head? = some '['
    · rw [naming_eq_readBracketedKind hclaims hhead]
      exact (readBracketedKind_spec hhead).1
    · rw [naming_eq_readKindFirst hclaims hhead]
      exact (readKindFirst_spec hhead).1

/-- What is read out of a detail is an excerpt of it. -/
theorem excerpt_resourceOfDetail (detail : List Char) :
    Excerpt detail (resourceOfDetail detail) := by
  have hwithin := naming_within detail
  rw [resourceOfDetail_eq]
  constructor <;> simp only [String.toList_ofList]
  case kind => exact hwithin.kind
  case name => exact hwithin.name
  case ns => exact nsIn_isInfix detail
  case ns_solid => exact fun c => solid_of_mem_nsIn
  case unserved =>
    intro hunserved
    rw [naming_eq_readUnservedKind (claims_unservedKind_iff.2 hunserved)]
    rfl
  case kindFirst =>
    intro hserved hhead
    rw [naming_eq_readKindFirst (claims_unservedKind_eq_false hserved) hhead]
    exact (readKindFirst_spec hhead).2
  case bracketed =>
    intro hserved hhead
    rw [naming_eq_readBracketedKind (claims_unservedKind_eq_false hserved) hhead]
    exact (readBracketedKind_spec hhead).2

/-- What is read out of a message is an excerpt of its detail, and it is the same for every message
with this detail. -/
theorem resource_excerpt (message : String) :
    IsDetail message.toList (detail message.toList) ∧
      Excerpt (detail message.toList) (resource message) ∧
      ∀ other : String, IsDetail other.toList (detail message.toList) →
        resource other = resource message := by
  refine ⟨detail_eq_iff.1 rfl, excerpt_resourceOfDetail _, fun other hother => ?_⟩
  rw [resource, resource, detail_eq_iff.2 hother]

/-- A message with stray brackets, and another one with the same detail behind a preamble, which a
no-break space does not end. -/
theorem resource_excerpt_stray :
    let message := "pods ]x[a[b]c] in namespace ns-1;"
    let other := "violation -\u00a0[1] violation - pods ]x[a[b]c] in namespace ns-1;\n"
    IsDetail other.toList (detail message.toList) ∧ resource other = resource message ∧
      Excerpt (detail message.toList) (resource message) ∧
      resource message = ⟨"pods ]x", "a[b", "ns-1"⟩ := by
  intro message other
  -- Of the first `violation -` no space follows, so that the preamble ends behind the second one.
  have hdetail : detail other.toList = detail message.toList := by decide +kernel
  obtain ⟨-, hexcerpt, hsame⟩ := resource_excerpt message
  have hother : IsDetail other.toList (detail message.toList) := detail_eq_iff.1 hdetail
  exact ⟨hother, hsame other hother, hexcerpt, by decide +kernel⟩

end Message

end ComplianceTriage
