import ComplianceTriage.Message.Resource

/-!
# Messages that name a resource

Reading a message undoes writing it. A message of the shape `kind [name] …` is a kind and a name
with free text behind them, and a preamble may stand in front. The reader knows none of these parts:
it cuts the message at the first preamble and the first brackets, and trims what it gets. It finds
the kind and the name again (`resource_kindFirst`) where neither could be cut elsewhere (`Fits`) and
no phrase in the detail claims it for another shape.
-/

namespace ComplianceTriage.Message

open Text

/-- What stands behind the end of the first preamble is the detail. -/
theorem detail_of_preamble {preamble : List Char} (h : ¬ preambleEnd <:+: preamble)
    (text : List Char) : detail (preamble ++ (preambleEnd ++ text)) = trim text := by
  have hcut : splitFirst? preambleEnd (preamble ++ (preambleEnd ++ text)) =
      some (preamble, text) := splitFirst?_append (by decide) h text
  unfold detail withoutPreamble
  rw [hcut]

/-- An empty detail has no kind, no name and no namespace, as its shapes read it. -/
theorem resourceOfDetail_eq (detail : List Char) :
    resourceOfDetail detail =
      ⟨String.ofList (naming detail).kind, String.ofList (naming detail).name,
        String.ofList (nsIn detail)⟩ := by
  cases detail with
  | nil => rfl
  | cons c rest => rfl

/-- A detail tells of a kind that is not served if one of the phrases for this occurs in it. -/
theorem claims_unservedKind_iff {detail : List Char} :
    Shape.unservedKind.claims detail = true ↔ ∃ phrase ∈ unservedPhrases, phrase <:+: detail := by
  simp only [Shape.claims, List.any_eq_true, occurs_iff]

/-- A detail without these phrases is left to the shapes with brackets. -/
theorem claims_unservedKind_eq_false {detail : List Char}
    (hserved : ∀ phrase ∈ unservedPhrases, ¬ phrase <:+: detail) :
    Shape.unservedKind.claims detail = false := by
  rw [Bool.eq_false_iff, Ne, claims_unservedKind_iff]
  rintro ⟨phrase, hphrase, hoccurs⟩
  exact hserved phrase hphrase hoccurs

/-- So it is when it is trimmed. -/
theorem claims_unservedKind_trim {detail : List Char}
    (hserved : ∀ phrase ∈ unservedPhrases, ¬ phrase <:+: detail) :
    Shape.unservedKind.claims (trim detail) = false :=
  claims_unservedKind_eq_false fun phrase hphrase hoccurs =>
    hserved phrase hphrase (hoccurs.trans (trim_isInfix detail))

/-- A detail with a phrase is read in the shape of the phrases. -/
theorem naming_eq_readUnservedKind {detail : List Char}
    (hunserved : Shape.unservedKind.claims detail = true) :
    naming detail = Shape.readUnservedKind detail := by
  unfold naming Shape.all
  rw [List.find?_cons, hunserved]
  rfl

/-- Of those without, one that does not start with a bracket is read kind first. -/
theorem naming_eq_readKindFirst {detail : List Char}
    (hunserved : Shape.unservedKind.claims detail = false)
    (hhead : detail.head? ≠ some '[') : naming detail = Shape.readKindFirst detail := by
  have hbracketed : Shape.bracketedKind.claims detail = false := decide_eq_false hhead
  unfold naming Shape.all
  rw [List.find?_cons, hunserved, List.find?_cons, hbracketed]
  rfl

/-- Reading kind first finds what stands before the first bracket, and what the bracket encloses. -/
theorem readKindFirst_append {kind name : List Char} (hkind : kind ≠ []) (hopen : '[' ∉ kind)
    (hclose : ']' ∉ name) (rest : List Char) :
    Shape.readKindFirst (kind ++ '[' :: (name ++ ']' :: rest)) = ⟨trim kind, name⟩ := by
  -- Both brackets are found where they first occur.
  have hcut : splitAtChar? '[' (kind ++ '[' :: (name ++ ']' :: rest)) =
      some (kind, name ++ ']' :: rest) := splitAtChar?_eq_some.2 ⟨rfl, hopen⟩
  have hcut' : splitAtChar? ']' (name ++ ']' :: rest) = some (name, rest) :=
    splitAtChar?_eq_some.2 ⟨rfl, hclose⟩
  unfold Shape.readKindFirst
  rw [hcut]
  cases kind with
  | nil => exact absurd rfl hkind
  | cons c kind => simp only [hcut']

/-! ## The shape `kind [name] …` -/

/-- A kind and a name that can be written in the shape `kind [name] …` and cut out again. -/
structure Fits (kind name : String) : Prop where
  kind_ne : kind ≠ ""
  /-- The kind has no blanks at its ends. -/
  kind_trimmed : Trimmed kind.toList
  kind_open : '[' ∉ kind.toList
  name_ne : name ≠ ""
  name_close : ']' ∉ name.toList

/-- A detail of the shape `kind [name] …`, with what follows the bracket. -/
def kindFirst (kind name rest : String) : String :=
  kind ++ " [" ++ name ++ "]" ++ rest

/-- The characters of a text with its kind in front, part by part. -/
theorem toList_kindFirst (kind name rest : String) :
    (kindFirst kind name rest).toList =
      (kind.toList ++ [' ']) ++ '[' :: (name.toList ++ ']' :: rest.toList) := by
  simp [kindFirst, String.toList_append]

section

variable {kind name : String}

/-- A kind that fits is not empty. -/
theorem Fits.toList_ne (h : Fits kind name) : kind.toList ≠ [] := by
  simpa using h.kind_ne

/-- Only blanks behind the bracket are trimmed from such a detail. -/
theorem trim_kindFirst (h : Fits kind name) (rest : String) :
    trim (kindFirst kind name rest).toList =
      (kind.toList ++ [' ']) ++ '[' :: (name.toList ++ ']' :: trimEnd rest.toList) := by
  have hclose : isBlank ']' = false := rfl
  -- The trimming from behind stops at the closing bracket.
  have hend := trimEnd_append_cons hclose (kind.toList ++ ' ' :: '[' :: name.toList) rest.toList
  rw [toList_kindFirst, List.append_assoc, trim,
    h.kind_trimmed.trimStart_append h.toList_ne]
  simpa only [List.append_assoc, List.cons_append, List.nil_append] using hend

/-- The kind and the name are read as they were written. -/
theorem naming_kindFirst (h : Fits kind name) {rest : String}
    (hserved : ∀ phrase ∈ unservedPhrases, ¬ phrase <:+: (kindFirst kind name rest).toList) :
    naming (trim (kindFirst kind name rest).toList) = ⟨kind.toList, name.toList⟩ := by
  have htrim : trim (kind.toList ++ [' ']) = kind.toList :=
    h.kind_trimmed.trim_append h.toList_ne (by decide)
  have hopen : '[' ∉ kind.toList ++ [' '] := by simpa using h.kind_open
  have hread := readKindFirst_append (by simp) hopen h.name_close (trimEnd rest.toList)
  -- It starts with the kind, in which no bracket opens.
  have hhead : (trim (kindFirst kind name rest).toList).head? ≠ some '[' := by
    rw [trim_kindFirst h]
    cases hcases : kind.toList with
    | nil => exact absurd hcases h.toList_ne
    | cons c kind' =>
      have hc : '[' ≠ c := by
        rintro rfl
        exact h.kind_open (hcases ▸ List.mem_cons_self)
      simpa using hc.symm
  rw [naming_eq_readKindFirst (claims_unservedKind_trim hserved) hhead, trim_kindFirst h, hread,
    htrim]

/-- Behind a preamble the kind and the name are read as they were written, whatever follows the
bracket. -/
theorem resource_kindFirst (h : Fits kind name) {preamble rest : String}
    (hpreamble : ¬ preambleEnd <:+: preamble.toList)
    (hserved : ∀ phrase ∈ unservedPhrases, ¬ phrase <:+: (kindFirst kind name rest).toList) :
    (resource (preamble ++ "violation - " ++ kindFirst kind name rest)).kind = kind ∧
      (resource (preamble ++ "violation - " ++ kindFirst kind name rest)).name = name := by
  have hdetail : detail (preamble ++ "violation - " ++ kindFirst kind name rest).toList =
      trim (kindFirst kind name rest).toList := by
    rw [String.toList_append, String.toList_append, List.append_assoc]
    exact detail_of_preamble hpreamble _
  unfold resource
  rw [hdetail, resourceOfDetail_eq, naming_kindFirst h hserved]
  exact ⟨String.ofList_toList, String.ofList_toList⟩

end

end ComplianceTriage.Message
