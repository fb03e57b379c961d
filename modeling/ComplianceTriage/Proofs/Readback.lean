import ComplianceTriage.Proofs.Rendering

/-!
# Messages are read as they were written

Kind and name of a resource are written in one of two shapes with brackets, `kind [name] …` and
`[kind] name …` (`Names`), its namespace anywhere in the free text (`Places`), and a preamble may
stand in front (`Precedes`). The reader knows none of these parts, and finds all of them again
(`resource_written`): a bracket, a blank or a mark is looked for where it first occurs, and each
shape says why it cannot occur before.

The reader trims a message before it reads it. What is trimmed is only ever in front of the first
and behind the last of the parts that it looks for.
-/

namespace ComplianceTriage.Message

open Text

/-! ## What is written -/

/-- A detail of the shape `[kind] name …`, with what follows the name. -/
def bracketed (kind name rest : String) : String :=
  "[" ++ kind ++ "] " ++ name ++ rest

/-- The details that name a resource by a kind and a name. -/
inductive Names (kind name : String) : String → Prop where
  /-- Behind the brackets around the name any text may follow. -/
  | kindFirst (fits : Fits kind name) (rest : String) : Names kind name (kindFirst kind name rest)
  /-- Behind the name only a space or a tab may follow, and then any text. -/
  | bracketed (kind_close : ']' ∉ kind.toList) (name_ne : name ≠ "")
      (name_solid : ∀ c ∈ name.toList, isBlank c = false) {rest : String}
      (rest_ends : ∀ c ∈ rest.toList.head?, isSpaceOrTab c = true) :
      Names kind name (bracketed kind name rest)

/-- The details that place a resource in a namespace: it stands behind the first mark, and what
follows it cannot belong to it. -/
inductive Places (ns : String) : String → Prop where
  | mk {front back : String} (front_free : ¬ nsMark <:+: front.toList) (ns_ne : ns ≠ "")
      (ns_solid : ∀ c ∈ ns.toList, endsNs c = false)
      (back_ends : ∀ c ∈ back.toList.head?, endsNs c = true) :
      Places ns (front ++ "in namespace " ++ ns ++ back)

/-- What may stand in front of a detail: a preamble, or nothing if the detail itself has nothing
that ends a preamble. -/
inductive Precedes (detail : String) : String → Prop where
  | nothing (detail_free : ¬ preambleEnd <:+: detail.toList) : Precedes detail ""
  | preamble {text : String} (text_free : ¬ preambleEnd <:+: text.toList) :
      Precedes detail (text ++ "violation - ")

/-! ## What is read -/

/-- The detail is found behind what stands in front of it. -/
theorem detail_of_precedes {text front : String} (h : Precedes text front) :
    detail (front ++ text).toList = trim text.toList := by
  cases h with
  | nothing hfree =>
    rw [String.empty_append, detail, withoutPreamble, splitFirst?_eq_none.2 hfree]
  | preamble hfree =>
    rw [String.toList_append, String.toList_append, List.append_assoc]
    exact detail_of_preamble hfree text.toList

/-- A detail that starts with a bracket, and that no phrase claims, is read kind in brackets. -/
theorem naming_eq_readBracketedKind {detail : List Char}
    (hunserved : Shape.unservedKind.claims detail = false)
    (hhead : detail.head? = some '[') : naming detail = Shape.readBracketedKind detail := by
  have hbracketed : Shape.bracketedKind.claims detail = true := decide_eq_true hhead
  unfold naming Shape.all
  rw [List.find?_cons, hunserved, List.find?_cons, hbracketed]
  rfl

section

variable {kind name rest : List Char}

/-- Of a bracketed kind the name is what stands between the bracket and the next space or tab. -/
theorem readBracketedKind_append (hclose : ']' ∉ kind) (hname : name ≠ [])
    (hsolid : ∀ c ∈ name, isBlank c = false) (hrest : ∀ c ∈ rest.head?, isSpaceOrTab c = true) :
    Shape.readBracketedKind ('[' :: (kind ++ ']' :: ' ' :: (name ++ rest))) = ⟨kind, name⟩ := by
  have hcut : splitAtChar? ']' ('[' :: (kind ++ ']' :: ' ' :: (name ++ rest))) =
      some ('[' :: kind, ' ' :: (name ++ rest)) :=
    splitAtChar?_eq_some.2 ⟨rfl, by simpa using hclose⟩
  have htrimmed : Trimmed name := trimmed_of_solid hsolid
  -- Between the bracket and the name there is one space, and the name begins with no blank.
  have htrim : trim (' ' :: (name ++ rest)) = name ++ trimEnd rest := by
    have hstart : trimStart (' ' :: (name ++ rest)) = name ++ rest :=
      htrimmed.trimStart_append hname rest
    rw [trim, hstart]
    exact htrimmed.trimEnd_append hname [] rest
  -- A space or a tab is a blank, so there is none in the name.
  have hword : ∀ c ∈ name, isSpaceOrTab c = false := fun c hc =>
    isSpaceOrTab_of_not_isBlank (hsolid c hc)
  have hends : ∀ c ∈ (trimEnd rest).head?, isSpaceOrTab c = true := fun c hc =>
    hrest c (mem_head?_of_trimEnd hc)
  unfold Shape.readBracketedKind
  rw [hcut]
  dsimp only
  rw [htrim, before_append hword hends]

end

section

variable {kind name rest : String}

/-- The characters of a text with its kind in brackets, part by part. -/
theorem toList_bracketed (kind name rest : String) :
    (bracketed kind name rest).toList =
      '[' :: (kind.toList ++ ']' :: ' ' :: (name.toList ++ rest.toList)) := by
  simp [bracketed, String.toList_append]

/-- Only blanks behind the name are trimmed from such a detail. -/
theorem trim_bracketed (hname : name ≠ "") (hsolid : ∀ c ∈ name.toList, isBlank c = false)
    (rest : String) :
    trim (bracketed kind name rest).toList =
      '[' :: (kind.toList ++ ']' :: ' ' :: (name.toList ++ trimEnd rest.toList)) := by
  -- The bracket at the start is no blank, and neither is the end of the name.
  have hstart : trimStart (bracketed kind name rest).toList =
      '[' :: (kind.toList ++ [']', ' ']) ++ (name.toList ++ rest.toList) := by
    rw [toList_bracketed, trimStart, List.dropWhile_cons]
    simp [isBlank]
  have hend := (trimmed_of_solid hsolid).trimEnd_append (by simpa using hname)
    ('[' :: (kind.toList ++ [']', ' '])) rest.toList
  rw [trim, hstart, hend]
  simp

/-- A kind in brackets and the word behind them are read as they were written. -/
theorem naming_bracketed (hclose : ']' ∉ kind.toList) (hname : name ≠ "")
    (hsolid : ∀ c ∈ name.toList, isBlank c = false)
    (hrest : ∀ c ∈ rest.toList.head?, isSpaceOrTab c = true)
    (hserved : ∀ phrase ∈ unservedPhrases, ¬ phrase <:+: (bracketed kind name rest).toList) :
    naming (trim (bracketed kind name rest).toList) = ⟨kind.toList, name.toList⟩ := by
  have hhead : (trim (bracketed kind name rest).toList).head? = some '[' := by
    rw [trim_bracketed hname hsolid]
    rfl
  rw [naming_eq_readBracketedKind (claims_unservedKind_trim hserved) hhead,
    trim_bracketed hname hsolid]
  exact readBracketedKind_append hclose (by simpa using hname) hsolid fun c hc =>
    hrest c (mem_head?_of_trimEnd hc)

/-- Kind and name are found in the detail, whichever shape it has. -/
theorem naming_of_names {detail : String} (h : Names kind name detail)
    (hserved : ∀ phrase ∈ unservedPhrases, ¬ phrase <:+: detail.toList) :
    naming (trim detail.toList) = ⟨kind.toList, name.toList⟩ := by
  cases h with
  | kindFirst hfits rest => exact naming_kindFirst hfits hserved
  | bracketed hclose hname hsolid hrest => exact naming_bracketed hclose hname hsolid hrest hserved

end

/-- The namespace is found behind the first mark. -/
theorem nsIn_append {front ns back : List Char} (hfront : ¬ nsMark <:+: front)
    (hns : ∀ c ∈ ns, endsNs c = false) (hback : ∀ c ∈ back.head?, endsNs c = true) :
    nsIn (front ++ (nsMark ++ (ns ++ back))) = ns := by
  have hcut : splitFirst? nsMark (front ++ (nsMark ++ (ns ++ back))) = some (front, ns ++ back) :=
    splitFirst?_append (by decide) hfront (ns ++ back)
  unfold nsIn
  rw [hcut]
  exact before_append hns hback

/-- The namespace is found in the detail that places a resource in it. -/
theorem nsIn_of_places {ns detail : String} (h : Places ns detail) :
    nsIn (trim detail.toList) = ns.toList := by
  cases h with
  | @mk front back hfront hns hsolid hback =>
    have hblank : ∀ c ∈ ns.toList, isBlank c = false := by
      intro c hc
      have hends := hsolid c hc
      unfold endsNs at hends
      simp only [Bool.or_eq_false_iff] at hends
      exact hends.1.1
    have hwritten : (front ++ "in namespace " ++ ns ++ back).toList =
        front.toList ++ (nsMark ++ (ns.toList ++ back.toList)) := by
      rw [String.toList_append, String.toList_append, String.toList_append, List.append_assoc,
        List.append_assoc]
      rfl
    -- The mark starts with a letter and the namespace has no blanks: the trimming stops at them.
    have hstart : trimStart (front.toList ++ (nsMark ++ (ns.toList ++ back.toList))) =
        trimStart front.toList ++ (nsMark ++ (ns.toList ++ back.toList)) :=
      trimStart_append_cons (by decide) front.toList _
    have hend := (trimmed_of_solid hblank).trimEnd_append (by simpa using hns)
      (trimStart front.toList ++ nsMark) back.toList
    have hfront' : ¬ nsMark <:+: trimStart front.toList := fun hoccurs =>
      hfront (hoccurs.trans (List.dropWhile_suffix _).isInfix)
    rw [hwritten, trim, hstart, ← List.append_assoc, hend, List.append_assoc]
    exact nsIn_append hfront' hsolid fun c hc => hback c (mem_head?_of_trimEnd hc)

/-- Without a mark there is no namespace. -/
theorem nsIn_eq_nil {detail : List Char} (h : ¬ nsMark <:+: detail) : nsIn detail = [] := by
  unfold nsIn
  rw [splitFirst?_eq_none.2 h]

/-- A message is read as it was written. From a detail that names a resource the kind and the name
are read, whatever preamble stands in front; the namespace is read if the detail places the resource
in one, and it is empty if the detail, as it is trimmed, has no mark of a namespace. -/
theorem resource_written {kind name front text : String} (hnames : Names kind name text)
    (hfront : Precedes text front)
    (hserved : ∀ phrase ∈ unservedPhrases, ¬ phrase <:+: text.toList) :
    (resource (front ++ text)).kind = kind ∧ (resource (front ++ text)).name = name ∧
      (∀ ns, Places ns text → (resource (front ++ text)).ns = ns) ∧
      (¬ nsMark <:+: trim text.toList → (resource (front ++ text)).ns = "") := by
  -- The preamble is dropped, and then each part is found where it was written.
  unfold resource
  rw [detail_of_precedes hfront, resourceOfDetail_eq, naming_of_names hnames hserved]
  refine ⟨String.ofList_toList, String.ofList_toList, ?_, ?_⟩
  · intro ns hplaces
    dsimp only
    rw [nsIn_of_places hplaces, String.ofList_toList]
  · intro hmark
    dsimp only
    rw [nsIn_eq_nil hmark]

/-- A detail that names a list of names with a bracket in it, and a namespace with text behind. -/
def Sample.missing : String :=
  kindFirst "subscriptions" "sriov, [ptp" " not found in namespace openshift-operators; retrying"

/-- A detail that names a dotted name, with a tab behind it, and no namespace. -/
def Sample.drifted : String :=
  bracketed "Subscription" "my-operator.v1" "\tnot as specified"

/-- One detail is read behind a preamble, with its namespace, and the other on its own. -/
theorem resource_written_samples :
    Names "subscriptions" "sriov, [ptp" Sample.missing ∧
      Precedes Sample.missing ("NonCompliant; " ++ "violation - ") ∧
      (∀ phrase ∈ unservedPhrases, ¬ phrase <:+: Sample.missing.toList) ∧
      Places "openshift-operators" Sample.missing ∧
      (let read := resource ("NonCompliant; " ++ "violation - " ++ Sample.missing)
      read.kind = "subscriptions" ∧ read.name = "sriov, [ptp" ∧
        read.ns = "openshift-operators") ∧
    Names "Subscription" "my-operator.v1" Sample.drifted ∧
      Precedes Sample.drifted "" ∧
      (∀ phrase ∈ unservedPhrases, ¬ phrase <:+: Sample.drifted.toList) ∧
      ¬ nsMark <:+: trim Sample.drifted.toList ∧
      (let read := resource ("" ++ Sample.drifted)
      read.kind = "Subscription" ∧ read.name = "my-operator.v1" ∧ read.ns = "") := by
  -- The name has a comma and a bracket that opens, but none that closes.
  have hmissing : Names "subscriptions" "sriov, [ptp" Sample.missing :=
    .kindFirst ⟨by decide, ⟨by rintro _ ⟨⟩; rfl, by rintro _ ⟨⟩; rfl⟩, by decide, by decide,
      by decide⟩ _
  have hfront : Precedes Sample.missing ("NonCompliant; " ++ "violation - ") := by
    refine .preamble ?_
    rw [← occurs_iff]
    decide +kernel
  have hserved : ∀ phrase ∈ unservedPhrases, ¬ phrase <:+: Sample.missing.toList := by
    simp only [← occurs_iff]
    decide +kernel
  have hplaces : Places "openshift-operators" Sample.missing := by
    -- The mark stands in the free text behind the name.
    have hwritten : Sample.missing = "subscriptions [sriov, [ptp] not found " ++ "in namespace " ++
        "openshift-operators" ++ "; retrying" := by decide
    rw [hwritten]
    have hsolid : "openshift-operators".toList.all (fun c => endsNs c = false) = true := by decide
    refine .mk ?_ (by decide) (fun c hc => of_decide_eq_true (List.all_eq_true.1 hsolid c hc))
      (by rintro _ ⟨⟩; rfl)
    rw [← occurs_iff]
    decide +kernel
  have hsolid : "my-operator.v1".toList.all (fun c => isBlank c = false) = true := by decide
  -- A tab ends the dotted name.
  have hdrifted : Names "Subscription" "my-operator.v1" Sample.drifted :=
    .bracketed (by decide) (by decide)
      (fun c hc => of_decide_eq_true (List.all_eq_true.1 hsolid c hc)) (by rintro _ ⟨⟩; rfl)
  have hfront' : Precedes Sample.drifted "" := by
    refine .nothing ?_
    rw [← occurs_iff]
    decide +kernel
  have hserved' : ∀ phrase ∈ unservedPhrases, ¬ phrase <:+: Sample.drifted.toList := by
    simp only [← occurs_iff]
    decide +kernel
  have hmark : ¬ nsMark <:+: trim Sample.drifted.toList := by
    rw [← occurs_iff]
    decide +kernel
  obtain ⟨hkind, hname, hns, -⟩ := resource_written hmissing hfront hserved
  obtain ⟨hkind', hname', -, hns'⟩ := resource_written hdrifted hfront' hserved'
  exact ⟨hmissing, hfront, hserved, hplaces, ⟨hkind, hname, hns _ hplaces⟩,
    hdrifted, hfront', hserved', hmark, hkind', hname', hns' hmark⟩

end ComplianceTriage.Message
