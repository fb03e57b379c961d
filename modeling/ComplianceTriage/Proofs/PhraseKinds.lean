import ComplianceTriage.Proofs.LetterCase
import ComplianceTriage.Proofs.Readback
import ComplianceTriage.Proofs.UnservedKinds
import Mathlib.Data.List.TakeWhile

/-!
# Kinds that are read behind a phrase

A message says in one of three phrases that a kind is not served (`Announces`), and gives the kind
behind the phrase (`Gives`): between quotes, or as a token with punctuation at its end. Everything
else in it is free text, brackets included. The reader takes the phrases in the order in which they
are listed, and not in that of the message, and it cuts the detail where the phrase first occurs.
`unserved_kind_read` says that it finds the kind, and never a name.

The verdict looks for the phrases again, and in the lower-cased message. A phrase is all small
letters, so it is still found there, and it decides if no phrase of an earlier rule is found.
-/

namespace ComplianceTriage.Message

open Text

/-! ## What is written -/

/-- A text that says in the words of a phrase, with a front and what comes after it, that a kind is
not served. -/
structure Announces (phrase front after : String) : Prop where
  /-- No phrase that is looked for before this one occurs. -/
  foremost : ∃ earlier later, unservedPhrases = earlier ++ phrase.toList :: later ∧
    ∀ other ∈ earlier, ¬ other <:+: (front ++ phrase ++ after).toList
  /-- The phrase itself does not occur before the front ends. -/
  first : ∀ front' after', (front ++ phrase ++ after).toList = front' ++ (phrase.toList ++ after') →
    front.toList.length ≤ front'.length

/-- How a kind is given behind a phrase, with what follows it. -/
inductive Gives (kind : String) : String → Prop where
  /-- Between quotes may stand all but quotes, also nothing. -/
  | quoted {blanks : String} (blanks_blank : ∀ c ∈ blanks.toList, isBlank c = true)
      (kind_free : '"' ∉ kind.toList) (rest : String) :
      Gives kind (blanks ++ "\"" ++ kind ++ "\"" ++ rest)
  /-- A kind without quotes is a token. Punctuation may follow it at once, and then a blank. -/
  | bare {blanks marks rest : String} (blanks_blank : ∀ c ∈ blanks.toList, isBlank c = true)
      (kind_ne : kind ≠ "") (kind_solid : ∀ c ∈ kind.toList, isBlank c = false)
      (kind_head : ∀ c ∈ kind.toList.head?, Shape.isKindEdge c = false)
      (kind_last : ∀ c ∈ kind.toList.getLast?, Shape.isKindEdge c = false)
      (marks_edge : ∀ c ∈ marks.toList, Shape.isKindEdge c = true)
      (rest_blank : ∀ c ∈ rest.toList.head?, isBlank c = true) :
      Gives kind (blanks ++ kind ++ marks ++ rest)

/-! ## Where the phrase is found -/

section

variable {phrase front after detail : List Char}

/-- What is read behind the first of the phrases that occurs is the kind. -/
theorem readUnservedKind_eq {earlier later : List (List Char)}
    (hlist : unservedPhrases = earlier ++ phrase :: later)
    (hearlier : ∀ other ∈ earlier, ¬ other <:+: detail)
    (hcut : splitFirst? phrase detail = some (front, after)) :
    Shape.readUnservedKind detail = ⟨Shape.leadingKind (trimStart after), []⟩ := by
  -- The phrases are tried in their order, and the first that occurs is cut behind.
  have hnone : earlier.findSome? (fun other => splitFirst? other detail) = none :=
    List.findSome?_eq_none_iff.2 fun other hother =>
      splitFirst?_eq_none.2 (hearlier other hother)
  have hfound : unservedPhrases.findSome? (fun other => splitFirst? other detail) =
      some (front, after) := by
    rw [hlist, List.findSome?_append, hnone, List.findSome?_cons, hcut]
    rfl
  unfold Shape.readUnservedKind
  rw [hfound]
  rfl

/-- A first occurrence stays the first when blanks at the start and text at the end are lost. -/
theorem splitFirst?_trimStart
    (hfirst : ∀ front' after', front ++ (phrase ++ after) = front' ++ (phrase ++ after') →
      front.length ≤ front'.length) {rest : List Char} (hrest : rest <+: after) :
    splitFirst? phrase (trimStart front ++ (phrase ++ rest)) = some (trimStart front, rest) := by
  obtain ⟨blanks, hblanks⟩ : trimStart front <:+ front := List.dropWhile_suffix _
  obtain ⟨lost, hlost⟩ := hrest
  refine splitFirst?_eq_some_iff.2 ⟨rfl, fun front' after' htext => ?_⟩
  -- An occurrence in what is left is one in the whole text, so many blanks further on.
  have hwhole : front ++ (phrase ++ after) =
      (blanks ++ front') ++ (phrase ++ (after' ++ lost)) :=
    calc front ++ (phrase ++ after)
        = blanks ++ (trimStart front ++ (phrase ++ rest)) ++ lost := by
          rw [← hlost, ← List.append_assoc blanks, hblanks]
          simp only [List.append_assoc]
      _ = blanks ++ (front' ++ (phrase ++ after')) ++ lost := by rw [htext]
      _ = (blanks ++ front') ++ (phrase ++ (after' ++ lost)) := by simp only [List.append_assoc]
  have hle := hfirst _ _ hwhole
  have hlength := congrArg List.length hblanks
  rw [List.length_append] at hle hlength
  omega

end

/-- What announces is one of the phrases. -/
theorem Announces.phrase_mem {phrase front after : String} (h : Announces phrase front after) :
    phrase.toList ∈ unservedPhrases := by
  obtain ⟨earlier, later, hlist, -⟩ := h.foremost
  rw [hlist]
  exact List.mem_append_right earlier List.mem_cons_self

/-- The kind is read behind the phrase, whatever is trimmed at the end. -/
theorem Announces.naming_eq {phrase front after : String} (h : Announces phrase front after) :
    naming (trim (front ++ phrase ++ after).toList) =
      ⟨Shape.leadingKind (trimStart (trimEnd after.toList)), []⟩ := by
  obtain ⟨earlier, later, hlist, hearlier⟩ := h.foremost
  have hmem := h.phrase_mem
  obtain ⟨hne, htrimmed⟩ := trimmed_of_mem_unservedPhrases _ hmem
  have htext : (front ++ phrase ++ after).toList =
      front.toList ++ (phrase.toList ++ after.toList) := by
    rw [String.toList_append, String.toList_append, List.append_assoc]
  -- Trimming stops at the phrase, which neither begins nor ends with a blank.
  have htrim : trim (front ++ phrase ++ after).toList =
      trimStart front.toList ++ (phrase.toList ++ trimEnd after.toList) := by
    rw [htext, htrimmed.trim_between hne]
  have hfirst := h.first
  rw [htext] at hfirst
  have hcut := splitFirst?_trimStart hfirst (trimEnd_isPrefix after.toList)
  rw [← htrim] at hcut
  -- What is no part of the text is no part of the detail.
  have hearlier' : ∀ other ∈ earlier, ¬ other <:+: trim (front ++ phrase ++ after).toList :=
    fun other hother hoccurs => hearlier other hother (hoccurs.trans (trim_isInfix _))
  have hclaims : Shape.unservedKind.claims (trim (front ++ phrase ++ after).toList) = true :=
    claims_unservedKind_iff.2 ⟨_, hmem, htrimmed.infix_trim hne ⟨front.toList, after.toList, by
      rw [htext, List.append_assoc]⟩⟩
  rw [naming_eq_readUnservedKind hclaims, readUnservedKind_eq hlist hearlier' hcut]

/-! ## What is read behind it -/

section

variable {blanks kind rest : List Char}

/-- Blanks in front of a character that is none are trimmed at the start. -/
theorem trimStart_blanks {c : Char} (hblanks : ∀ b ∈ blanks, isBlank b = true)
    (hc : isBlank c = false) (rest : List Char) :
    trimStart (blanks ++ c :: rest) = c :: rest := by
  have hnil : trimStart blanks = [] := List.dropWhile_eq_nil_iff.2 hblanks
  rw [trimStart_append_cons hc, hnil, List.nil_append]

/-- A kind between quotes ends at the second one. -/
theorem leadingKind_quoted (hkind : '"' ∉ kind) (rest : List Char) :
    Shape.leadingKind ('"' :: (kind ++ '"' :: rest)) = kind := by
  unfold Shape.leadingKind
  exact (cut_append_cons hkind rest).1

/-- Only what is dropped at the ends of a text is lost. -/
theorem trimOf_append {drops : Char → Bool} (hne : kind ≠ [])
    (hhead : ∀ c ∈ kind.head?, drops c = false) (hlast : ∀ c ∈ kind.getLast?, drops c = false)
    (hrest : ∀ c ∈ rest, drops c = true) : trimOf drops (kind ++ rest) = kind := by
  have hstart : (kind ++ rest).dropWhile drops = kind ++ rest := by
    cases kind with
    | nil => exact absurd rfl hne
    | cons c kind => rw [List.cons_append, List.dropWhile_cons, hhead c rfl]; rfl
  -- From behind, all of the rest is dropped, and nothing of the kind.
  have hdropped : rest.reverse.dropWhile drops = [] :=
    List.dropWhile_eq_nil_iff.2 fun c hc => hrest c (List.mem_reverse.1 hc)
  have hkept : kind.reverse.dropWhile drops = kind.reverse := by
    cases hreverse : kind.reverse with
    | nil => rfl
    | cons c front =>
      have hc : drops c = false := hlast c (by rw [← List.head?_reverse, hreverse]; rfl)
      rw [List.dropWhile_cons, hc]
      rfl
  unfold trimOf
  rw [hstart, List.reverse_append, List.dropWhile_append, hdropped, hkept]
  simp

/-- No character at the edge of a kind is a blank. -/
theorem isBlank_of_isKindEdge {c : Char} (h : Shape.isKindEdge c = true) : isBlank c = false := by
  simp only [Shape.isKindEdge, Bool.or_eq_true, decide_eq_true_eq] at h
  rcases h with ((rfl | rfl) | rfl) | rfl <;> rfl

/-- With punctuation at its end a kind without blanks still has none. -/
theorem solid_append_marks {marks : List Char} (hsolid : ∀ c ∈ kind, isBlank c = false)
    (hmarks : ∀ c ∈ marks, Shape.isKindEdge c = true) : ∀ c ∈ kind ++ marks, isBlank c = false := by
  intro c hc
  rcases List.mem_append.1 hc with hkind | hmark
  · exact hsolid c hkind
  · exact isBlank_of_isKindEdge (hmarks c hmark)

/-- A kind without quotes ends at the first blank, and what surrounds it is cut off. -/
theorem leadingKind_bare {marks : List Char} (hne : kind ≠ [])
    (hsolid : ∀ c ∈ kind, isBlank c = false) (hhead : ∀ c ∈ kind.head?, Shape.isKindEdge c = false)
    (hlast : ∀ c ∈ kind.getLast?, Shape.isKindEdge c = false)
    (hmarks : ∀ c ∈ marks, Shape.isKindEdge c = true)
    (hrest : ∀ c ∈ rest.head?, isBlank c = true) :
    Shape.leadingKind (kind ++ marks ++ rest) = kind := by
  have hword : before isBlank (kind ++ marks ++ rest) = kind ++ marks :=
    before_append (solid_append_marks hsolid hmarks) hrest
  have hbare : Shape.leadingKind (kind ++ marks ++ rest) =
      trimOf Shape.isKindEdge (before isBlank (kind ++ marks ++ rest)) := by
    cases kind with
    | nil => exact absurd rfl hne
    | cons c kind =>
      -- It does not start with a quote, which is one of the edges.
      have hc : c ≠ '"' := by
        rintro rfl
        cases hhead '"' rfl
      unfold Shape.leadingKind
      split
      · next heq => exact absurd (List.cons.inj heq).1 hc
      · rfl
  rw [hbare, hword, trimOf_append hne hhead hlast hmarks]

end

/-- The kind is read as it was given. -/
theorem Gives.leadingKind_eq {kind after : String} (h : Gives kind after) :
    Shape.leadingKind (trimStart (trimEnd after.toList)) = kind.toList := by
  cases h with
  | @quoted blanks hblanks hfree rest =>
    -- The quotes are no blanks, and so the trimming does not reach the kind.
    have hwritten : (blanks ++ "\"" ++ kind ++ "\"" ++ rest).toList =
        (blanks.toList ++ '"' :: kind.toList) ++ '"' :: rest.toList := by
      simp [String.toList_append]
    have hquote : isBlank '"' = false := rfl
    rw [hwritten, trimEnd_append_cons hquote, List.append_assoc, List.cons_append,
      trimStart_blanks hblanks hquote, leadingKind_quoted hfree]
  | @bare blanks marks rest hblanks hne hsolid hhead hlast hmarks hrest =>
    -- The kind and its punctuation are one token, at which the trimming stops on both sides.
    have hwritten : (blanks ++ kind ++ marks ++ rest).toList =
        blanks.toList ++ (kind.toList ++ marks.toList ++ rest.toList) := by
      simp [String.toList_append]
    have hword : ∀ c ∈ kind.toList ++ marks.toList, isBlank c = false :=
      solid_append_marks hsolid hmarks
    have hne' : kind.toList ≠ [] := by simpa using hne
    have hwordNe : kind.toList ++ marks.toList ≠ [] := by simp [hne]
    have hstart :
        trimStart (blanks.toList ++ (kind.toList ++ marks.toList ++ trimEnd rest.toList)) =
          kind.toList ++ marks.toList ++ trimEnd rest.toList := by
      cases hkind : kind.toList with
      | nil => exact absurd hkind hne'
      | cons c kind' => exact trimStart_blanks hblanks (hsolid c (hkind ▸ List.mem_cons_self)) _
    rw [hwritten, (trimmed_of_solid hword).trimEnd_append hwordNe, hstart]
    exact leadingKind_bare hne' hsolid hhead hlast hmarks fun c hc =>
      hrest c (mem_head?_of_trimEnd hc)

/-- Behind whatever preamble, the kind is read behind the phrase, and never a name. -/
theorem resource_of_announces {phrase front after kind preamble : String}
    (hannounced : Announces phrase front after) (hkind : Gives kind after)
    (hfront : Precedes (front ++ phrase ++ after) preamble) :
    (resource (preamble ++ (front ++ phrase ++ after))).kind = kind ∧
      (resource (preamble ++ (front ++ phrase ++ after))).name = "" := by
  unfold resource
  rw [detail_of_precedes hfront, resourceOfDetail_eq, hannounced.naming_eq, hkind.leadingKind_eq]
  exact ⟨String.ofList_toList, rfl⟩

/-! ## The verdict -/

/-- The phrases of the rules that are tried before the one for kinds that are not served. -/
def outrankingPhrases : List String :=
  ["not found", "not as specified", "installplan", "clusterserviceversion"]

/-- No other rule has a phrase that is not listed here. -/
theorem mem_outrankingPhrases : ∀ rule ∈ rules, rule.verdict ≠ .crdMissing →
    ∀ phrase ∈ rule.phrases, phrase ∈ outrankingPhrases := by
  decide

/-- The phrases of the shape are phrases of the verdict. -/
theorem exists_rule_of_mem_unservedPhrases : ∀ phrase ∈ unservedPhrases, ∃ rule ∈ rules,
    rule.verdict = .crdMissing ∧ ∃ written ∈ rule.phrases, written.toList = phrase := by
  decide

/-- The phrases are left as they are when a message is lower-cased. -/
theorem kept_of_mem_unservedPhrases :
    ∀ phrase ∈ unservedPhrases, ∀ c ∈ phrase, c ≠ 'Σ' ∧ lowerChar c = [c] := by
  have hall : ∀ phrase ∈ unservedPhrases,
      phrase.all (fun c => c ≠ 'Σ' ∧ lowerChar c = [c]) = true := by
    decide +kernel
  exact fun phrase hphrase => forall_mem_of_all (hall phrase hphrase)

/-- A message with one of the phrases says that a kind is not served, if no phrase of an earlier
rule outranks it. -/
theorem verdict_eq_crdMissing {message : String} {phrase : List Char}
    (hphrase : phrase ∈ unservedPhrases) (hoccurs : phrase <:+: message.toList)
    (hclear : ∀ other ∈ outrankingPhrases, ¬ other.toList <:+: lower message.toList) :
    verdict message = .crdMissing := by
  -- No rule of another verdict matches, and the one for the phrase does.
  have hothers : ∀ rule ∈ rules, rule.matches (lower message.toList) = true →
      rule.verdict = .crdMissing := by
    intro rule hrule hmatches
    by_contra hother
    obtain ⟨other, hmem, hfound⟩ := List.any_eq_true.1 hmatches
    exact hclear other (mem_outrankingPhrases rule hrule hother other hmem) (occurs_iff.1 hfound)
  obtain ⟨rule, hrule, -, written, hwritten, rfl⟩ :=
    exists_rule_of_mem_unservedPhrases phrase hphrase
  have hmatches : rule.matches (lower message.toList) = true :=
    List.any_eq_true.2 ⟨written, hwritten,
      occurs_iff.2 (infix_lower (kept_of_mem_unservedPhrases _ hphrase) hoccurs)⟩
  unfold verdict
  dsimp only
  -- The first rule that matches has the verdict, since all that match have it.
  cases hfirst : rules.find? fun rule => rule.matches (lower message.toList) with
  | none =>
    have hnone := List.find?_eq_none.1 hfirst rule hrule
    exact absurd hmatches hnone
  | some first =>
    have hfirst' := List.find?_some hfirst
    exact hothers first (List.mem_of_find?_eq_some hfirst) hfirst'

end ComplianceTriage.Message

namespace ComplianceTriage

open Message

/-- Without a name, the resources of the kind are listed, if there is one. -/
theorem suggest_of_unnamed {resource : Resource} (h : resource.name? = none) (verdict : Verdict)
    (cluster : String) (wanted : DesiredState) (settings : Settings) :
    suggest resource verdict cluster wanted settings =
      ⟨verdict, resource.kind?.map fun kind =>
        .look ToolCall.listTool (Text.lowerString kind) resource.ns? cluster settings⟩ := by
  unfold suggest
  rw [h]
  cases resource.kind? <;> rfl

/-- A message that says in the words of a phrase that a kind is not served is read as it was
written: the kind is the one that is given behind the phrase, and there is no name, whatever else is
written in front and behind. If no phrase of an earlier rule is found in the lower-cased message,
the verdict is that the kind is not served, and what is suggested is to list its resources. -/
theorem unserved_kind_read {phrase front after kind preamble : String}
    (hannounced : Announces phrase front after) (hkind : Gives kind after)
    (hfront : Precedes (front ++ phrase ++ after) preamble) :
    let message := preamble ++ (front ++ phrase ++ after)
    (resource message).kind = kind ∧ (resource message).name = "" ∧
      ((∀ other ∈ outrankingPhrases, ¬ other.toList <:+: Text.lower message.toList) →
        ∀ template cluster wanted settings,
          let violation := Violation.ofMessage template message cluster wanted settings
          violation.verdict = .crdMissing ∧
            (kind ≠ "" → violation.call = some (.look ToolCall.listTool (Text.lowerString kind)
              violation.resourceNs cluster settings)) ∧
            (kind = "" → violation.call = none)) := by
  intro message
  obtain ⟨hread, hname⟩ := resource_of_announces hannounced hkind hfront
  refine ⟨hread, hname, fun hclear template cluster wanted settings => ?_⟩
  have hoccurs : phrase.toList <:+: message.toList :=
    ⟨(preamble ++ front).toList, after.toList, by simp [message, String.toList_append]⟩
  have hverdict := verdict_eq_crdMissing hannounced.phrase_mem hoccurs hclear
  -- Without a name there is nothing to trace or to get, and the kind alone decides.
  have hunnamed : (resource message).name? = none := by
    rw [Resource.name?, hname]
    rfl
  have hsuggest := suggest_of_unnamed hunnamed (verdict message) cluster wanted settings
  have hkind? : (resource message).kind? = presence kind := by
    rw [Resource.kind?, hread]
  intro violation
  refine ⟨?_, fun hne => ?_, fun hempty => ?_⟩
  · show (suggest _ _ _ _ _).verdict = _
    rw [hsuggest, hverdict]
  · show (suggest _ _ _ _ _).call = _
    rw [hsuggest, hkind?, presence_eq_some_iff.2 ⟨hne, rfl⟩]
    rfl
  · show (suggest _ _ _ _ _).call = _
    rw [hsuggest, hkind?, hempty]
    rfl

namespace Sample

/-- A kind between quotes with brackets in it, behind the second of the phrases. -/
def quotedKind : String := " " ++ "\"" ++ "sriov[networks]" ++ "\"" ++ " on [sno-1]"

/-- A kind without quotes behind a no-break space, with punctuation and a line break at its end. -/
def bareKind : String := "\u00a0" ++ "Ptp:Config" ++ ":;" ++ "\nin version [v1]"

end Sample

/-- One kind is read behind a front with brackets, and the other behind a preamble. -/
theorem unserved_kind_read_samples :
    (let phrase := "the server doesn't have a resource type"
    let message := "" ++ ("[1/2] error: " ++ phrase ++ Sample.quotedKind)
    Announces phrase "[1/2] error: " Sample.quotedKind ∧
      Gives "sriov[networks]" Sample.quotedKind ∧
      Precedes ("[1/2] error: " ++ phrase ++ Sample.quotedKind) "" ∧
      (∀ other ∈ outrankingPhrases, ¬ other.toList <:+: Text.lower message.toList) ∧
      (resource message).kind = "sriov[networks]" ∧ (resource message).name = "" ∧
      (Violation.ofMessage "sriov" message "sno-1" .empty {}).verdict = .crdMissing) ∧
    (let phrase := "no matches for kind"
    let message := "NonCompliant; " ++ "violation - " ++ ("[PTP] " ++ phrase ++ Sample.bareKind)
    Announces phrase "[PTP] " Sample.bareKind ∧
      Gives "Ptp:Config" Sample.bareKind ∧
      Precedes ("[PTP] " ++ phrase ++ Sample.bareKind) ("NonCompliant; " ++ "violation - ") ∧
      (∀ other ∈ outrankingPhrases, ¬ other.toList <:+: Text.lower message.toList) ∧
      (resource message).kind = "Ptp:Config" ∧ (resource message).name = "" ∧
      (Violation.ofMessage "ptp" message "sno-1" .empty {}).call =
        some (.look ToolCall.listTool "ptp:config" none "sno-1" {})) := by
  constructor
  · intro phrase message
    have hcut : Text.splitFirst? phrase.toList
        ("[1/2] error: " ++ phrase ++ Sample.quotedKind).toList =
          some ("[1/2] error: ".toList, Sample.quotedKind.toList) := by
      decide +kernel
    -- The phrase is the second in the list, and the first one must not occur.
    have hother : ∀ other ∈ ["no matches for kind".toList],
        ¬ other <:+: ("[1/2] error: " ++ phrase ++ Sample.quotedKind).toList := by
      simp only [← Text.occurs_iff]
      decide +kernel
    have hannounced : Announces phrase "[1/2] error: " Sample.quotedKind :=
      ⟨⟨["no matches for kind".toList], _, rfl, hother⟩, (Text.splitFirst?_eq_some_iff.1 hcut).2⟩
    have hkind : Gives "sriov[networks]" Sample.quotedKind :=
      .quoted (Text.forall_mem_of_all (by decide)) (by decide) " on [sno-1]"
    have hfront : Precedes ("[1/2] error: " ++ phrase ++ Sample.quotedKind) "" := by
      refine .nothing ?_
      rw [← Text.occurs_iff]
      decide +kernel
    have hclear : ∀ other ∈ outrankingPhrases, ¬ other.toList <:+: Text.lower message.toList := by
      simp only [← Text.occurs_iff]
      decide +kernel
    obtain ⟨hread, hname, hverdict⟩ := unserved_kind_read hannounced hkind hfront
    exact ⟨hannounced, hkind, hfront, hclear, hread, hname, (hverdict hclear _ _ _ _).1⟩
  · intro phrase message
    have hcut : Text.splitFirst? phrase.toList ("[PTP] " ++ phrase ++ Sample.bareKind).toList =
        some ("[PTP] ".toList, Sample.bareKind.toList) := by
      decide +kernel
    have hannounced : Announces phrase "[PTP] " Sample.bareKind :=
      ⟨⟨[], _, rfl, by simp⟩, (Text.splitFirst?_eq_some_iff.1 hcut).2⟩
    -- A no-break space in front, and punctuation and a line break behind.
    have hkind : Gives "Ptp:Config" Sample.bareKind :=
      .bare (Text.forall_mem_of_all (by decide)) (by decide) (Text.forall_mem_of_all (by decide))
        (by rintro _ ⟨⟩; rfl) (by rintro _ ⟨⟩; rfl) (Text.forall_mem_of_all (by decide))
        (by rintro _ ⟨⟩; rfl)
    have hfront : Precedes ("[PTP] " ++ phrase ++ Sample.bareKind)
        ("NonCompliant; " ++ "violation - ") := by
      refine .preamble ?_
      rw [← Text.occurs_iff]
      decide +kernel
    have hclear : ∀ other ∈ outrankingPhrases, ¬ other.toList <:+: Text.lower message.toList := by
      simp only [← Text.occurs_iff]
      decide +kernel
    obtain ⟨hread, hname, hverdict⟩ := unserved_kind_read hannounced hkind hfront
    obtain ⟨-, hlist, -⟩ := hverdict hclear "ptp" "sno-1" .empty {}
    have hcall := hlist (by decide)
    have htarget : Text.lowerString "Ptp:Config" = "ptp:config" := by decide +kernel
    have hns : (Violation.ofMessage "ptp" message "sno-1" .empty {}).resourceNs = none := by
      decide +kernel
    rw [htarget, hns] at hcall
    exact ⟨hannounced, hkind, hfront, hclear, hread, hname, hcall⟩

end ComplianceTriage
