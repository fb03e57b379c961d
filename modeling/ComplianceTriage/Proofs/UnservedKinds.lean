import ComplianceTriage.Proofs.Coherence
import ComplianceTriage.Proofs.Rendering

/-!
# Kinds that are not served

The phrases for a kind that the cluster does not serve are looked for twice: by the verdict in the
whole message, lower-cased, and by the shape in the detail, as it is written. A phrase that is
written in lower case is seen by both, unless it stands in front of the preamble's end, where the
detail does not reach. So such a message is read in the shape of its verdict exactly if a phrase is
left behind the preamble (`readAs_iff`), and then it names no resource and asks for a list
(`crdMissing_lists`).

A phrase does not lie across the end of the preamble (`infix_of_infix_preamble`): it has no dash,
does not end inside the word in front of the dash, and does not begin with the blank behind it.
-/

namespace ComplianceTriage

namespace Text

variable {phrase front back : List Char}

/-- What lies in a text of two parts lies in the front, or it ends inside the back. -/
theorem infix_or_overlaps (h : phrase <:+: front ++ back) :
    phrase <:+: front ∨ ∃ start c overlap rest,
      start ++ phrase = front ++ c :: overlap ∧ back = c :: overlap ++ rest := by
  obtain ⟨start, rest, htext⟩ := h
  -- The phrase ends in the front, or it goes on by some characters behind it.
  rcases List.append_eq_append_iff.1 htext with ⟨gap, hfront, -⟩ | ⟨overlap, hoverlap, hback⟩
  · exact .inl ⟨start, gap, hfront.symm⟩
  · cases overlap with
    | nil => exact .inl ⟨start, [], by simpa using hoverlap⟩
    | cons c overlap => exact .inr ⟨start, c, overlap, rest, hoverlap, hback⟩

/-- What has not the character does not lie across it. -/
theorem infix_of_infix_append_cons {c : Char} (hc : c ∉ phrase)
    (h : phrase <:+: front ++ c :: back) : phrase <:+: front ∨ phrase <:+: back := by
  rcases infix_or_overlaps h with hfront | ⟨start, c', overlap, rest, hoverlap, hback⟩
  · exact .inl hfront
  · obtain ⟨rfl, hrest⟩ : c = c' ∧ back = overlap ++ rest := by simpa using hback
    -- The phrase ends behind the character, and so it begins there too.
    rcases List.append_eq_append_iff.1 hoverlap with ⟨part, -, hphrase⟩ | ⟨gap, -, hgap⟩
    · rw [hphrase] at hc
      exact absurd (List.mem_append_right part List.mem_cons_self) hc
    · rcases List.suffix_cons_iff.1 ⟨gap, hgap.symm⟩ with rfl | ⟨gap, hgap⟩
      · exact absurd List.mem_cons_self hc
      · exact .inr ⟨gap, rest, by rw [hrest, hgap]⟩

/-- What does not end inside the back lies in the front. -/
theorem infix_of_infix_append (hne : phrase ≠ []) (hlast : ∀ c ∈ phrase.getLast?, c ∉ back)
    (h : phrase <:+: front ++ back) : phrase <:+: front := by
  rcases infix_or_overlaps h with hfront | ⟨start, c, overlap, rest, hoverlap, hback⟩
  · exact hfront
  -- Two texts that end alike have the same last character.
  · have hends : phrase.getLast? = (c :: overlap).getLast? := by
      have hsame := congrArg List.getLast? hoverlap
      rwa [List.getLast?_append_of_ne_nil _ hne,
        List.getLast?_append_of_ne_nil _ (List.cons_ne_nil c overlap)] at hsame
    have hmem := List.getLast_mem_getLast? hne
    rw [hends] at hmem
    have hin : phrase.getLast hne ∈ back :=
      hback ▸ List.mem_append_left rest (List.mem_of_getLast? hmem)
    exact absurd hin (hlast _ (List.getLast_mem_getLast? hne))

/-- Around a text that begins and ends with no blank, only its surroundings are trimmed. -/
theorem Trimmed.trim_between (hphrase : Trimmed phrase) (hne : phrase ≠ [])
    (front back : List Char) :
    trim (front ++ (phrase ++ back)) = trimStart front ++ (phrase ++ trimEnd back) := by
  have hstart : trimStart (front ++ (phrase ++ back)) = trimStart front ++ (phrase ++ back) := by
    cases phrase with
    | nil => exact absurd rfl hne
    | cons c phrase => exact trimStart_append_cons (hphrase.head c rfl) front (phrase ++ back)
  rw [trim, hstart, hphrase.trimEnd_append hne]

/-- What begins and ends with no blank is not trimmed. -/
theorem Trimmed.infix_trim (hphrase : Trimmed phrase) (hne : phrase ≠ []) {text : List Char}
    (h : phrase <:+: text) : phrase <:+: trim text := by
  obtain ⟨start, rest, rfl⟩ := h
  rw [List.append_assoc, hphrase.trim_between hne, ← List.append_assoc]
  exact ⟨trimStart start, trimEnd rest, rfl⟩

end Text

namespace Message

open Text

/-- A message is read in a shape if this is the first to claim the detail. -/
def ReadAs (message : String) (shape : Shape) : Prop :=
  (Shape.all.find? fun shape => shape.claims (detail message.toList)) = some shape

/-- That a message with a phrase in front of the preamble's end has one behind it, too. -/
def PhraseBehind (message : String) : Prop :=
  ∀ front rest, splitFirst? preambleEnd message.toList = some (front, rest) →
    (∃ phrase ∈ unservedPhrases, phrase <:+: front) → ∃ phrase ∈ unservedPhrases, phrase <:+: rest

/-! ## Phrases -/

/-- The phrases of the verdict are phrases of the shape. -/
theorem mem_unservedPhrases : ∀ rule ∈ rules, rule.verdict = .crdMissing →
    ∀ phrase ∈ rule.phrases, phrase.toList ∈ unservedPhrases := by
  decide

/-- What is said not to be served has one of the phrases, in some letter case. -/
theorem exists_phrase_of_crdMissing {message : String} (h : verdict message = .crdMissing) :
    ∃ phrase ∈ unservedPhrases, phrase <:+: lower message.toList := by
  unfold verdict at h
  dsimp only at h
  cases hfound : rules.find? fun rule => rule.matches (lower message.toList) with
  | none =>
    rw [hfound] at h
    cases h
  | some rule =>
    rw [hfound] at h
    -- The rule that decides has this verdict, and all its phrases are listed.
    have hmatches := List.find?_some hfound
    obtain ⟨phrase, hphrase, hoccurs⟩ := List.any_eq_true.1 hmatches
    exact ⟨phrase.toList, mem_unservedPhrases rule (List.mem_of_find?_eq_some hfound) h _ hphrase,
      occurs_iff.1 hoccurs⟩

/-- The phrases begin and end with no blank. -/
theorem trimmed_of_mem_unservedPhrases :
    ∀ phrase ∈ unservedPhrases, phrase ≠ [] ∧ Trimmed phrase := by
  have h : ∀ phrase ∈ unservedPhrases, phrase.head?.map isBlank = some false ∧
      phrase.getLast?.map isBlank = some false := by
    decide +kernel
  intro phrase hphrase
  obtain ⟨hhead, hlast⟩ := h phrase hphrase
  refine ⟨?_, fun c hc => ?_, fun c hc => ?_⟩
  · rintro rfl
    cases hhead
  · rw [hc] at hhead
    exact Option.some.inj hhead
  · rw [hc] at hlast
    exact Option.some.inj hlast

/-- A phrase does not lie across the end of the preamble. -/
theorem infix_of_infix_preamble {phrase front rest : List Char} (hphrase : phrase ∈ unservedPhrases)
    (h : phrase <:+: front ++ preambleEnd ++ rest) : phrase <:+: front ∨ phrase <:+: rest := by
  have hdash : ∀ phrase ∈ unservedPhrases, '-' ∉ phrase := by decide +kernel
  have hlast : ∀ phrase ∈ unservedPhrases,
      phrase.getLast?.map (fun c => decide (c ∈ "violation ".toList)) = some false := by
    decide +kernel
  have hhead : ∀ phrase ∈ unservedPhrases, ¬ phrase.head? = some ' ' := by decide +kernel
  have hend : preambleEnd = "violation ".toList ++ ['-', ' '] := by decide +kernel
  have hne := (trimmed_of_mem_unservedPhrases phrase hphrase).1
  -- The dash cuts the end of the preamble in two.
  have hsplit : front ++ preambleEnd ++ rest =
      (front ++ "violation ".toList) ++ '-' :: ' ' :: rest := by
    rw [hend, ← List.append_assoc, List.append_assoc _ ['-', ' '] rest]
    rfl
  rw [hsplit] at h
  rcases infix_of_infix_append_cons (hdash phrase hphrase) h with hfront | hrest
  -- It ends neither in the word `violation` nor with the blank behind it.
  · refine .inl (infix_of_infix_append hne (fun c hc => ?_) hfront)
    have hc' := hlast phrase hphrase
    rw [hc] at hc'
    exact of_decide_eq_false (Option.some.inj hc')
  -- It does not begin with the blank behind the dash.
  · rcases List.infix_cons_iff.1 hrest with hstarts | hrest
    · obtain ⟨text, htext⟩ := hstarts
      cases phrase with
      | nil => exact absurd rfl hne
      | cons c phrase =>
        obtain ⟨rfl, -⟩ : c = ' ' ∧ phrase ++ text = rest := by simpa using htext
        exact absurd rfl (hhead _ hphrase)
    · exact .inr hrest

/-! ## Reading -/

/-- A message is read in the shape of the phrases if the detail has one of them. -/
theorem readAs_unservedKind_iff {message : String} : ReadAs message .unservedKind ↔
    ∃ phrase ∈ unservedPhrases, phrase <:+: withoutPreamble message.toList := by
  -- The shape of the phrases is the first to be asked.
  have hclaims : ReadAs message .unservedKind ↔
      Shape.unservedKind.claims (detail message.toList) = true := by
    constructor
    · intro hread
      have hclaims := List.find?_some hread
      exact hclaims
    · intro hclaims
      unfold ReadAs Shape.all
      rw [List.find?_cons, hclaims]
  rw [hclaims, claims_unservedKind_iff]
  constructor
  · rintro ⟨phrase, hphrase, hdetail⟩
    exact ⟨phrase, hphrase, hdetail.trans (trim_isInfix _)⟩
  · rintro ⟨phrase, hphrase, hbehind⟩
    obtain ⟨hne, htrimmed⟩ := trimmed_of_mem_unservedPhrases phrase hphrase
    exact ⟨phrase, hphrase, htrimmed.infix_trim hne hbehind⟩

/-- A message with a phrase is read in the shape of the phrases exactly if the end of the preamble
does not cut them all off. -/
theorem readAs_iff {message : String}
    (h : ∃ phrase ∈ unservedPhrases, phrase <:+: message.toList) :
    ReadAs message .unservedKind ↔ PhraseBehind message := by
  rw [readAs_unservedKind_iff]
  unfold PhraseBehind withoutPreamble
  cases hsplit : splitFirst? preambleEnd message.toList with
  | none => exact ⟨fun _ front rest hnone => (nomatch hnone), fun _ => h⟩
  | some parts =>
    obtain ⟨front, rest⟩ := parts
    constructor
    · rintro hrest _ _ ⟨⟩ -
      exact hrest
    · intro hbehind
      obtain ⟨phrase, hphrase, hmessage⟩ := h
      rw [splitFirst?_eq_some hsplit] at hmessage
      -- The phrase of the message lies on one side of the end of the preamble.
      rcases infix_of_infix_preamble hphrase hmessage with hfront | hrest
      · exact hbehind front rest rfl ⟨phrase, hphrase, hfront⟩
      · exact ⟨phrase, hphrase, hrest⟩

/-- What is read in this shape has no name. -/
theorem ReadAs.name_eq {message : String} (h : ReadAs message .unservedKind) :
    (resource message).name = "" := by
  unfold ReadAs at h
  rw [resource, resourceOfDetail_eq, naming, h]
  rfl

end Message

open Message

section

variable {template message cluster : String} {wanted : DesiredState} {settings : Settings}

/-- The violation of a message fits together. -/
theorem Violation.coherent_ofMessage :
    (ofMessage template message cluster wanted settings).Coherent message cluster settings :=
  coherent_of_made (suggest_made _ _ cluster wanted settings) template _ _

/-- A violation says that a kind is not served if its message does. -/
theorem Violation.verdict_eq_of_crdMissing
    (h : (ofMessage template message cluster wanted settings).verdict = .crdMissing) :
    Message.verdict message = .crdMissing := by
  by_contra hraised
  obtain ⟨hstuck, -⟩ := coherent_ofMessage.verdict_raised (h ▸ Ne.symm hraised)
  rw [h] at hstuck
  cases hstuck

/-- A violation without a name suggests to list the resources of its kind, or nothing. -/
theorem Violation.tool_eq_of_unnamed
    (h : (ofMessage template message cluster wanted settings).resourceName = none) {call : ToolCall}
    (hcall : (ofMessage template message cluster wanted settings).call = some call) :
    call.tool = ToolCall.listTool := by
  have hkind : (ofMessage template message cluster wanted settings).resourceKind ≠ none := by
    intro hnone
    rw [coherent_ofMessage.none_iff.2 ⟨hnone, .inl h⟩] at hcall
    cases hcall
  have hlist := coherent_ofMessage.list_iff.2 ⟨hkind, h⟩
  rw [Violation.Suggests, hcall] at hlist
  exact Option.some.inj hlist

/-- A message that says that a kind is not served has a phrase for this, in some letter case. Where
it has one in lower case, it is read in the shape for this exactly if the end of the preamble leaves
a phrase behind it. Then no resource is named, and the resources of the kind are listed. -/
theorem crdMissing_lists
    (hverdict : (Violation.ofMessage template message cluster wanted settings).verdict =
      .crdMissing) :
    (∃ phrase ∈ unservedPhrases, phrase <:+: Text.lower message.toList) ∧
      ((∃ phrase ∈ unservedPhrases, phrase <:+: message.toList) →
        (ReadAs message .unservedKind ↔ PhraseBehind message) ∧
          (PhraseBehind message →
            (Violation.ofMessage template message cluster wanted settings).resourceName = none ∧
              ∀ call,
                (Violation.ofMessage template message cluster wanted settings).call = some call →
                  call.tool = ToolCall.listTool)) := by
  refine ⟨exists_phrase_of_crdMissing (Violation.verdict_eq_of_crdMissing hverdict),
    fun hwritten => ?_⟩
  have hread := readAs_iff hwritten
  refine ⟨hread, fun hbehind => ?_⟩
  -- In this shape no name is read, and without one there is nothing to look at.
  have hname :
      (Violation.ofMessage template message cluster wanted settings).resourceName = none := by
    rw [Violation.resourceName_ofMessage, Resource.name?, (hread.2 hbehind).name_eq]
    rfl
  exact ⟨hname, fun call => Violation.tool_eq_of_unnamed hname⟩

end

/-- Behind the usual preamble a phrase is left. Another one, which is not in lower case, stands in
front of it and makes no difference. -/
theorem crdMissing_lists_ptpConfig :
    let message := "Could Not Find The Requested Resource; violation - " ++
      "no matches for kind \"PtpConfig\" in version \"v1\""
    let violation := Violation.ofMessage "ptp" message "sno-1" .empty {}
    violation.verdict = .crdMissing ∧
      (∃ phrase ∈ unservedPhrases, phrase <:+: Text.lower message.toList) ∧
      (∃ phrase ∈ unservedPhrases, phrase <:+: message.toList) ∧
      ReadAs message .unservedKind ∧ PhraseBehind message ∧
      violation.resourceName = none ∧
      ∀ call, violation.call = some call → call.tool = ToolCall.listTool := by
  intro message violation
  have hverdict : (Violation.ofMessage "ptp" message "sno-1" .empty {}).verdict = .crdMissing := by
    decide +kernel
  have hwritten : ∃ phrase ∈ unservedPhrases, phrase <:+: message.toList := by
    simp only [← Text.occurs_iff]
    decide +kernel
  have hread : ReadAs message .unservedKind := by
    unfold ReadAs
    decide +kernel
  obtain ⟨hlower, hlists⟩ := crdMissing_lists hverdict
  obtain ⟨hiff, hnone⟩ := hlists hwritten
  exact ⟨hverdict, hlower, hwritten, hread, hiff.1 hread, hnone (hiff.1 hread)⟩

/-- A phrase in front of the preamble's end decides on the verdict and is not read: the resource
that is named behind it is looked at. -/
theorem crdMissing_named :
    let message :=
      "no matches for kind \"PtpConfig\"; violation - ptpconfigs [grandmaster] is not ready"
    let violation := Violation.ofMessage "ptp" message "sno-1" .empty {}
    violation.verdict = .crdMissing ∧ ReadAs message .kindFirst ∧
      violation.resourceName = some "grandmaster" ∧ violation.Suggests ToolCall.getTool := by
  unfold ReadAs Violation.Suggests
  decide +kernel

end ComplianceTriage
