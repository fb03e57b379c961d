import ComplianceTriage.Proofs.LetterCase
import ComplianceTriage.Proofs.UnservedKinds
import Mathlib.Data.List.Forall2

/-!
# Verdicts on parts and wholes

The verdict is that of the first rule of whose phrases one occurs, so it depends on the order of the
rules, and on lower-casing, by which phrases are found in any letter case. More text around a
message only lets more rules match, and so the verdict moves up in the order or stays
(`verdict_monotone`).

This needs that a phrase is not lost for what stands around. Lower-casing looks at the surroundings,
but only for a capital sigma, and no phrase has a sigma of either form: a phrase is found just as if
each character had been lower-cased on its own (`infix_lower_iff`). It is another matter which texts
a phrase is found in. The letters `i` and `k` are also the lower-case forms of characters beyond
ASCII, or begin them, and for other letters nothing but their capitals will do
(`infix_lower_iff_fold`).
-/

namespace ComplianceTriage

namespace Text

section

variable {phrase front back block : List Char}

/-- That a phrase does not reach into a block of characters, nor across it. -/
structure Apart (phrase block : List Char) : Prop where
  block_ne : block ≠ []
  free : ∀ c ∈ block, c ∉ phrase

/-- A phrase lies on one side of a block that it is apart from. -/
theorem Apart.infix_iff (h : Apart phrase block) :
    phrase <:+: front ++ (block ++ back) ↔ phrase <:+: front ∨ phrase <:+: back := by
  obtain ⟨hne, hfree⟩ := h
  constructor
  · induction block generalizing front with
    | nil => exact absurd rfl hne
    | cons c block ih =>
      intro hin
      have hc : c ∉ phrase := hfree c List.mem_cons_self
      rcases infix_of_infix_append_cons hc hin with hfront | hrest
      · exact .inl hfront
      · cases block with
        | nil => exact .inr hrest
        | cons c' block =>
          -- Nothing stands in front of the rest of the block.
          have hrest' : phrase <:+: [] ++ (c' :: block ++ back) := hrest
          rcases ih (List.cons_ne_nil c' block) (fun b hb => hfree b (List.mem_cons_of_mem c hb))
            hrest' with hnil | hback
          · rw [List.eq_nil_of_infix_nil hnil]
            exact .inl List.nil_infix
          · exact .inr hback
  · rintro (hfront | hback)
    · exact hfront.trans (List.prefix_append front _).isInfix
    · exact hback.trans ⟨front ++ block, [], by simp⟩

/-- That a phrase cannot tell two blocks from each other. -/
def Alike (phrase a b : List Char) : Prop :=
  a = b ∨ Apart phrase a ∧ Apart phrase b

/-- A phrase is found in both of two texts that go on with such blocks, or in neither. -/
theorem infix_append_flatten_iff {as bs : List (List Char)}
    (h : List.Forall₂ (Alike phrase) as bs) (front : List Char) :
    phrase <:+: front ++ as.flatten ↔ phrase <:+: front ++ bs.flatten := by
  -- The front takes up the blocks that both texts share; behind two that differ it starts anew.
  induction h generalizing front with
  | nil => exact Iff.rfl
  | @cons a b as bs hab hrest ih =>
    rw [List.flatten_cons, List.flatten_cons]
    rcases hab with rfl | ⟨ha, hb⟩
    · rw [← List.append_assoc, ← List.append_assoc]
      exact ih (front ++ a)
    · rw [ha.infix_iff, hb.infix_iff]
      exact or_congr_right (ih [])

/-- So it is of texts that are made of them. -/
theorem infix_flatten_iff {as bs : List (List Char)} (h : List.Forall₂ (Alike phrase) as bs) :
    phrase <:+: as.flatten ↔ phrase <:+: bs.flatten :=
  infix_append_flatten_iff h []

end

/-! ## Lower-casing -/

section

variable {phrase part text : List Char}

/-- A character on its own ends no word, so a capital sigma becomes the small one. -/
theorem lower_singleton (c : Char) : lower [c] = if c = 'Σ' then ['σ'] else lowerChar c := by
  simp [lower, lowerAfter, endsWord, startsCased]

/-- A lower-cased text is made of the lower-case forms of its characters, but that a sigma may have
its other form. -/
theorem exists_blocks_lowerAfter (hsigma : 'σ' ∉ phrase ∧ 'ς' ∉ phrase)
    (reversedBefore text : List Char) :
    ∃ blocks, lowerAfter reversedBefore text = blocks.flatten ∧
      List.Forall₂ (Alike phrase) blocks (text.map fun c => lower [c]) := by
  induction text generalizing reversedBefore with
  | nil => exact ⟨[], rfl, .nil⟩
  | cons c text ih =>
    obtain ⟨blocks, hblocks, halike⟩ := ih (c :: reversedBefore)
    refine ⟨_ :: blocks, by rw [lowerAfter, hblocks, List.flatten_cons], .cons ?_ halike⟩
    dsimp only
    rw [lower_singleton]
    -- Only a sigma depends on what stands around, and no phrase has either form of it.
    by_cases hc : c = 'Σ'
    · have hapart : ∀ form, form ∉ phrase → Apart phrase [form] := fun form hform =>
        ⟨List.cons_ne_nil form [], by simpa using hform⟩
      rw [if_pos hc, if_pos hc]
      refine .inr ⟨hapart _ ?_, hapart _ hsigma.1⟩
      split
      · exact hsigma.2
      · exact hsigma.1
    · rw [if_neg hc, if_neg hc]
      exact .inl rfl

/-- A phrase without sigma is found in a lower-cased text as if its characters had been lower-cased
one by one. -/
theorem infix_lower_iff (hsigma : 'σ' ∉ phrase ∧ 'ς' ∉ phrase) :
    phrase <:+: lower text ↔ phrase <:+: text.flatMap fun c => lower [c] := by
  obtain ⟨blocks, hblocks, halike⟩ := exists_blocks_lowerAfter hsigma [] text
  have hsame := infix_flatten_iff halike
  rwa [← hblocks, ← List.flatMap_def] at hsame

/-- So what is found in a part is found in the whole. -/
theorem infix_lower_of_infix (hsigma : 'σ' ∉ phrase ∧ 'ς' ∉ phrase) (hpart : part <:+: text)
    (h : phrase <:+: lower part) : phrase <:+: lower text := by
  obtain ⟨front, back, rfl⟩ := hpart
  rw [infix_lower_iff hsigma] at h ⊢
  rw [List.flatMap_append, List.flatMap_append]
  exact h.trans ⟨_, _, rfl⟩

/-- Beyond ASCII a run leads to characters beyond ASCII, or from the Kelvin sign to `k`. -/
theorem caseRuns_forms : ∀ run ∈ caseRuns,
    (128 ≤ run.first + run.shift ∧ run.last + run.shift < 0xD800) ∨
      (0xE000 ≤ run.first + run.shift ∧ run.last + run.shift < 0x110000) ∨
      (run.first = run.last ∧ run.first + run.shift = 107) := by
  decide +kernel

/-- A character of a run has a form beyond ASCII, or the letter `k`. -/
theorem form_of_covers {run : CaseRun} (hrun : run ∈ caseRuns) {c : Char}
    (hcovers : run.covers c.toNat = true) :
    128 ≤ (Char.ofNat ((c.toNat : Int) + run.shift).toNat).toNat ∨
      Char.ofNat ((c.toNat : Int) + run.shift).toNat = 'k' := by
  have hbounds : run.first ≤ c.toNat ∧ c.toNat ≤ run.last := by
    simp only [CaseRun.covers, Bool.and_eq_true, decide_eq_true_eq] at hcovers
    exact hcovers.1
  obtain ⟨hfirst, hlast⟩ := hbounds
  -- A run shifts its characters as a whole, so that its ends bound the form.
  have hplace : (128 ≤ ((c.toNat : Int) + run.shift).toNat ∧
      (((c.toNat : Int) + run.shift).toNat).isValidChar) ∨
        ((c.toNat : Int) + run.shift).toNat = 107 := by
    unfold Nat.isValidChar
    have hforms := caseRuns_forms run hrun
    omega
  rcases hplace with ⟨hbeyond, hvalid⟩ | hkelvin
  · rw [toNat_ofNat_of_isValidChar hvalid]
    exact .inl hbeyond
  · rw [hkelvin]
    exact .inr rfl

/-- A character beyond ASCII has no ASCII character in its lower-case form but `i` and `k`. -/
theorem of_mem_lower_singleton {c d : Char} (hc : 128 ≤ c.toNat) (hd : d ∈ lower [c]) :
    128 ≤ d.toNat ∨ d = 'i' ∨ d = 'k' := by
  rw [lower_singleton] at hd
  split at hd
  · rw [List.mem_singleton.1 hd]
    decide
  -- Of the four ways to lower-case, the dotted capital gives an `i`, and the runs may give a `k`.
  unfold lowerChar at hd
  rw [if_neg (Nat.not_lt.2 hc)] at hd
  split at hd
  · rcases List.mem_cons.1 hd with rfl | hdot
    · decide
    · rw [List.mem_singleton.1 hdot]
      decide
  split at hd
  · next run hrun =>
    have hcovers := List.find?_some hrun
    rw [List.mem_singleton.1 hd]
    exact (form_of_covers (List.mem_of_find?_eq_some hrun) hcovers).imp_right .inr
  · rw [List.mem_singleton.1 hd]
    exact .inl hc

/-- No character is lost. -/
theorem lower_singleton_ne_nil (c : Char) : lower [c] ≠ [] := by
  rw [lower_singleton]
  split
  · exact List.cons_ne_nil _ _
  unfold lowerChar
  split
  · exact List.cons_ne_nil _ _
  split
  · exact List.cons_ne_nil _ _
  split <;> exact List.cons_ne_nil _ _

/-- A phrase of ASCII characters other than `i` and `k` cannot tell lower-casing of a character from
folding. -/
theorem alike_lower_fold (h : ∀ c ∈ phrase, c.toNat < 128 ∧ c ≠ 'i' ∧ c ≠ 'k') (c : Char) :
    Alike phrase (lower [c]) [c.toLower] := by
  by_cases hc : c.toNat < 128
  · have hsmall : c ≠ 'Σ' := by
      rintro rfl
      exact absurd hc (by decide)
    rw [lower_singleton, if_neg hsmall, lowerChar, if_pos hc]
    exact .inl rfl
  · -- The phrase reaches into no form of a character beyond ASCII.
    have hbeyond : 128 ≤ c.toNat := Nat.not_lt.1 hc
    have hkept : c.toLower = c := by
      rcases toLower_eq_or c with hkept | ⟨n, rfl⟩
      · exact hkept
      · exact absurd hbeyond (by decide +revert)
    have hform : ∀ d ∈ lower [c], d ∉ phrase := by
      intro d hd hin
      obtain ⟨hascii, hi, hk⟩ := h d hin
      rcases of_mem_lower_singleton hbeyond hd with hd' | rfl | rfl
      · exact absurd hascii (Nat.not_lt.2 hd')
      · exact hi rfl
      · exact hk rfl
    rw [hkept]
    refine .inr ⟨⟨lower_singleton_ne_nil c, hform⟩, List.cons_ne_nil c [], fun d hd hin => ?_⟩
    rw [List.mem_singleton.1 hd] at hin
    exact hc (h c hin).1

/-- So it is found in a lower-cased text exactly if it is found in the folded one. -/
theorem infix_lower_iff_fold (h : ∀ c ∈ phrase, c.toNat < 128 ∧ c ≠ 'i' ∧ c ≠ 'k') :
    phrase <:+: lower text ↔ phrase <:+: foldAscii text := by
  have hsigma : 'σ' ∉ phrase ∧ 'ς' ∉ phrase :=
    ⟨fun hin => absurd (h _ hin).1 (by decide), fun hin => absurd (h _ hin).1 (by decide)⟩
  -- One by one, the phrase cannot tell the characters of the two texts from each other.
  have halike : List.Forall₂ (Alike phrase) (text.map fun c => lower [c])
      (text.map fun c => [c.toLower]) := by
    rw [List.forall₂_map_left_iff, List.forall₂_map_right_iff, List.forall₂_same]
    exact fun c _ => alike_lower_fold h c
  have hsame := infix_flatten_iff halike
  have hfold : (text.map fun c => [c.toLower]).flatten = foldAscii text := by
    rw [← List.flatMap_def, foldAscii, List.map_eq_flatMap]
  rw [hfold, ← List.flatMap_def] at hsame
  rw [infix_lower_iff hsigma, hsame]

end

end Text

/-- The place of a verdict in the order of the rules. -/
def Verdict.rank (verdict : Verdict) : Nat :=
  Verdict.all.idxOf verdict

/-- What no rule knows comes last. -/
theorem Verdict.rank_le_unknown (verdict : Verdict) : verdict.rank ≤ Verdict.unknown.rank := by
  cases verdict <;> decide

/-- Nothing comes before a missing resource. -/
theorem Verdict.eq_of_rank_le_resourceMissing {verdict : Verdict} :
    verdict.rank ≤ Verdict.resourceMissing.rank → verdict = .resourceMissing := by
  cases verdict <;> decide

/-- Only a missing resource comes before one that differs. -/
theorem Verdict.eq_or_of_rank_le_resourceDrift {verdict : Verdict} :
    verdict.rank ≤ Verdict.resourceDrift.rank →
      verdict = .resourceMissing ∨ verdict = .resourceDrift := by
  cases verdict <;> decide

namespace Message

open Text

/-! ## Rules -/

/-- The rules stand in the order of their verdicts. -/
theorem pairwise_rules :
    rules.Pairwise fun rule later => rule.verdict.rank < later.verdict.rank := by
  decide

/-- No phrase has a sigma. -/
theorem sigma_not_mem_phrase : ∀ rule ∈ rules, ∀ phrase ∈ rule.phrases,
    'σ' ∉ phrase.toList ∧ 'ς' ∉ phrase.toList := by
  decide +kernel

/-- A rule that a part of a text satisfies is satisfied by the whole. -/
theorem Rule.matches_of_infix {rule : Rule} (hrule : rule ∈ rules) {part text : List Char}
    (hpart : part <:+: text) (h : rule.matches (lower part) = true) :
    rule.matches (lower text) = true := by
  obtain ⟨phrase, hphrase, hoccurs⟩ := List.any_eq_true.1 h
  refine List.any_eq_true.2 ⟨phrase, hphrase, occurs_iff.2 ?_⟩
  exact infix_lower_of_infix (sigma_not_mem_phrase rule hrule phrase hphrase) hpart
    (occurs_iff.1 hoccurs)

/-- The verdict on a message is not later than that of any rule that it satisfies. -/
theorem rank_verdict_le {rule : Rule} (hrule : rule ∈ rules) {message : String}
    (h : rule.matches (lower message.toList) = true) :
    (verdict message).rank ≤ rule.verdict.rank := by
  have hmem : rule ∈ rulesMatching message := List.mem_filter.2 ⟨hrule, h⟩
  have horder : (rulesMatching message).Pairwise
      fun rule later => rule.verdict.rank < later.verdict.rank :=
    pairwise_rules.sublist List.filter_sublist
  rw [verdict_eq_head_rulesMatching]
  -- The satisfied rules are still in order, and the first of them decides.
  cases hmatching : rulesMatching message with
  | nil =>
    rw [hmatching] at hmem
    cases hmem
  | cons first later =>
    rw [hmatching] at hmem horder
    rcases List.mem_cons.1 hmem with rfl | hlater
    · exact Nat.le_refl _
    · exact Nat.le_of_lt ((List.pairwise_cons.1 horder).1 rule hlater)

/-- The verdict is that of a rule which the message satisfies, unless no rule knows it. -/
theorem verdict_eq_or (message : String) : verdict message = .unknown ∨
    ∃ rule ∈ rules,
      rule.matches (lower message.toList) = true ∧ verdict message = rule.verdict := by
  rw [verdict_eq_head_rulesMatching]
  cases hmatching : rulesMatching message with
  | nil => exact .inl rfl
  | cons rule later =>
    have hmem : rule ∈ rulesMatching message := hmatching ▸ List.mem_cons_self
    obtain ⟨hrule, hmatches⟩ := List.mem_filter.1 hmem
    exact .inr ⟨rule, hrule, hmatches, rfl⟩

/-- More text moves the verdict up in the order, or leaves it where it is. -/
theorem rank_verdict_le_of_infix {part message : String}
    (h : part.toList <:+: message.toList) : (verdict message).rank ≤ (verdict part).rank := by
  -- The rule that decides on the part is satisfied by the whole.
  rcases verdict_eq_or part with hunknown | ⟨rule, hrule, hmatches, hverdict⟩
  · rw [hunknown]
    exact Verdict.rank_le_unknown _
  · rw [hverdict]
    exact rank_verdict_le hrule (Rule.matches_of_infix hrule h hmatches)

/-! ## Phrases in any letter case -/

/-- That a message has a phrase in it, in any case of its ASCII letters. -/
def Mentions (message phrase : String) : Prop :=
  ∃ front written back, message = front ++ written ++ back ∧
    sameUpToAsciiCase written phrase = true

/-- A message mentions a phrase if the folded one has the folded phrase in it. -/
theorem mentions_iff {message phrase : String} :
    Mentions message phrase ↔ foldAscii phrase.toList <:+: foldAscii message.toList := by
  constructor
  · rintro ⟨front, written, back, rfl, hsame⟩
    have hfold : foldAscii written.toList = foldAscii phrase.toList := of_decide_eq_true hsame
    rw [← hfold, String.toList_append, String.toList_append]
    exact ⟨foldAscii front.toList, foldAscii back.toList, by simp only [foldAscii, List.map_append]⟩
  -- Folding keeps the length, so that the folded phrase lies over a text of the message.
  · rintro ⟨front, back, hfold⟩
    obtain ⟨start, rest, htext, hstart, hrest⟩ := List.map_eq_append_iff.1 hfold.symm
    obtain ⟨head, written, rfl, hhead, hwritten⟩ := List.map_eq_append_iff.1 hstart
    refine ⟨String.ofList head, String.ofList written, String.ofList rest, ?_, ?_⟩
    · rw [← String.ofList_append, ← String.ofList_append, ← htext, String.ofList_toList]
    · rw [sameUpToAsciiCase, String.toList_ofList, foldAscii, hwritten]
      exact decide_eq_true rfl

/-- Phrases are written in small letters, which lower-casing leaves as they are. -/
theorem kept_phrase : ∀ rule ∈ rules, ∀ phrase ∈ rule.phrases,
    foldAscii phrase.toList = phrase.toList ∧
      phrase.toList.all (fun c => c ≠ 'Σ' ∧ lowerChar c = [c]) = true := by
  decide +kernel

/-- A rule is satisfied by a message that has one of its phrases in any letter case. -/
theorem Rule.matches_of_mentions {rule : Rule} (hrule : rule ∈ rules) {message phrase : String}
    (hphrase : phrase ∈ rule.phrases) (h : Mentions message phrase) :
    rule.matches (lower message.toList) = true := by
  obtain ⟨hfold, hall⟩ := kept_phrase rule hrule phrase hphrase
  have hfolded := mentions_iff.1 h
  rw [hfold] at hfolded
  have hlower := infix_lower (forall_mem_of_all hall) hfolded
  rw [lower_foldAscii] at hlower
  exact List.any_eq_true.2 ⟨phrase, hphrase, occurs_iff.2 hlower⟩

/-- A message that mentions a phrase of a rule gets the verdict of that rule or an earlier one. -/
theorem rank_verdict_le_of_mentions {message phrase : String} {raised : Verdict}
    (hrule : ∃ rule ∈ rules, rule.verdict = raised ∧ phrase ∈ rule.phrases)
    (h : Mentions message phrase) : (verdict message).rank ≤ raised.rank := by
  obtain ⟨rule, hmem, rfl, hphrase⟩ := hrule
  exact rank_verdict_le hmem (Rule.matches_of_mentions hmem hphrase h)

/-- A resource is missing exactly if the message says so in any letter case. -/
theorem verdict_eq_resourceMissing_iff {message : String} :
    verdict message = .resourceMissing ↔ Mentions message "not found" := by
  constructor
  · intro hmissing
    -- The rule of this verdict has this one phrase, without an `i` or a `k` in it.
    have honly : ∀ rule ∈ rules,
        rule.verdict = .resourceMissing → rule.phrases = ["not found"] := by
      decide
    have hplain : "not found".toList.all (fun c => c.toNat < 128 ∧ c ≠ 'i' ∧ c ≠ 'k') = true := by
      decide
    rcases verdict_eq_or message with hunknown | ⟨rule, hrule, hmatches, hverdict⟩
    · rw [hmissing] at hunknown
      cases hunknown
    · obtain ⟨phrase, hphrase, hoccurs⟩ := List.any_eq_true.1 hmatches
      rw [honly rule hrule (hverdict.symm.trans hmissing), List.mem_singleton] at hphrase
      rw [hphrase, occurs_iff, infix_lower_iff_fold (forall_mem_of_all hplain)] at hoccurs
      exact mentions_iff.2 hoccurs
  · intro hmentions
    exact Verdict.eq_of_rank_le_resourceMissing (rank_verdict_le_of_mentions (by decide) hmentions)

/-- Otherwise it differs from what is wanted if the message says so. -/
theorem verdict_eq_resourceDrift {message : String} (hfound : ¬ Mentions message "not found")
    (hdrift : Mentions message "not as specified") : verdict message = .resourceDrift := by
  have hle : (verdict message).rank ≤ Verdict.resourceDrift.rank :=
    rank_verdict_le_of_mentions (by decide) hdrift
  rcases Verdict.eq_or_of_rank_le_resourceDrift hle with hmissing | hdrift
  · exact absurd (verdict_eq_resourceMissing_iff.1 hmissing) hfound
  · exact hdrift

/-- Text around a message does not move the verdict to a later place in the order of the rules, and
the case of ASCII letters does not move it at all. In particular, a resource is missing exactly if
the message says in any letter case that it was not found, whatever else is said; otherwise it
differs from what is wanted if the message says so. -/
theorem verdict_monotone :
    (∀ front message back : String,
      (verdict (front ++ message ++ back)).rank ≤ (verdict message).rank) ∧
      (∀ message other : String, sameUpToAsciiCase message other = true →
        verdict other = verdict message) ∧
      (∀ message, verdict message = .resourceMissing ↔ Mentions message "not found") ∧
      ∀ message, ¬ Mentions message "not found" → Mentions message "not as specified" →
        verdict message = .resourceDrift := by
  refine ⟨fun front message back => ?_, fun message other hsame => ?_,
    fun message => verdict_eq_resourceMissing_iff, fun message => verdict_eq_resourceDrift⟩
  · refine rank_verdict_le_of_infix ⟨front.toList, back.toList, ?_⟩
    rw [String.toList_append, String.toList_append]
  · unfold verdict
    rw [lower_eq_of_sameUpToAsciiCase hsame]

/-- A sigma at the end of a message ends no word any more where letters follow. The verdict on the
whole is an earlier one, and the case of its ASCII letters is of no account. -/
theorem verdict_monotone_sigma :
    let message := "ΟΔΟΣ InstallPlan ΟΔΟΣ"
    let whole := "Α" ++ message ++ "Α Not As SPECIFIED"
    let other := "ΟΔΟΣ iNSTALLpLAN ΟΔΟΣ"
    (verdict whole).rank ≤ (verdict message).rank ∧ verdict message = .olmStuck ∧
      sameUpToAsciiCase message other = true ∧ verdict other = verdict message ∧
      ¬ Mentions whole "not found" ∧ Mentions whole "not as specified" ∧
      verdict whole = .resourceDrift ∧
      Mentions "Operator NOT Found" "not found" ∧
      verdict "Operator NOT Found" = .resourceMissing := by
  intro message whole other
  obtain ⟨hwhole, hother, hmissing, hdrift⟩ := verdict_monotone
  have hsame : sameUpToAsciiCase message other = true := by decide +kernel
  have hfound : ¬ Mentions whole "not found" := by
    rw [mentions_iff, ← occurs_iff]
    decide +kernel
  have hspecified : Mentions whole "not as specified" :=
    ⟨"ΑΟΔΟΣ InstallPlan ΟΔΟΣΑ ", "Not As SPECIFIED", "", by decide, by decide +kernel⟩
  have hmentions : Mentions "Operator NOT Found" "not found" :=
    ⟨"Operator ", "NOT Found", "", by decide, by decide +kernel⟩
  exact ⟨hwhole "Α" message "Α Not As SPECIFIED", by decide +kernel, hsame,
    hother message other hsame, hfound, hspecified, hdrift whole hfound hspecified, hmentions,
    (hmissing _).2 hmentions⟩

end Message

end ComplianceTriage
