import ComplianceTriage.Message.Verdict
import ComplianceTriage.Text.Blank
import ComplianceTriage.Text.Lower

/-!
# The case of ASCII letters

Texts are compared in two ways: by folding ASCII, and by lower-casing all of Unicode. The first is
finer. Lower-casing looks at the letters around a capital sigma, but what it looks for is whether
they have case and whether they stand inside a word, and in this a capital letter of ASCII is like
its small one. So lower-casing does not see the fold (`lower_foldAscii`), and kinds that are the
same up to the case of ASCII letters agree loosely. A text of small letters and signs is left as it
is, whatever stands around it, and so it is found again in a lower-cased text (`infix_lower`). No
character has a blank for its lower-case form that is none itself (`any_isBlank_lower`).
-/

namespace ComplianceTriage

namespace Text

/-- Only the twenty-six capital letters of ASCII change when ASCII is folded. -/
theorem toLower_eq_or (c : Char) :
    c.toLower = c ∨ ∃ n : Fin 26, c = Char.ofNat (65 + n) := by
  unfold Char.toLower
  split
  -- A capital letter is told by its distance from `A`.
  · next h =>
    have hlow : 65 ≤ c.toNat := h.1
    have hhigh : c.toNat ≤ 90 := h.2
    refine .inr ⟨⟨c.toNat - 65, by omega⟩, ?_⟩
    rw [Nat.add_sub_cancel' hlow, Char.ofNat_toNat]
  · exact .inl rfl

/-- What does not tell the capital letters of ASCII from the small ones does not see the fold. -/
theorem apply_toLower {α : Type} {f : Char → α}
    (h : ∀ n : Fin 26, f (Char.ofNat (65 + n)).toLower = f (Char.ofNat (65 + n))) (c : Char) :
    f c.toLower = f c := by
  rcases toLower_eq_or c with hc | ⟨n, rfl⟩
  · rw [hc]
  · exact h n

/-! ## Characters -/

/-- A letter is cased in both cases. -/
theorem isCased_toLower (c : Char) : isCased c.toLower = isCased c :=
  apply_toLower (by decide) c

/-- Folding does not change which characters are passed over in looking for cased ones. -/
theorem isCaseIgnorable_toLower (c : Char) : isCaseIgnorable c.toLower = isCaseIgnorable c :=
  apply_toLower (by decide +kernel) c

/-- A folded character has the lower-case form of the character. -/
theorem lowerChar_toLower (c : Char) : lowerChar c.toLower = lowerChar c :=
  apply_toLower (by decide) c

/-- Folding leaves the capital sigma and makes no other character one. -/
theorem toLower_eq_sigma_iff (c : Char) : c.toLower = 'Σ' ↔ c = 'Σ' :=
  iff_of_eq (apply_toLower (f := fun c => c = 'Σ') (by decide) c)

/-! ## Texts -/

/-- The same characters are passed over in a folded text. -/
theorem dropWhile_foldAscii (text : List Char) :
    (foldAscii text).dropWhile isCaseIgnorable = foldAscii (text.dropWhile isCaseIgnorable) := by
  have hclass : isCaseIgnorable ∘ Char.toLower = isCaseIgnorable :=
    funext isCaseIgnorable_toLower
  rw [foldAscii, List.dropWhile_map, hclass, foldAscii]

/-- A word goes on behind a text as it does behind the folded one. -/
theorem startsCased_foldAscii (text : List Char) :
    startsCased (foldAscii text) = startsCased text := by
  unfold startsCased
  rw [dropWhile_foldAscii]
  cases text.dropWhile isCaseIgnorable with
  | nil => rfl
  | cons c rest => exact isCased_toLower c

/-- Folding changes neither the characters that a text adds nor where its words end. -/
theorem lowerAfter_foldAscii (reversedBefore text : List Char) :
    lowerAfter (foldAscii reversedBefore) (foldAscii text) = lowerAfter reversedBefore text := by
  -- The text before a capital sigma decides on its form, so what was read so far is kept general.
  induction text generalizing reversedBefore with
  | nil => rfl
  | cons c text ih =>
    have hrest := ih (c :: reversedBefore)
    have hends : endsWord (foldAscii reversedBefore) (foldAscii text) =
        endsWord reversedBefore text := by
      rw [endsWord, startsCased_foldAscii, startsCased_foldAscii, endsWord]
    simp only [foldAscii, List.map_cons] at hrest hends ⊢
    simp only [lowerAfter, hrest, hends, lowerChar_toLower, toLower_eq_sigma_iff]

/-- Lower-casing does not see the case of ASCII letters. -/
theorem lower_foldAscii (text : List Char) : lower (foldAscii text) = lower text :=
  lowerAfter_foldAscii [] text

/-- Lower-casing goes through a text from its start to its end. -/
theorem exists_lowerAfter_append (reversedBefore front back : List Char) :
    ∃ lowered, lowerAfter reversedBefore (front ++ back) =
      lowered ++ lowerAfter (front.reverse ++ reversedBefore) back := by
  induction front generalizing reversedBefore with
  | nil => exact ⟨[], rfl⟩
  | cons c front ih =>
    obtain ⟨lowered, hlowered⟩ := ih (c :: reversedBefore)
    rw [List.cons_append, lowerAfter, hlowered, List.reverse_cons, List.append_assoc,
      List.singleton_append, ← List.append_assoc]
    exact ⟨_, rfl⟩

/-- A text whose characters are their own lower-case forms is left as it is, whatever stands around
it. The capital sigma is none of them. -/
theorem lowerAfter_append_of_kept {kept : List Char} (h : ∀ c ∈ kept, c ≠ 'Σ' ∧ lowerChar c = [c])
    (reversedBefore back : List Char) : lowerAfter reversedBefore (kept ++ back) =
      kept ++ lowerAfter (kept.reverse ++ reversedBefore) back := by
  induction kept generalizing reversedBefore with
  | nil => rfl
  | cons c kept ih =>
    obtain ⟨hsigma, hform⟩ := h c List.mem_cons_self
    have hrest := ih (fun c hc => h c (List.mem_cons_of_mem _ hc)) (c :: reversedBefore)
    rw [List.cons_append, lowerAfter, hrest, if_neg hsigma, hform, List.reverse_cons,
      List.append_assoc]
    rfl

/-- Such a text is found in the lower-case form of a text that it is a part of. -/
theorem infix_lower {kept text : List Char} (hkept : ∀ c ∈ kept, c ≠ 'Σ' ∧ lowerChar c = [c])
    (h : kept <:+: text) : kept <:+: lower text := by
  obtain ⟨front, back, rfl⟩ := h
  -- What the front becomes depends on what follows it, and the kept text on neither.
  obtain ⟨lowered, hlowered⟩ := exists_lowerAfter_append [] front (kept ++ back)
  rw [lower, List.append_assoc, hlowered, lowerAfter_append_of_kept hkept, ← List.append_assoc]
  exact ⟨lowered, _, rfl⟩

/-- Texts that are the same up to the case of ASCII letters have one lower-case form. -/
theorem lower_eq_of_sameUpToAsciiCase {a b : String} (h : sameUpToAsciiCase a b = true) :
    lower a.toList = lower b.toList := by
  have hfold : foldAscii a.toList = foldAscii b.toList := of_decide_eq_true h
  rw [← lower_foldAscii a.toList, hfold, lower_foldAscii]

/-! ## Blanks -/

/-- The code points of the blanks. -/
def blankCodes : List Nat :=
  [9, 10, 11, 12, 13, 0x20, 0x85, 0xA0, 0x1680, 0x2000, 0x2001, 0x2002, 0x2003, 0x2004, 0x2005,
    0x2006, 0x2007, 0x2008, 0x2009, 0x200A, 0x2028, 0x2029, 0x202F, 0x205F, 0x3000]

/-- The blanks are the characters of these code points. -/
theorem isBlank_iff_mem_blankCodes {c : Char} : isBlank c = true ↔ c.toNat ∈ blankCodes := by
  simp only [isBlank, blankCodes, Bool.or_eq_true, Bool.and_eq_true, decide_eq_true_eq,
    List.mem_cons, List.not_mem_nil, or_false]
  constructor <;> omega

/-- No blank is in a run, and none is what a run leads to. -/
theorem caseRuns_blankless : ∀ run ∈ caseRuns, ∀ code ∈ blankCodes,
    run.covers code = false ∧ run.covers ((code : Int) - run.shift).toNat = false := by
  decide +kernel

/-- A character is made of its code point. -/
theorem toNat_ofNat_of_isValidChar {n : Nat} (h : n.isValidChar) : (Char.ofNat n).toNat = n := by
  unfold Char.ofNat
  rw [dif_pos h]
  rfl

/-- The code point of a blank is the one that it was made of. -/
theorem code_of_ofNat {n : Nat} (h : (Char.ofNat n).toNat ∈ blankCodes) :
    n ∈ blankCodes ∧ 0 < n := by
  have hpos : ∀ code ∈ blankCodes, 0 < code := by decide
  -- What is no code point makes the character zero, which is no blank.
  have hn : (Char.ofNat n).toNat = n := by
    by_cases hvalid : n.isValidChar
    · exact toNat_ofNat_of_isValidChar hvalid
    · have hzero : Char.ofNat n = Char.ofNat 0 := by
        unfold Char.ofNat
        rw [dif_neg hvalid]
        rfl
      rw [hzero] at h
      exact absurd h (by decide)
  rw [hn] at h
  exact ⟨h, hpos n h⟩

/-- Neither a character of a run nor its lower-case form is a blank. -/
theorem isBlank_of_covers {run : CaseRun} (hrun : run ∈ caseRuns) {c : Char}
    (hcovers : run.covers c.toNat = true) :
    isBlank c = false ∧ isBlank (Char.ofNat ((c.toNat : Int) + run.shift).toNat) = false := by
  simp only [Bool.eq_false_iff, Ne, isBlank_iff_mem_blankCodes]
  constructor
  · intro hcode
    rw [(caseRuns_blankless run hrun _ hcode).1] at hcovers
    cases hcovers
  · intro hform
    obtain ⟨hcode, hpos⟩ := code_of_ofNat hform
    -- The blank is `shift` code points further on, so the run covers what is as far before it.
    have hback : ((((c.toNat : Int) + run.shift).toNat : Int) - run.shift).toNat = c.toNat := by
      omega
    have hfree := (caseRuns_blankless run hrun _ hcode).2
    rw [hback, hcovers] at hfree
    cases hfree

/-- A lower-case form has a blank if the character is one. -/
theorem any_isBlank_lowerChar (c : Char) : (lowerChar c).any isBlank = isBlank c := by
  have hone : ∀ form : Char, [form].any isBlank = isBlank form := fun form => by
    rw [List.any_cons, List.any_nil, Bool.or_false]
  -- The four ways to lower-case: ASCII, the dotted capital, a run, and no change.
  unfold lowerChar
  split
  · rw [hone]
    exact apply_toLower (by decide) c
  split
  · next hdotted =>
    rw [hdotted]
    decide
  split
  · next run hrun =>
    have hcovers := List.find?_some hrun
    obtain ⟨hc, hform⟩ := isBlank_of_covers (List.mem_of_find?_eq_some hrun) hcovers
    rw [hone, hform, hc]
  · exact hone c

/-- Whatever stands in front, lower-casing neither makes nor removes blanks. -/
theorem any_isBlank_lowerAfter (reversedBefore text : List Char) :
    (lowerAfter reversedBefore text).any isBlank = text.any isBlank := by
  induction text generalizing reversedBefore with
  | nil => rfl
  | cons c text ih =>
    -- Either form of a sigma is a letter.
    have hform : (if c = 'Σ' then [if endsWord reversedBefore text then 'ς' else 'σ']
        else lowerChar c).any isBlank = isBlank c := by
      split
      · next h =>
        subst h
        split <;> decide
      · exact any_isBlank_lowerChar c
    rw [lowerAfter, List.any_append, ih, List.any_cons]
    exact congrArg (· || text.any isBlank) hform

/-- Lower-casing neither adds blanks to a text nor takes them all away. -/
theorem any_isBlank_lower (text : List Char) : (lower text).any isBlank = text.any isBlank :=
  any_isBlank_lowerAfter [] text

end Text

/-- Kinds that are the same up to the case of ASCII letters agree loosely. -/
theorem Kind.agreeLoosely_of_sameUpToAsciiCase {declared reported : String}
    (h : Text.sameUpToAsciiCase declared reported = true) :
    agreeLoosely declared reported = true := by
  unfold agreeLoosely
  rw [Text.lower_eq_of_sameUpToAsciiCase h]
  simp

end ComplianceTriage
