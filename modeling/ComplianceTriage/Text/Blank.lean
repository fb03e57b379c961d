/-!
# Blanks

A blank is a character of the Unicode class White_Space. Texts are trimmed of blanks, and tokens end
at them; the narrower class of space and tab ends the first word of a message.
-/

namespace ComplianceTriage.Text

/-- The characters of the Unicode class White_Space. -/
def isBlank (c : Char) : Bool :=
  let n := c.toNat
  (9 ≤ n && n ≤ 13) || n = 0x20 || n = 0x85 || n = 0xA0 || n = 0x1680 ||
    (0x2000 ≤ n && n ≤ 0x200A) || n = 0x2028 || n = 0x2029 || n = 0x202F || n = 0x205F ||
    n = 0x3000

/-- The space and the tab. -/
def isSpaceOrTab (c : Char) : Bool :=
  c = ' ' || c = '\t'

/-- What is no blank is neither a space nor a tab. -/
theorem isSpaceOrTab_of_not_isBlank {c : Char} (h : isBlank c = false) :
    isSpaceOrTab c = false := by
  rw [isSpaceOrTab, Bool.or_eq_false_iff, decide_eq_false_iff_not, decide_eq_false_iff_not]
  refine ⟨?_, ?_⟩ <;> rintro rfl <;> cases h

/-- The text without the blanks it starts with. -/
def trimStart (text : List Char) : List Char :=
  text.dropWhile isBlank

/-- The text without the blanks it ends with. -/
def trimEnd (text : List Char) : List Char :=
  (text.reverse.dropWhile isBlank).reverse

/-- The text without the blanks it starts or ends with. -/
def trim (text : List Char) : List Char :=
  trimEnd (trimStart text)

/-- What holds of each character of a text is found out by going through it. -/
theorem forall_mem_of_all {test : Char → Prop} [DecidablePred test] {text : List Char}
    (h : text.all (fun c => test c) = true) : ∀ c ∈ text, test c :=
  fun c hc => of_decide_eq_true (List.all_eq_true.1 h c hc)

/-- What is not dropped at the start is kept. -/
theorem mem_dropWhile {drops : Char → Bool} {c : Char} {text : List Char} (h : c ∈ text)
    (hc : drops c = false) : c ∈ text.dropWhile drops := by
  induction text with
  | nil => cases h
  | cons first rest ih =>
    cases hfirst : drops first with
    | false => rwa [List.dropWhile_cons, hfirst]
    | true =>
      rw [List.dropWhile_cons, hfirst, if_pos rfl]
      -- The first character is dropped, and so it is not the one that is kept.
      rcases List.mem_cons.1 h with rfl | hrest
      · rw [hc] at hfirst
        cases hfirst
      · exact ih hrest

/-- A character that is no blank is not trimmed. -/
theorem mem_trim {c : Char} {text : List Char} (h : c ∈ text) (hc : isBlank c = false) :
    c ∈ trim text := by
  unfold trim trimEnd trimStart
  rw [List.mem_reverse]
  exact mem_dropWhile (List.mem_reverse.2 (mem_dropWhile h hc)) hc

/-- What is left in front of the blanks at the end is a start of the text. -/
theorem trimEnd_isPrefix (text : List Char) : trimEnd text <+: text := by
  rw [trimEnd, ← List.reverse_suffix, List.reverse_reverse]
  exact List.dropWhile_suffix _

/-- A text does not begin otherwise for what is trimmed at its end. -/
theorem mem_head?_of_trimEnd {c : Char} {text : List Char} (h : c ∈ (trimEnd text).head?) :
    c ∈ text.head? := by
  obtain ⟨blanks, hblanks⟩ := trimEnd_isPrefix text
  rw [← hblanks, List.head?_append, h]
  rfl

/-- What is left of a text is a part of it. -/
theorem trim_isInfix (text : List Char) : trim text <:+: text :=
  (trimEnd_isPrefix (trimStart text)).isInfix.trans (List.dropWhile_suffix _).isInfix

/-- At the start of a text nothing is trimmed from its first character on that is no blank. -/
theorem trimStart_append_cons {c : Char} (hc : isBlank c = false) (front back : List Char) :
    trimStart (front ++ c :: back) = trimStart front ++ c :: back := by
  have hkept : (c :: back).dropWhile isBlank = c :: back := by
    rw [List.dropWhile_cons, hc]
    rfl
  unfold trimStart
  rw [List.dropWhile_append, hkept]
  cases front.dropWhile isBlank with
  | nil => rfl
  | cons b rest => rfl

/-- At the end of a text nothing is trimmed up to its last character that is no blank. -/
theorem trimEnd_append_cons {c : Char} (hc : isBlank c = false) (front back : List Char) :
    trimEnd (front ++ c :: back) = front ++ c :: trimEnd back := by
  have hkept : (c :: front.reverse).dropWhile isBlank = c :: front.reverse := by
    rw [List.dropWhile_cons, hc]
    rfl
  -- Back to front, the blanks are dropped down to the character, at which the dropping stops.
  unfold trimEnd
  rw [List.reverse_append, List.reverse_cons, List.append_assoc, List.singleton_append,
    List.dropWhile_append, hkept]
  cases back.reverse.dropWhile isBlank with
  | nil => simp
  | cons b blanks => simp

/-- A text that neither starts nor ends with a blank. -/
structure Trimmed (text : List Char) : Prop where
  head : ∀ c ∈ text.head?, isBlank c = false
  last : ∀ c ∈ text.getLast?, isBlank c = false

/-- Nothing is trimmed in front of such a text, whatever follows it. -/
theorem Trimmed.trimStart_append {text : List Char} (h : Trimmed text) (hne : text ≠ [])
    (rest : List Char) : trimStart (text ++ rest) = text ++ rest := by
  cases text with
  | nil => exact absurd rfl hne
  | cons c text =>
    have hc : isBlank c = false := h.head c rfl
    rw [trimStart, List.cons_append, List.dropWhile_cons, hc]
    rfl

/-- Only what follows such a text is trimmed at the end. -/
theorem Trimmed.trimEnd_append {text : List Char} (h : Trimmed text) (hne : text ≠ [])
    (front back : List Char) :
    trimEnd (front ++ (text ++ back)) = front ++ (text ++ trimEnd back) := by
  have hc : isBlank (text.getLast hne) = false := h.last _ (List.getLast_mem_getLast? hne)
  -- The last character of the text is where the trimming from behind stops.
  have hsplit : ∀ rest, front ++ (text ++ rest) =
      front ++ text.dropLast ++ text.getLast hne :: rest := by
    intro rest
    rw [List.append_cons, List.append_assoc front, List.dropLast_concat_getLast,
      List.append_assoc]
  rw [hsplit, trimEnd_append_cons hc, hsplit]

/-- The blanks around such a text are trimmed, and no more. -/
theorem Trimmed.trim_append {text blanks : List Char} (h : Trimmed text) (hne : text ≠ [])
    (hblanks : trimEnd blanks = []) : trim (text ++ blanks) = text := by
  have hend := h.trimEnd_append hne [] blanks
  rw [List.nil_append, List.nil_append, hblanks, List.append_nil] at hend
  rw [trim, h.trimStart_append hne, hend]

/-- What is trimmed at the end of a text are blanks. -/
theorem exists_trimEnd_append (text : List Char) :
    ∃ blanks, text = trimEnd text ++ blanks ∧ ∀ c ∈ blanks, isBlank c = true := by
  refine ⟨(text.reverse.takeWhile isBlank).reverse, ?_, fun c hc => ?_⟩
  · rw [trimEnd, ← List.reverse_append, List.takeWhile_append_dropWhile, List.reverse_reverse]
  · exact List.all_eq_true.1 (List.all_takeWhile (l := text.reverse)) c (List.mem_reverse.1 hc)

/-- A text without blanks is trimmed. -/
theorem trimmed_of_solid {text : List Char} (h : ∀ c ∈ text, isBlank c = false) : Trimmed text where
  head c hc := h c (List.mem_of_head? hc)
  last c hc := h c (List.mem_of_getLast? hc)

/-- No character is dropped that is not to be. -/
theorem mem_head?_dropWhile {drops : Char → Bool} {c : Char} {text : List Char}
    (h : c ∈ (text.dropWhile drops).head?) : drops c = false := by
  have hhead := List.head?_dropWhile_not drops text
  rw [h] at hhead
  exact hhead

/-- What is left of a text neither starts nor ends with a blank. -/
theorem trimmed_trim (text : List Char) : Trimmed (trim text) where
  head _ hc := mem_head?_dropWhile (mem_head?_of_trimEnd hc)
  last c hc := by
    rw [trim, trimEnd, List.getLast?_reverse] at hc
    exact mem_head?_dropWhile hc

/-- Nothing is left of a text of blanks. -/
theorem trim_eq_nil {text : List Char} (h : ∀ c ∈ text, isBlank c = true) : trim text = [] := by
  cases hleft : trim text with
  | nil => rfl
  | cons c rest =>
    -- A character that is left would be a blank, and none of these starts what is left.
    have hmem : c ∈ trim text := hleft ▸ List.mem_cons_self
    have hkept : isBlank c = false := (trimmed_trim text).head c (by rw [hleft]; rfl)
    rw [h c ((trim_isInfix text).subset hmem)] at hkept
    cases hkept

/-- The text without the characters of `class` that it starts or ends with. -/
def trimOf (drops : Char → Bool) (text : List Char) : List Char :=
  ((text.dropWhile drops).reverse.dropWhile drops).reverse

/-- What is left of a text is a part of it, whatever is dropped at its ends. -/
theorem trimOf_isInfix (drops : Char → Bool) (text : List Char) : trimOf drops text <:+: text := by
  have hend : trimOf drops text <+: text.dropWhile drops := by
    rw [trimOf, ← List.reverse_suffix, List.reverse_reverse]
    exact List.dropWhile_suffix _
  exact hend.isInfix.trans (List.dropWhile_suffix _).isInfix

end ComplianceTriage.Text
