/-!
# First occurrences

Status messages are free text, and everything that is read out of them is found by its first
occurrence: the text after a phrase, the name between two brackets, the token before a blank. This
file cuts a text at the first occurrence of a mark. `splitFirst?_eq_some` says that nothing is lost
in the cut, and `occurs_iff` that a mark is found exactly when it is a contiguous part of the text.
-/

namespace ComplianceTriage.Text

/-- What follows `mark` in a text that starts with it. -/
def dropStart? : List Char → List Char → Option (List Char)
  | [], text => some text
  | _ :: _, [] => none
  | m :: mark, c :: text => if m = c then dropStart? mark text else none

/-- A text has `rest` after `mark` at its start exactly when it is the two joined. -/
theorem dropStart?_eq_some {mark text rest : List Char} :
    dropStart? mark text = some rest ↔ text = mark ++ rest := by
  fun_induction dropStart? mark text with
  | case1 => simp [eq_comm]
  | case2 => simp
  | case3 m mark text ih => simp [ih]
  | case4 m mark c text h => simp [Ne.symm h]

/-- The parts of a text before and after the first occurrence of `mark`. -/
def splitFirst? (mark : List Char) : List Char → Option (List Char × List Char)
  | [] => (dropStart? mark []).map fun rest => ([], rest)
  -- The mark may start here, or later.
  | c :: text =>
    match dropStart? mark (c :: text) with
    | some rest => some ([], rest)
    | none => (splitFirst? mark text).map fun parts => (c :: parts.1, parts.2)

/-- The cut loses nothing: the parts and the mark between them are the text. -/
theorem splitFirst?_eq_some {mark text before after : List Char}
    (h : splitFirst? mark text = some (before, after)) : text = before ++ mark ++ after := by
  induction text generalizing before with
  | nil =>
    obtain ⟨rest, hrest, heq⟩ := Option.map_eq_some_iff.1 h
    cases heq
    simpa using dropStart?_eq_some.1 hrest
  | cons c text ih =>
    rw [splitFirst?] at h
    split at h
    -- The mark starts here, with nothing in front.
    · next rest hrest =>
      cases h
      simpa using dropStart?_eq_some.1 hrest
    · obtain ⟨⟨b, a⟩, hparts, heq⟩ := Option.map_eq_some_iff.1 h
      cases heq
      simp [ih hparts]

/-- Whether `mark` is a contiguous part of `text`. -/
def occurs (mark text : List Char) : Bool :=
  (splitFirst? mark text).isSome

/-- A mark is found exactly when it is a contiguous part of the text. -/
theorem occurs_iff {mark text : List Char} : occurs mark text = true ↔ mark <:+: text := by
  constructor
  · intro h
    obtain ⟨⟨before, after⟩, hparts⟩ := Option.isSome_iff_exists.1 h
    exact ⟨before, after, (splitFirst?_eq_some hparts).symm⟩
  · rintro ⟨before, after, rfl⟩
    -- The search stops at an occurrence, at the latest at the one that is given.
    induction before with
    | nil =>
      cases hmark : mark ++ after with
      | nil => simp_all [occurs, splitFirst?, dropStart?]
      | cons c text =>
        have := dropStart?_eq_some.2 hmark.symm
        simp [occurs, splitFirst?, hmark, this]
    | cons c before ih =>
      rw [List.append_assoc] at ih
      simp only [occurs, List.cons_append, List.append_assoc, splitFirst?] at ih ⊢
      split
      · rfl
      · simpa using ih

/-- A mark that is no part of the text cuts nothing. -/
theorem splitFirst?_eq_none {mark text : List Char} :
    splitFirst? mark text = none ↔ ¬ mark <:+: text := by
  rw [← occurs_iff, occurs, Option.not_isSome_iff_eq_none]

/-- No occurrence of the mark begins before the one that is cut at. -/
theorem splitFirst?_first {mark text before after before' after' : List Char}
    (h : splitFirst? mark text = some (before, after))
    (htext : text = before' ++ (mark ++ after')) : before.length ≤ before'.length := by
  induction text generalizing before before' with
  | nil =>
    have hnil := splitFirst?_eq_some h
    have hempty : before = [] := by simp_all
    rw [hempty]
    exact Nat.zero_le _
  | cons c text ih =>
    rw [splitFirst?] at h
    split at h
    · cases h
      exact Nat.zero_le _
    · next hstart =>
      obtain ⟨⟨b, a⟩, hparts, heq⟩ := Option.map_eq_some_iff.1 h
      cases heq
      cases before' with
      | nil =>
        -- The text would start with the mark.
        have hmark : c :: text = mark ++ after' := htext
        rw [dropStart?_eq_some.2 hmark] at hstart
        cases hstart
      | cons c' before' => exact Nat.succ_le_succ (ih hparts (List.cons.inj htext).2)

/-- The cut is made at the first occurrence of the mark. -/
theorem splitFirst?_eq_some_iff {mark text before after : List Char} :
    splitFirst? mark text = some (before, after) ↔
      text = before ++ (mark ++ after) ∧
        ∀ before' after', text = before' ++ (mark ++ after') → before.length ≤ before'.length := by
  constructor
  · intro h
    have htext : text = before ++ (mark ++ after) := by
      rw [splitFirst?_eq_some h, List.append_assoc]
    exact ⟨htext, fun before' after' htext' => splitFirst?_first h htext'⟩
  · rintro ⟨htext, hfirst⟩
    have hoccurs : occurs mark text = true :=
      occurs_iff.2 ⟨before, after, by rw [htext, List.append_assoc]⟩
    obtain ⟨⟨b, a⟩, hcut⟩ := Option.isSome_iff_exists.1 hoccurs
    -- The two occurrences begin at one place, since neither begins before the other.
    have hcut' : text = b ++ (mark ++ a) := by rw [splitFirst?_eq_some hcut, List.append_assoc]
    have hle : b.length ≤ before.length := splitFirst?_first hcut htext
    have hge : before.length ≤ b.length := hfirst b a hcut'
    obtain ⟨rfl, hrest⟩ := List.append_inj (hcut'.symm.trans htext) (Nat.le_antisymm hle hge)
    rw [hcut, List.append_cancel_left hrest]

/-- A mark whose first character does not come again in it is found where it was put, if it does not
occur before. -/
theorem splitFirst?_append {m : Char} {mark front : List Char} (hm : m ∉ mark)
    (h : ¬ (m :: mark) <:+: front) (back : List Char) :
    splitFirst? (m :: mark) (front ++ (m :: mark ++ back)) = some (front, back) := by
  induction front with
  | nil =>
    have hstart := dropStart?_eq_some.2 (rfl : m :: mark ++ back = m :: mark ++ back)
    rw [List.nil_append]
    rw [List.cons_append] at hstart ⊢
    rw [splitFirst?, hstart]
  | cons c front ih =>
    have hnone : dropStart? (m :: mark) (c :: front ++ (m :: mark ++ back)) = none := by
      rw [Option.eq_none_iff_forall_ne_some]
      intro rest hrest
      -- An occurrence here would lie in front of the mark, or the mark would begin inside it.
      rcases List.append_eq_append_iff.1 (dropStart?_eq_some.1 hrest) with
        ⟨overlap, hmark, hback⟩ | ⟨gap, hfront, -⟩
      · cases overlap with
        | nil => exact h ⟨[], [], by simpa using hmark⟩
        | cons o overlap =>
          have ho : m = o := by
            rw [List.cons_append, List.cons_append] at hback
            exact (List.cons.inj hback).1
          have hmem : o ∈ mark := by
            rw [(List.cons.inj hmark).2]
            exact List.mem_append_right front List.mem_cons_self
          exact hm (ho ▸ hmem)
      · exact h ⟨[], gap, hfront.symm⟩
    have hrest : ¬ (m :: mark) <:+: front := fun hin => h (List.infix_cons hin)
    rw [List.cons_append] at hnone ⊢
    rw [splitFirst?, hnone, ih hrest]
    rfl

/-- The text before the first character of the class `stop`. -/
def before (stop : Char → Bool) (text : List Char) : List Char :=
  text.takeWhile fun c => !stop c

/-- The text from the first character of the class `stop` on. -/
def since (stop : Char → Bool) (text : List Char) : List Char :=
  text.dropWhile fun c => !stop c

/-- Nothing is lost between the two parts. -/
theorem before_append_since (stop : Char → Bool) (text : List Char) :
    before stop text ++ since stop text = text :=
  List.takeWhile_append_dropWhile

/-- What stands before the first character of the class is the start of the text. -/
theorem before_isPrefix (stop : Char → Bool) (text : List Char) : before stop text <+: text :=
  List.takeWhile_prefix _

/-- Before the first character of the class is what has none of them, if one follows at once. -/
theorem before_append {stop : Char → Bool} {text rest : List Char}
    (htext : ∀ c ∈ text, stop c = false) (hrest : ∀ c ∈ rest.head?, stop c = true) :
    before stop (text ++ rest) = text := by
  have hnone : rest.takeWhile (fun c => !stop c) = [] := by
    cases rest with
    | nil => rfl
    | cons c rest => simp [hrest c rfl]
  unfold before
  rw [List.takeWhile_append_of_pos (by simpa using htext), hnone, List.append_nil]

/-- What stands before the first character of a class has none of the class. -/
theorem not_of_mem_before {stop : Char → Bool} {text : List Char} {c : Char}
    (h : c ∈ before stop text) : stop c = false := by
  have hall := List.all_eq_true.1 (List.all_takeWhile (p := fun c => !stop c) (l := text)) c h
  simpa using hall

/-- What follows starts at the first character of the class. -/
theorem since_append {stop : Char → Bool} {text rest : List Char}
    (htext : ∀ c ∈ text, stop c = false) (hrest : ∀ c ∈ rest.head?, stop c = true) :
    since stop (text ++ rest) = rest := by
  have hparts := before_append_since stop (text ++ rest)
  rw [before_append htext hrest] at hparts
  exact List.append_cancel_left hparts

/-- The first character of a text that is `mark` is found behind what has none. -/
theorem cut_append_cons {mark : Char} {text : List Char} (h : mark ∉ text) (rest : List Char) :
    before (· = mark) (text ++ mark :: rest) = text ∧
      since (· = mark) (text ++ mark :: rest) = mark :: rest := by
  have htext : ∀ c ∈ text, decide (c = mark) = false := by
    intro c hc
    rw [decide_eq_false_iff_not]
    rintro rfl
    exact h hc
  have hrest : ∀ c ∈ (mark :: rest).head?, decide (c = mark) = true := by
    rintro _ ⟨⟩
    exact decide_eq_true rfl
  exact ⟨before_append htext hrest, since_append htext hrest⟩

/-- The parts of a text before and after the first `mark` character. -/
def splitAtChar? (mark : Char) : List Char → Option (List Char × List Char)
  | [] => none
  | c :: text =>
    if c = mark then some ([], text)
    else (splitAtChar? mark text).map fun parts => (c :: parts.1, parts.2)

/-- The cut at a character finds it where it first stands. -/
theorem splitAtChar?_eq_some {mark : Char} {text before after : List Char} :
    splitAtChar? mark text = some (before, after) ↔
      text = before ++ mark :: after ∧ mark ∉ before := by
  induction text generalizing before after with
  | nil => simp [splitAtChar?]
  | cons c text ih =>
    rw [splitAtChar?]
    -- The first character is the mark, or it is that of the front.
    by_cases h : c = mark
    · subst h
      cases before with
      | nil => simp
      -- The front would begin with the mark.
      | cons b before =>
        simp only [if_true, Option.some.injEq, Prod.mk.injEq, List.nil_eq, reduceCtorEq,
          false_and, List.cons_append, List.cons.injEq, List.mem_cons, not_or, false_iff]
        intro h
        exact h.2.1 h.1.1
    · cases before with
      | nil => simp [h]
      | cons b before =>
        simp only [h, if_false, Option.map_eq_some_iff, Prod.mk.injEq, List.cons.injEq,
          Prod.exists, ih, List.cons_append, List.mem_cons, not_or]
        constructor
        · rintro ⟨x, y, ⟨rfl, hx⟩, ⟨rfl, rfl⟩, rfl⟩
          exact ⟨⟨rfl, rfl⟩, fun e => h e.symm, hx⟩
        · rintro ⟨⟨rfl, rfl⟩, -, hx⟩
          exact ⟨before, after, ⟨rfl, hx⟩, ⟨rfl, rfl⟩, rfl⟩

/-- A character that does not occur cuts nothing. -/
theorem splitAtChar?_eq_none {mark : Char} {text : List Char} :
    splitAtChar? mark text = none ↔ mark ∉ text := by
  induction text with
  | nil => simp [splitAtChar?]
  | cons c text ih =>
    rw [splitAtChar?]
    by_cases h : c = mark
    · simp [h]
    · simp [h, ih, Ne.symm h]

end ComplianceTriage.Text
