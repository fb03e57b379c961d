import ComplianceTriage.Proofs.LetterCase
import ComplianceTriage.Proofs.Readback
import ComplianceTriage.Proofs.UnservedKinds
import Mathlib.Data.List.TakeWhile

/-!
# Names and kinds of one token

A name in the shape `[kind] name …` and a kind in the shape `kind …` are words of a message: a space
or a tab ends them, and no other blank does. So a line break or a no-break space may come to stand
inside of them. `bracketed_name_iff` says exactly when the name is the first token behind the
bracket, and `kindFirst_kind` exactly when the kind is one token. Namespaces are ended by every
blank and never have one.

A kind in the shape `kind [name] …` is all that stands in front of the first bracket, also where
this is a description that happens to have a bracket in it. It is then more than one token, and so
is what the suggested call asks for.
-/

namespace ComplianceTriage

namespace Text

/-- That the first blank of a text, if it has one, is a space or a tab. -/
def BreaksAtSpace (text : List Char) : Prop :=
  ∀ c ∈ (since isBlank text).head?, isSpaceOrTab c = true

/-- The first token of a text: without the blanks around the text, what stands before the first
blank. -/
def firstToken (text : List Char) : List Char :=
  before isBlank (trim text)

/-- What starts at the first character of a class starts with one of the class. -/
theorem of_mem_head?_since {stop : Char → Bool} {text : List Char} {c : Char}
    (h : c ∈ (since stop text).head?) : stop c = true := by
  have hhead := mem_head?_dropWhile h
  simpa using hhead

section

variable {text : List Char}

/-- A token has no space and no tab. -/
theorem isSpaceOrTab_of_mem_token {c : Char} (h : c ∈ before isBlank text) :
    isSpaceOrTab c = false :=
  isSpaceOrTab_of_not_isBlank (not_of_mem_before h)

/-- Where the first blank is a space or a tab, the word that these end is a token. -/
theorem before_eq_of_breaksAtSpace (h : BreaksAtSpace text) :
    before isSpaceOrTab text = before isBlank text := by
  have hword := before_append (fun c (hc : c ∈ before isBlank text) =>
    isSpaceOrTab_of_mem_token hc) h
  rwa [before_append_since] at hword

/-- Where it is another blank, this stands inside the word. -/
theorem exists_blank_of_not_breaksAtSpace (h : ¬ BreaksAtSpace text) :
    ∃ c ∈ before isSpaceOrTab text, isBlank c = true := by
  unfold BreaksAtSpace at h
  push Not at h
  obtain ⟨c, hc, hother⟩ := h
  obtain ⟨rest, hrest⟩ := List.head?_eq_some_iff.1 hc
  refine ⟨c, ?_, of_mem_head?_since hc⟩
  -- The token in front of the blank has no space and no tab, and neither is the blank.
  have htext : text = before isBlank text ++ c :: rest := by
    rw [← hrest, before_append_since]
  have htoken : ∀ b ∈ before isBlank text, (!isSpaceOrTab b) = true := by
    intro b hb
    rw [isSpaceOrTab_of_mem_token hb]
    rfl
  have hkept : (!isSpaceOrTab c) = true := by simpa using hother
  rw [htext, before, List.takeWhile_append_of_pos htoken, List.takeWhile_cons, hkept]
  exact List.mem_append_right _ List.mem_cons_self

/-- The word that a space or a tab ends is a token exactly if no other blank comes before. -/
theorem before_eq_iff :
    before isSpaceOrTab text = before isBlank text ↔ BreaksAtSpace text := by
  refine ⟨fun hword => ?_, before_eq_of_breaksAtSpace⟩
  by_contra hbreaks
  obtain ⟨c, hc, hblank⟩ := exists_blank_of_not_breaksAtSpace hbreaks
  rw [hword] at hc
  rw [not_of_mem_before hc] at hblank
  cases hblank

/-- It has no blank under the same condition. -/
theorem before_solid_iff :
    (∀ c ∈ before isSpaceOrTab text, isBlank c = false) ↔ BreaksAtSpace text := by
  constructor
  -- The character that breaks the token is a blank in the word.
  · intro hsolid
    by_contra hbreaks
    obtain ⟨c, hc, hblank⟩ := exists_blank_of_not_breaksAtSpace hbreaks
    rw [hsolid c hc] at hblank
    cases hblank
  · intro hbreaks c hc
    rw [before_eq_of_breaksAtSpace hbreaks] at hc
    exact not_of_mem_before hc

end

/-- Nothing is left at the end of a text of blanks. -/
theorem trimEnd_eq_nil {blanks : List Char} (h : ∀ c ∈ blanks, isBlank c = true) :
    trimEnd blanks = [] := by
  rw [trimEnd, List.reverse_eq_nil_iff, List.dropWhile_eq_nil_iff]
  exact fun c hc => h c (List.mem_reverse.1 hc)

/-- Behind a token only blanks are trimmed. -/
theorem trimEnd_token_append {word blanks : List Char} (hword : ∀ c ∈ word, isBlank c = false)
    (hblanks : ∀ c ∈ blanks, isBlank c = true) : trimEnd (word ++ blanks) = word := by
  have hnil : trimEnd blanks = [] := trimEnd_eq_nil hblanks
  cases word with
  | nil => exact hnil
  | cons c word =>
    have hend := (trimmed_of_solid hword).trimEnd_append (List.cons_ne_nil c word) [] blanks
    rwa [List.nil_append, List.nil_append, hnil, List.append_nil] at hend

/-- A text that is trimmed at its end has no blank exactly if only blanks follow its first one. -/
theorem trimEnd_solid_iff {text : List Char} :
    (∀ c ∈ trimEnd text, isBlank c = false) ↔ ∀ c ∈ since isBlank text, isBlank c = true := by
  constructor
  · intro hsolid
    -- The text is what is kept and then blanks, and the first blank is among these.
    obtain ⟨blanks, htext, hblanks⟩ := exists_trimEnd_append text
    have hsince := since_append hsolid fun c hc => hblanks c (List.mem_of_head? hc)
    rw [← htext] at hsince
    rwa [hsince]
  · -- What stands before the first blank is all that is left.
    intro hblanks
    have hword : ∀ c ∈ before isBlank text, isBlank c = false := fun c hc => not_of_mem_before hc
    have hend := trimEnd_token_append hword hblanks
    rw [before_append_since] at hend
    rwa [hend]

end Text

namespace Message

open Text

/-! ## Names behind a bracket -/

/-- What stands behind the first closing bracket of a detail; nothing if there is none. -/
def behindBracket (detail : List Char) : List Char :=
  (since (· = ']') detail).tail

section

variable {detail : List Char}

/-- The name in the shape `[kind] name …` is the first word behind the bracket. -/
theorem name_readBracketedKind (hhead : detail.head? = some '[') :
    (Shape.readBracketedKind detail).name = before isSpaceOrTab (trim (behindBracket detail)) := by
  unfold Shape.readBracketedKind behindBracket
  cases hcut : splitAtChar? ']' detail with
  | none =>
    -- Without a closing bracket there is no name, and nothing behind it.
    have hfree : ']' ∉ detail := splitAtChar?_eq_none.1 hcut
    have hsince : since (· = ']') detail = [] := by
      refine List.dropWhile_eq_nil_iff.2 fun c hc => ?_
      have hne : c ≠ ']' := by
        rintro rfl
        exact hfree hc
      simpa using hne
    rw [hsince]
    rfl
  | some parts =>
    obtain ⟨front, rest⟩ := parts
    obtain ⟨rfl, hclose⟩ := splitAtChar?_eq_some.1 hcut
    rw [(cut_append_cons hclose rest).2]
    cases front with
    -- The detail would start with the closing bracket.
    | nil => cases hhead
    | cons c kind => rfl

end

/-- A namespace has none of the characters that end one. -/
theorem solid_of_mem_nsIn {detail : List Char} {c : Char} (h : c ∈ nsIn detail) :
    isBlank c = false ∧ c ≠ ';' ∧ c ≠ ',' := by
  unfold nsIn at h
  split at h
  · have hends := not_of_mem_before h
    simp only [endsNs, Bool.or_eq_false_iff, decide_eq_false_iff_not] at hends
    exact ⟨hends.1.1, hends.1.2, hends.2⟩
  · cases h

/-- So it never has a blank. -/
theorem isBlank_of_mem_nsIn {detail : List Char} {c : Char} (h : c ∈ nsIn detail) :
    isBlank c = false :=
  (solid_of_mem_nsIn h).1

/-- Of a kind in brackets the name is the first token behind the bracket exactly if the first blank
that follows the token is a space or a tab, or none follows; and exactly then it has no blank. There
is no name where there are only blanks behind the bracket. A namespace never has a blank. -/
theorem bracketed_name_iff {message : String}
    (hhead : (detail message.toList).head? = some '[')
    (hserved : ∀ phrase ∈ unservedPhrases, ¬ phrase <:+: detail message.toList) :
    let rest := behindBracket (detail message.toList)
    ((resource message).name = String.ofList (firstToken rest) ↔ BreaksAtSpace (trim rest)) ∧
      ((∀ c ∈ (resource message).name.toList, isBlank c = false) ↔ BreaksAtSpace (trim rest)) ∧
      ((∀ c ∈ rest, isBlank c = true) → (resource message).name = "") ∧
      ∀ c ∈ (resource message).ns.toList, isBlank c = false := by
  intro rest
  -- No phrase occurs, so that the shape of the bracket claims the detail.
  have hunserved : Shape.unservedKind.claims (detail message.toList) = false := by
    rw [Bool.eq_false_iff, Ne, claims_unservedKind_iff]
    rintro ⟨phrase, hphrase, hoccurs⟩
    exact hserved phrase hphrase hoccurs
  have hname : (resource message).name = String.ofList (before isSpaceOrTab (trim rest)) := by
    rw [resource, resourceOfDetail_eq, naming_eq_readBracketedKind hunserved hhead,
      name_readBracketedKind hhead]
  have hns : (resource message).ns = String.ofList (nsIn (detail message.toList)) := by
    rw [resource, resourceOfDetail_eq]
  rw [hname, hns, String.toList_ofList, String.toList_ofList, String.ofList_inj, firstToken]
  refine ⟨before_eq_iff, before_solid_iff, fun hblank => ?_, fun c hc => isBlank_of_mem_nsIn hc⟩
  rw [trim_eq_nil hblank]
  rfl

/-- A tab ends the name, although a line break follows. -/
theorem bracketed_name_iff_tab :
    let message := "violation - [Pod] web-0\tis not ready\nsince noon"
    (detail message.toList).head? = some '[' ∧
      (∀ phrase ∈ unservedPhrases, ¬ phrase <:+: detail message.toList) ∧
      BreaksAtSpace (trim (behindBracket (detail message.toList))) ∧
      (resource message).name = String.ofList (firstToken (behindBracket (detail message.toList))) ∧
      ∀ c ∈ (resource message).name.toList, isBlank c = false := by
  intro message
  have hhead : (detail message.toList).head? = some '[' := by decide +kernel
  have hserved : ∀ phrase ∈ unservedPhrases, ¬ phrase <:+: detail message.toList := by
    simp only [← occurs_iff]
    decide +kernel
  -- The first blank behind the token is the tab.
  have hbreaks : BreaksAtSpace (trim (behindBracket (detail message.toList))) := by
    have hfirst : (since isBlank (trim (behindBracket (detail message.toList)))).head? =
        some '\t' := by
      decide +kernel
    unfold BreaksAtSpace
    rw [hfirst]
    rintro _ ⟨⟩
    rfl
  obtain ⟨hname, hsolid, -, -⟩ := bracketed_name_iff hhead hserved
  exact ⟨hhead, hserved, hbreaks, hname.2 hbreaks, hsolid.2 hbreaks⟩

/-- A line break does not end the name: it stands inside, with the first word of the next line. -/
theorem bracketed_name_across_lines :
    let message := "[Pod] web-0\nnot found in namespace apps\nsince noon"
    (detail message.toList).head? = some '[' ∧
      (∀ phrase ∈ unservedPhrases, ¬ phrase <:+: detail message.toList) ∧
      String.ofList (firstToken (behindBracket (detail message.toList))) = "web-0" ∧
      (resource message).name = "web-0\nnot" ∧ (resource message).ns = "apps" ∧
      ¬ ∀ c ∈ (resource message).name.toList, isBlank c = false := by
  intro message
  have hserved : ∀ phrase ∈ unservedPhrases, ¬ phrase <:+: detail message.toList := by
    simp only [← occurs_iff]
    decide +kernel
  have hname : (resource message).name = "web-0\nnot" := by decide +kernel
  refine ⟨by decide +kernel, hserved, by decide +kernel, hname, by decide +kernel, ?_⟩
  rw [hname]
  exact fun hsolid => absurd (hsolid '\n' (by decide)) (by decide)

/-! ## Kinds in front of a bracket -/

/-- The kind that is read kind first. -/
structure ReadsKind (detail kind : List Char) : Prop where
  /-- In front of a bracket it is all there is, but for the blanks at the end. -/
  bracket : '[' ∈ detail → kind = trimEnd (before (· = '[') detail)
  /-- Without a bracket it is what stands in front of the first space or tab. -/
  space : '[' ∉ detail → (∃ c ∈ detail, isSpaceOrTab c = true) → kind = before isSpaceOrTab detail
  /-- Without a space or a tab, too, there is none. -/
  nothing : '[' ∉ detail → (∀ c ∈ detail, isSpaceOrTab c = false) → kind = []

/-- That nothing but a token stands where the kind of a detail is read. -/
structure BeginsWithToken (detail : List Char) : Prop where
  /-- Between the token and the first bracket there are only blanks. -/
  bracket : '[' ∈ detail → ∀ c ∈ since isBlank (before (· = '[') detail), isBlank c = true
  /-- Without a bracket, a space or a tab follows the token at once, if there is one at all. -/
  space : '[' ∉ detail → (∃ c ∈ detail, isSpaceOrTab c = true) → BreaksAtSpace detail

section

variable {detail : List Char}

/-- The first word of a text is what a space or a tab ends. -/
theorem leadingWord_eq (h : ∃ c ∈ detail, isSpaceOrTab c = true) :
    Shape.leadingWord detail = before isSpaceOrTab detail := by
  obtain ⟨c, hc, hspace⟩ := h
  unfold Shape.leadingWord
  split
  · next hsince =>
    have hnone := List.dropWhile_eq_nil_iff.1 hsince c hc
    rw [hspace] at hnone
    cases hnone
  · rfl

/-- What nothing ends is no word. -/
theorem leadingWord_eq_nil (h : ∀ c ∈ detail, isSpaceOrTab c = false) :
    Shape.leadingWord detail = [] := by
  have hsince : since isSpaceOrTab detail = [] :=
    List.dropWhile_eq_nil_iff.2 fun c hc => by rw [h c hc]; rfl
  unfold Shape.leadingWord
  rw [hsince]

/-- Where there is a bracket, but not at once, the kind is all that stands in front of it. -/
theorem kind_readKindFirst_bracket (hblank : ∀ c ∈ detail.head?, isBlank c = false)
    (hhead : detail.head? ≠ some '[') (hopen : '[' ∈ detail) :
    (Shape.readKindFirst detail).kind = trimEnd (before (· = '[') detail) := by
  cases hcut : splitAtChar? '[' detail with
  | none => exact absurd hopen (splitAtChar?_eq_none.1 hcut)
  | some parts =>
    obtain ⟨front, rest⟩ := parts
    obtain ⟨rfl, hfree⟩ := splitAtChar?_eq_some.1 hcut
    rw [(cut_append_cons hfree rest).1]
    cases front with
    | nil => exact absurd rfl hhead
    | cons c front =>
      -- At the start there is nothing to trim.
      have htrim : trim (c :: front) = trimEnd (c :: front) := by
        have hc : isBlank c = false := hblank c rfl
        rw [trim, trimStart, List.dropWhile_cons, hc]
        rfl
      unfold Shape.readKindFirst
      rw [hcut, ← htrim]
      dsimp only
      cases splitAtChar? ']' rest <;> rfl

/-- Where there is none, the kind is the first word. -/
theorem kind_readKindFirst_word (hopen : '[' ∉ detail) :
    (Shape.readKindFirst detail).kind = Shape.leadingWord detail := by
  unfold Shape.readKindFirst
  rw [splitAtChar?_eq_none.2 hopen]

/-- A kind that is read kind first is a token, or empty, exactly if the detail begins with one. -/
theorem ReadsKind.solid_iff {kind : List Char} (h : ReadsKind detail kind) :
    (∀ c ∈ kind, isBlank c = false) ↔ BeginsWithToken detail := by
  -- The cases are those of the kind. A condition of another case says nothing here.
  by_cases hopen : '[' ∈ detail
  · rw [h.bracket hopen, trimEnd_solid_iff]
    exact ⟨fun hblanks => ⟨fun _ => hblanks, fun hfree => absurd hopen hfree⟩,
      fun hbegins => hbegins.bracket hopen⟩
  · by_cases hspace : ∃ c ∈ detail, isSpaceOrTab c = true
    · rw [h.space hopen hspace, before_solid_iff]
      exact ⟨fun hbreaks => ⟨fun hin => absurd hin hopen, fun _ _ => hbreaks⟩,
        fun hbegins => hbegins.space hopen hspace⟩
    · have hnone : ∀ c ∈ detail, isSpaceOrTab c = false := by simpa using hspace
      rw [h.nothing hopen hnone]
      exact ⟨fun _ => ⟨fun hin => absurd hin hopen, fun _ hsome => absurd hsome hspace⟩,
        fun _ c hc => (nomatch hc)⟩

end

/-- What is read in this shape does not start with a bracket. -/
theorem ReadAs.head?_ne {message : String} (h : ReadAs message .kindFirst) :
    (detail message.toList).head? ≠ some '[' := by
  -- The shape of a bracket at the start comes before this one, and would claim the detail.
  intro hhead
  have hbracketed : Shape.bracketedKind.claims (detail message.toList) = true :=
    decide_eq_true hhead
  unfold ReadAs Shape.all at h
  rw [List.find?_cons, List.find?_cons, hbracketed] at h
  cases hunserved : Shape.unservedKind.claims (detail message.toList) <;>
    rw [hunserved] at h <;> cases h

/-- The kind is read kind first. -/
theorem readsKind_of_readAs {message : String} (h : ReadAs message .kindFirst) :
    ReadsKind (detail message.toList) (resource message).kind.toList := by
  have hkind : (resource message).kind.toList =
      (Shape.readKindFirst (detail message.toList)).kind := by
    unfold ReadAs at h
    rw [resource, resourceOfDetail_eq, naming, h, String.toList_ofList]
    rfl
  -- The detail is trimmed, so that the blanks of the kind are all at its end.
  have htrimmed : Trimmed (detail message.toList) := trimmed_trim _
  rw [hkind]
  refine ⟨kind_readKindFirst_bracket htrimmed.head h.head?_ne, fun hopen hspace => ?_,
    fun hopen hnone => ?_⟩
  · rw [kind_readKindFirst_word hopen, leadingWord_eq hspace]
  · rw [kind_readKindFirst_word hopen, leadingWord_eq_nil hnone]

/-- What is looked at or listed is asked for by the lower-cased kind. -/
theorem resource_of_made {resource : Resource} {verdict : Verdict} {cluster : String}
    {wanted : DesiredState} {settings : Settings} {suggestion : Suggestion}
    (hmade : Suggestion.Made resource verdict cluster wanted settings suggestion) {call : ToolCall}
    (hcall : suggestion.call = some call) :
    (call.tool = ToolCall.getTool → resource.kind ≠ "" ∧ Fields.get? call.args "resource" =
        some (.string (lowerString resource.kind ++ "/" ++ resource.name))) ∧
      (call.tool = ToolCall.listTool → resource.kind ≠ "" ∧ Fields.get? call.args "resource" =
        some (.string (lowerString resource.kind))) := by
  -- One case for each call that is made; the tools differ, so that one half holds vacuously.
  cases hmade with
  | trace hname hchain =>
    cases hcall
    simp [ToolCall.traceTool, ToolCall.getTool, ToolCall.listTool]
  | get hkind hname hopen =>
    cases hcall
    obtain ⟨hne, rfl⟩ := presence_eq_some_iff.1 hkind
    obtain ⟨-, rfl⟩ := presence_eq_some_iff.1 hname
    simp [ToolCall.getTool, ToolCall.listTool, hne]
  | list hkind hname =>
    cases hcall
    obtain ⟨hne, rfl⟩ := presence_eq_some_iff.1 hkind
    simp [ToolCall.getTool, ToolCall.listTool, hne]
  | nothing hkind hopen => cases hcall

/-- A resource that is looked at is asked for by its lower-cased kind and its name. -/
theorem exists_get {template message cluster : String} {wanted : DesiredState}
    {settings : Settings}
    (h : (Violation.ofMessage template message cluster wanted settings).Suggests
      ToolCall.getTool) :
    ∃ call, (Violation.ofMessage template message cluster wanted settings).call = some call ∧
      call.tool = ToolCall.getTool ∧ Fields.get? call.args "resource" = some (.string
        (lowerString (resource message).kind ++ "/" ++ (resource message).name)) := by
  obtain ⟨call, hsome, htool⟩ := Option.map_eq_some_iff.1 h
  exact ⟨call, hsome, htool, ((resource_of_made (suggest_made _ _ _ _ _) hsome).1 htool).2⟩

/-- The kind of a message that is read kind first is all that stands in front of the first bracket,
or else in front of the first space or tab (`ReadsKind`). It is a token or empty exactly if the
detail begins with a token there (`BeginsWithToken`), and so is the lower-cased kind, with which
begins what a suggested call asks for. -/
theorem kindFirst_kind {message : String} (h : ReadAs message .kindFirst) :
    ReadsKind (detail message.toList) (resource message).kind.toList ∧
      ((∀ c ∈ (resource message).kind.toList, isBlank c = false) ↔
        BeginsWithToken (detail message.toList)) ∧
      ((∀ c ∈ (lowerString (resource message).kind).toList, isBlank c = false) ↔
        BeginsWithToken (detail message.toList)) ∧
      ∀ template cluster wanted settings call,
        (Violation.ofMessage template message cluster wanted settings).call = some call →
          (call.tool = ToolCall.getTool →
            (resource message).kind ≠ "" ∧ Fields.get? call.args "resource" = some (.string
              (lowerString (resource message).kind ++ "/" ++ (resource message).name))) ∧
          (call.tool = ToolCall.listTool →
            (resource message).kind ≠ "" ∧ Fields.get? call.args "resource" = some (.string
              (lowerString (resource message).kind))) := by
  have hreads := readsKind_of_readAs h
  have hsolid := hreads.solid_iff
  refine ⟨hreads, hsolid, ?_, fun template cluster wanted settings call hcall => ?_⟩
  · -- A blank is lower-cased to a blank, and nothing else is.
    have hlower : (∀ c ∈ (lowerString (resource message).kind).toList, isBlank c = false) ↔
        ∀ c ∈ (resource message).kind.toList, isBlank c = false :=
      calc (∀ c ∈ (lowerString (resource message).kind).toList, isBlank c = false)
          ↔ (lower (resource message).kind.toList).any isBlank = false := by simp [lowerString]
        _ ↔ (resource message).kind.toList.any isBlank = false := by rw [any_isBlank_lower]
        _ ↔ ∀ c ∈ (resource message).kind.toList, isBlank c = false := by simp
    exact hlower.trans hsolid
  · exact resource_of_made (suggest_made _ _ cluster wanted settings) hcall

/-- A no-break space may stand between the kind and the bracket. -/
theorem kindFirst_kind_nodes :
    let message := "violation - Nodes\u00a0[worker-1] of [2] are not ready"
    ReadAs message .kindFirst ∧ BeginsWithToken (detail message.toList) ∧
      (resource message).kind = "Nodes" ∧
      (∀ c ∈ (resource message).kind.toList, isBlank c = false) ∧
      ∃ call, (Violation.ofMessage "nodes" message "sno-1" .empty {}).call = some call ∧
        call.tool = ToolCall.getTool ∧
        Fields.get? call.args "resource" = some (.string "nodes/worker-1") := by
  intro message
  have hread : ReadAs message .kindFirst := by
    unfold ReadAs
    decide +kernel
  -- The only blank in front of the bracket is the no-break space behind the kind.
  have hbegins : BeginsWithToken (detail message.toList) :=
    ⟨fun _ => forall_mem_of_all (by decide +kernel), fun hopen => absurd (by decide +kernel) hopen⟩
  have hkind : (resource message).kind = "Nodes" := by decide +kernel
  have htarget : lowerString (resource message).kind ++ "/" ++ (resource message).name =
      "nodes/worker-1" := by
    decide +kernel
  obtain ⟨-, hsolid, -⟩ := kindFirst_kind hread
  have hget : (Violation.ofMessage "nodes" message "sno-1" .empty {}).Suggests
      ToolCall.getTool := by
    unfold Violation.Suggests
    decide +kernel
  exact ⟨hread, hbegins, hkind, hsolid.2 hbegins, htarget ▸ exists_get hget⟩

/-- A description with a bracket in it becomes the kind, and is what the suggested call asks for. -/
theorem kindFirst_kind_description :
    let message := "nodes found but not as specified [1 of 2]"
    ReadAs message .kindFirst ∧
      (resource message).kind = "nodes found but not as specified" ∧
      (¬ ∀ c ∈ (resource message).kind.toList, isBlank c = false) ∧
      ∃ call, (Violation.ofMessage "nodes" message "sno-1" .empty {}).call = some call ∧
        call.tool = ToolCall.getTool ∧ Fields.get? call.args "resource" =
          some (.string "nodes found but not as specified/1 of 2") := by
  intro message
  have hread : ReadAs message .kindFirst := by
    unfold ReadAs
    decide +kernel
  have hkind : (resource message).kind = "nodes found but not as specified" := by decide +kernel
  have htarget : lowerString (resource message).kind ++ "/" ++ (resource message).name =
      "nodes found but not as specified/1 of 2" := by
    decide +kernel
  have hget : (Violation.ofMessage "nodes" message "sno-1" .empty {}).Suggests
      ToolCall.getTool := by
    unfold Violation.Suggests
    decide +kernel
  have hblank : ¬ ∀ c ∈ (resource message).kind.toList, isBlank c = false := by
    rw [hkind]
    exact fun hsolid => absurd (hsolid ' ' (by decide)) (by decide)
  exact ⟨hread, hkind, hblank, htarget ▸ exists_get hget⟩

end Message

end ComplianceTriage
