import ComplianceTriage.Proofs.LetterCase
import ComplianceTriage.Proofs.Rendering
import ComplianceTriage.Triage.Diagnosis

/-!
# Messages and what is declared

A violation shows what the policy wants in place of what the cluster has. This is found by the kind
and the name that the message gives, and a message may spell the kind in its own way. What is
declared under a key is found again from the messages that report it, as long as the template
declares nothing else of that name whose kind agrees loosely (`violation_desired`).

The search goes through tiers, but each tier accepts only entries that agree flexibly
(`Key.agreesFlexibly_of_agreesExactly`). So where one entry alone does, the first tier that accepts
any accepts this one (`find?_of_only`), and neither the tier nor the order of the entries matters.
-/

namespace ComplianceTriage

namespace DesiredState

/-- The entries are the keys with their values. -/
theorem get?_eq_some_iff {state : DesiredState} {key : Key} {value : Value} :
    state.get? key = some value ↔ (key, value) ∈ state.entries := by
  obtain ⟨entries, ordered⟩ := state
  unfold get?
  dsimp only
  induction entries with
  | nil => simp
  | cons entry rest ih =>
    obtain ⟨k, v⟩ := entry
    obtain ⟨hfirst, hrest⟩ := List.pairwise_cons.1 ordered
    rw [List.lookup_cons, List.mem_cons]
    cases hkey : key == k with
    | true =>
      obtain rfl : key = k := beq_iff_eq.1 hkey
      -- The key comes before all keys behind it, and so it is none of them.
      have hbehind : (key, value) ∉ rest := fun hmem =>
        Key.Before.irrefl key (hfirst (key, value) hmem)
      simp [hbehind, eq_comm]
    | false =>
      have hne : key ≠ k := beq_eq_false_iff_ne.1 hkey
      simp [ih hrest, hne]

/-- Keys that agree exactly agree flexibly. -/
theorem Key.agreesFlexibly_of_agreesExactly {key : Key} {template kind name : String}
    (h : key.agreesExactly template kind name = true) :
    key.agreesFlexibly template kind name = true := by
  simp only [agreesExactly, agreesFlexibly, Bool.and_eq_true, decide_eq_true_eq,
    Bool.or_eq_true] at h ⊢
  obtain ⟨⟨htemplate, hkind⟩, hname⟩ := h
  exact ⟨⟨htemplate, Kind.agreeLoosely_of_sameUpToAsciiCase hkind⟩, .inr hname⟩

section

variable {state : DesiredState} {key : Key} {value : Value} {kind : String}

/-- A search for what only the entries of one key have finds this entry, or nothing. -/
theorem find?_eq_of_only {accepts : Key → Bool} (hkey : state.get? key = some value)
    (honly : ∀ other, state.get? other ≠ none → accepts other = true → other = key)
    {entry : Key × Value}
    (hfound : (state.entries.find? fun entry => accepts entry.1) = some entry) :
    entry = (key, value) := by
  obtain ⟨other, value'⟩ := entry
  have hother : state.get? other = some value' :=
    get?_eq_some_iff.2 (List.mem_of_find?_eq_some hfound)
  have haccepts := List.find?_some hfound
  -- What is found has a value and passes the test, so it is under the key.
  have hsame : other = key := by
    refine honly other ?_ haccepts
    rw [hother]
    exact Option.some_ne_none value'
  subst hsame
  rw [hkey, Option.some.injEq] at hother
  rw [hother]

/-- What is declared under a key is found by the name of the key and by a kind that agrees loosely
with its own, where no other declaration of the template has both. -/
theorem find?_of_only (hkey : state.get? key = some value) (hname : key.name ≠ "")
    (hkind : Kind.agreeLoosely key.kind kind = true)
    (honly : ∀ other, state.get? other ≠ none → other.template = key.template →
      other.name = key.name → Kind.agreeLoosely other.kind kind = true → other = key) :
    (state.find? key.template kind key.name).map Prod.fst = some value := by
  have hflexible : ∀ other, state.get? other ≠ none →
      other.agreesFlexibly key.template kind key.name = true → other = key := by
    intro other hother hagrees
    simp only [Key.agreesFlexibly, Bool.and_eq_true, decide_eq_true_eq, Bool.or_eq_true,
      hname, false_or] at hagrees
    exact honly other hother hagrees.1.1 hagrees.2 hagrees.1.2
  have hexact : ∀ other, state.get? other ≠ none →
      other.agreesExactly key.template kind key.name = true → other = key :=
    fun other hother hagrees =>
      hflexible other hother (Key.agreesFlexibly_of_agreesExactly hagrees)
  -- The first tier that finds anything finds this entry, and one of the first two does.
  unfold find?
  cases hfirst : state.entries.find? fun entry =>
      entry.1.agreesExactly key.template kind key.name with
  | some entry =>
    obtain rfl := find?_eq_of_only hkey hexact hfirst
    rfl
  | none =>
    cases hsecond : state.entries.find? fun entry =>
        entry.1.agreesFlexibly key.template kind key.name with
    | some entry =>
      obtain rfl := find?_eq_of_only hkey hflexible hsecond
      rfl
    | none =>
      -- The entry of the key itself agrees flexibly.
      have hself : key.agreesFlexibly key.template kind key.name = true := by
        simp [Key.agreesFlexibly, hkind]
      exact absurd hself (List.find?_eq_none.1 hsecond (key, value) (get?_eq_some_iff.1 hkey))

end

end DesiredState

/-- A violation shows what is declared for the resource that its message reports, in the kind as the
message spells it. Neither the preamble nor what follows the bracket nor what other templates
declare makes a difference. -/
theorem violation_desired {wanted : DesiredState} {template kind name reported : String}
    {value : Value} (hwanted : wanted.get? ⟨template, kind, name⟩ = some value)
    (hfits : Message.Fits reported name) (hkind : Kind.agreeLoosely kind reported = true)
    (honly : ∀ other, wanted.get? other ≠ none → other.template = template →
      other.name = name → Kind.agreeLoosely other.kind reported = true →
        other = ⟨template, kind, name⟩)
    {preamble rest : String} (hpreamble : ¬ Message.preambleEnd <:+: preamble.toList)
    (hserved : ∀ phrase ∈ Message.unservedPhrases,
      ¬ phrase <:+: (Message.kindFirst reported name rest).toList)
    (cluster : String) (settings : Settings) :
    let violation := Violation.ofMessage template
      (preamble ++ "violation - " ++ Message.kindFirst reported name rest) cluster wanted settings
    violation.resourceKind = some reported ∧ violation.resourceName = some name ∧
      violation.desired = some value := by
  obtain ⟨hreadKind, hreadName⟩ := Message.resource_kindFirst hfits hpreamble hserved
  -- The message gives the kind as it spells it, and the name of the key.
  have hfound := DesiredState.find?_of_only hwanted hfits.name_ne hkind honly
  unfold Violation.ofMessage Resource.kind? Resource.name?
  dsimp only
  rw [hreadKind, hreadName]
  exact ⟨if_neg hfits.kind_ne, if_neg hfits.name_ne, hfound⟩

/-- Nodes of one name that two templates declare, and a neighbour of another name. -/
def Sample.nodes : DesiredState :=
  ((DesiredState.empty.insert ⟨"edge", "Node", "worker-1"⟩ (.string "edge")).insert
    ⟨"nodes", "Node", "worker-1"⟩ (.string "first")).insert
      ⟨"nodes", "Node", "worker-2"⟩ (.string "second")

/-- A message that reports `nodes` is about the one of this name that its template declares. -/
theorem violation_desired_nodes :
    Sample.nodes.get? ⟨"nodes", "Node", "worker-1"⟩ = some (.string "first") ∧
      Message.Fits "nodes" "worker-1" ∧
      Kind.agreeLoosely "Node" "nodes" = true ∧
      (∀ other, Sample.nodes.get? other ≠ none → other.template = "nodes" →
        other.name = "worker-1" → Kind.agreeLoosely other.kind "nodes" = true →
          other = ⟨"nodes", "Node", "worker-1"⟩) ∧
      ¬ Message.preambleEnd <:+: "NonCompliant; ".toList ∧
      (∀ phrase ∈ Message.unservedPhrases, ¬ phrase <:+:
        (Message.kindFirst "nodes" "worker-1" " found but not as specified").toList) ∧
      (let violation := Violation.ofMessage "nodes"
        ("NonCompliant; " ++ "violation - " ++
          Message.kindFirst "nodes" "worker-1" " found but not as specified")
        "east" Sample.nodes {}
      violation.resourceKind = some "nodes" ∧ violation.resourceName = some "worker-1" ∧
        violation.desired = some (.string "first")) := by
  have hwanted : Sample.nodes.get? ⟨"nodes", "Node", "worker-1"⟩ = some (.string "first") := by
    rw [Sample.nodes, DesiredState.get?_insert_of_ne (by decide), DesiredState.get?_insert_self]
  have hfits : Message.Fits "nodes" "worker-1" :=
    ⟨by decide, ⟨by rintro _ ⟨⟩; rfl, by rintro _ ⟨⟩; rfl⟩, by decide, by decide, by decide⟩
  have hkind : Kind.agreeLoosely "Node" "nodes" = true := by decide +kernel
  have honly : ∀ other, Sample.nodes.get? other ≠ none → other.template = "nodes" →
      other.name = "worker-1" → Kind.agreeLoosely other.kind "nodes" = true →
        other = ⟨"nodes", "Node", "worker-1"⟩ := by
    intro other hother htemplate hname _
    -- No other entry is of this template and of this name.
    refine Decidable.byContradiction fun hne => ?_
    have hsecond : other ≠ ⟨"nodes", "Node", "worker-2"⟩ := by
      rintro rfl
      exact absurd hname (by decide)
    have hedge : other ≠ ⟨"edge", "Node", "worker-1"⟩ := by
      rintro rfl
      exact absurd htemplate (by decide)
    rw [Sample.nodes, DesiredState.get?_insert_of_ne hsecond, DesiredState.get?_insert_of_ne hne,
      DesiredState.get?_insert_of_ne hedge] at hother
    exact hother rfl
  have hpreamble : ¬ Message.preambleEnd <:+: "NonCompliant; ".toList := by
    rw [← Text.occurs_iff]
    decide +kernel
  have hserved : ∀ phrase ∈ Message.unservedPhrases, ¬ phrase <:+:
      (Message.kindFirst "nodes" "worker-1" " found but not as specified").toList := by
    simp only [← Text.occurs_iff]
    decide +kernel
  exact ⟨hwanted, hfits, hkind, honly, hpreamble, hserved,
    violation_desired hwanted hfits hkind honly hpreamble hserved "east" {}⟩

end ComplianceTriage
