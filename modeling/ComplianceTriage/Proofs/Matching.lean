import ComplianceTriage.Proofs.Insertion

/-!
# Pairing by tiers

The search for the declaration that a message is about goes through the entries of all templates, up
to three times. What it finds can be told without the entries, from what there is under each key
(`Pairs`): the value of the first key that agrees exactly; where none does, that of the first key
that agrees flexibly; where none does either, that of the only key of the template, if it has but
one. `find?_eq_iff` says that the search finds this and nothing else.

A pairing depends on the keys of its template alone (`Pairs.congr`). Hence neither what other
templates declare nor the order of the insertions makes a difference (`matching_by_tiers`).
-/

namespace ComplianceTriage.DesiredState

/-- Of the keys that have a value and pass a test, the first in the order of keys. -/
structure IsFirst (state : DesiredState) (accepts : Key → Bool) (key : Key) (value : Value) :
    Prop where
  get?_eq : state.get? key = some value
  accepted : accepts key = true
  least : ∀ other, state.get? other ≠ none → accepts other = true → other = key ∨ key.Before other

/-- The only key of a template that has a value. -/
structure IsSole (state : DesiredState) (template : String) (key : Key) (value : Value) :
    Prop where
  get?_eq : state.get? key = some value
  template_eq : key.template = template
  only : ∀ other, state.get? other ≠ none → other.template = template → other = key

/-- What a message of a template is paired with, by what there is under each key. -/
inductive Pairs (state : DesiredState) (template kind name : String) :
    Option (Value × Tier) → Prop where
  /-- The first key that agrees exactly. -/
  | exact {key : Key} {value : Value}
      (first : state.IsFirst (fun key => key.agreesExactly template kind name) key value) :
      Pairs state template kind name (some (value, .exact))
  /-- Where no key does, the first that agrees flexibly. -/
  | flexible {key : Key} {value : Value}
      (inexact : ∀ key, state.get? key ≠ none → key.agreesExactly template kind name = false)
      (first : state.IsFirst (fun key => key.agreesFlexibly template kind name) key value) :
      Pairs state template kind name (some (value, .flexible))
  /-- Where no key does either, the only one of the template. -/
  | sole {key : Key} {value : Value}
      (inflexible : ∀ key, state.get? key ≠ none → key.agreesFlexibly template kind name = false)
      (sole : state.IsSole template key value) :
      Pairs state template kind name (some (value, .soleTemplateEntry))
  /-- Where the template has no key, or several, nothing. -/
  | nothing
      (inflexible : ∀ key, state.get? key ≠ none → key.agreesFlexibly template kind name = false)
      (not_sole : ¬ ∃ key value, state.IsSole template key value) :
      Pairs state template kind name none

/-! ## Searches -/

section

variable {state : DesiredState} {accepts : Key → Bool} {template : String} {key : Key}
  {value : Value}

/-- No other key comes first. -/
theorem IsFirst.key_eq {key' : Key} {value' : Value} (h : state.IsFirst accepts key value)
    (h' : state.IsFirst accepts key' value') : key' = key := by
  have hvalue : state.get? key ≠ none := h.get?_eq ▸ Option.some_ne_none value
  have hvalue' : state.get? key' ≠ none := h'.get?_eq ▸ Option.some_ne_none value'
  -- Each of the two comes no later than the other.
  rcases h.least key' hvalue' h'.accepted with heq | hbefore
  · exact heq
  · rcases h'.least key hvalue h.accepted with heq | hafter
    · exact heq.symm
    · exact absurd (hbefore.trans hafter) (Key.Before.irrefl key)

/-- What is found among the entries is at the first key that passes. -/
theorem isFirst_of_find?
    (h : (state.entries.find? fun entry => accepts entry.1) = some (key, value)) :
    state.IsFirst accepts key value := by
  obtain ⟨haccepted, front, back, hsplit, hfront⟩ := List.find?_eq_some_iff_append.1 h
  have hordered := state.ordered
  rw [hsplit] at hordered
  refine ⟨get?_eq_some_iff.2 (List.mem_of_find?_eq_some h), haccepted, ?_⟩
  intro other hother hpass
  obtain ⟨value', hentry⟩ := get?_ne_none_iff.1 hother
  rw [hsplit] at hentry
  rcases List.mem_append.1 hentry with hbefore | hbehind
  -- What passes does not stand in front of what was found.
  · have hfail := hfront (other, value') hbefore
    rw [hpass] at hfail
    cases hfail
  · rcases List.mem_cons.1 hbehind with heq | hbehind
    · exact .inl (congrArg Prod.fst heq)
    · have hback := (List.pairwise_append.1 hordered).2.1
      exact .inr ((List.pairwise_cons.1 hback).1 (other, value') hbehind)

/-- Nothing is found where no key passes. -/
theorem find?_entries_eq_none_iff : (state.entries.find? fun entry => accepts entry.1) = none ↔
    ∀ key, state.get? key ≠ none → accepts key = false := by
  rw [List.find?_eq_none]
  constructor
  · intro hnone key hkey
    obtain ⟨value, hentry⟩ := get?_ne_none_iff.1 hkey
    exact Bool.eq_false_iff.2 (hnone (key, value) hentry)
  · rintro hfail ⟨key, value⟩ hentry
    exact Bool.eq_false_iff.1 (hfail key (get?_ne_none_iff.2 ⟨value, hentry⟩))

/-- A search finds exactly the value of the first key that passes. -/
theorem find?_entries_eq_some_iff :
    (state.entries.find? fun entry => accepts entry.1) = some (key, value) ↔
      state.IsFirst accepts key value := by
  refine ⟨isFirst_of_find?, fun hfirst => ?_⟩
  cases hfound : state.entries.find? fun entry => accepts entry.1 with
  | none =>
    -- There is a key that passes, and so the search comes to something.
    have hfail := find?_entries_eq_none_iff.1 hfound key
      (hfirst.get?_eq ▸ Option.some_ne_none value)
    rw [hfirst.accepted] at hfail
    cases hfail
  | some entry =>
    obtain ⟨key', value'⟩ := entry
    -- What it comes to is a first key as well, and there is only one.
    have hfirst' := isFirst_of_find? hfound
    obtain rfl := hfirst.key_eq hfirst'
    have hsame : some value' = some value := hfirst'.get?_eq.symm.trans hfirst.get?_eq
    cases hsame
    rfl

/-- A template has one entry alone if one of its keys alone has a value. -/
theorem ofTemplate_eq_singleton_iff :
    state.ofTemplate template = [(key, value)] ↔ state.IsSole template key value := by
  -- The entries of the template are told by their keys alone, and none comes twice.
  have hmem : ∀ entry, entry ∈ state.ofTemplate template ↔
      state.get? entry.1 = some entry.2 ∧ entry.1.template = template := by
    intro entry
    rw [ofTemplate, List.mem_filter, decide_eq_true_eq, get?_eq_some_iff]
  constructor
  · intro hone
    simp only [hone, List.mem_singleton] at hmem
    obtain ⟨hvalue, htemplate⟩ := (hmem (key, value)).1 rfl
    refine ⟨hvalue, htemplate, fun other hother htemplate' => ?_⟩
    obtain ⟨value', hvalue'⟩ := Option.ne_none_iff_exists'.1 hother
    exact congrArg Prod.fst ((hmem (other, value')).2 ⟨hvalue', htemplate'⟩)
  · intro hsole
    -- Two lists without repetitions that have the same entries are the same up to order.
    have hnodup : (state.ofTemplate template).Nodup := state.nodup_keys.of_map.filter _
    refine List.perm_singleton.1
      ((List.perm_ext_iff_of_nodup hnodup (List.nodup_singleton _)).2 fun entry => ?_)
    rw [hmem, List.mem_singleton]
    constructor
    · rintro ⟨hvalue, htemplate⟩
      have hkey := hsole.only entry.1 (hvalue ▸ Option.some_ne_none entry.2) htemplate
      rw [hkey, hsole.get?_eq, Option.some.injEq] at hvalue
      exact Prod.ext hkey hvalue.symm
    · rintro rfl
      exact ⟨hsole.get?_eq, hsole.template_eq⟩

end

/-! ## Pairings -/

section

variable {state other : DesiredState} {template kind name : String}
  {answer : Option (Value × Tier)}

/-- A template whose entries are not one is without a sole key. -/
theorem ofTemplate_ne_singleton (h : ¬ ∃ key value, state.IsSole template key value)
    (entry : Key × Value) : state.ofTemplate template ≠ [entry] := fun hone =>
  h ⟨entry.1, entry.2, ofTemplate_eq_singleton_iff.1 hone⟩

/-- Where no key agrees flexibly, none agrees exactly. -/
theorem inexact_of_inflexible
    (h : ∀ key, state.get? key ≠ none → key.agreesFlexibly template kind name = false) (key : Key)
    (hkey : state.get? key ≠ none) : key.agreesExactly template kind name = false := by
  rw [Bool.eq_false_iff]
  intro hexact
  have hflexible := h key hkey
  rw [Key.agreesFlexibly_of_agreesExactly hexact] at hflexible
  cases hflexible

/-- The search finds what a message is paired with. -/
theorem Pairs.find?_eq (h : state.Pairs template kind name answer) :
    state.find? template kind name = answer := by
  unfold find?
  -- The search tries the tiers in this order, and passes over those in which nothing agrees.
  cases h with
  | exact hfirst => rw [find?_entries_eq_some_iff.2 hfirst]
  | flexible hinexact hfirst =>
    rw [find?_entries_eq_none_iff.2 hinexact, find?_entries_eq_some_iff.2 hfirst]
  | sole hinflexible hsole =>
    rw [find?_entries_eq_none_iff.2 (inexact_of_inflexible hinflexible),
      find?_entries_eq_none_iff.2 hinflexible, ofTemplate_eq_singleton_iff.2 hsole]
  | nothing hinflexible hseveral =>
    rw [find?_entries_eq_none_iff.2 (inexact_of_inflexible hinflexible),
      find?_entries_eq_none_iff.2 hinflexible]
    dsimp only
    split
    · next hone => exact absurd hone (ofTemplate_ne_singleton hseveral _)
    · rfl

/-- Every message is paired with something, or with nothing. -/
theorem exists_pairs (state : DesiredState) (template kind name : String) :
    ∃ answer, state.Pairs template kind name answer := by
  -- The first tier in which anything agrees decides.
  cases hexact : state.entries.find? fun entry => entry.1.agreesExactly template kind name with
  | some entry => exact ⟨_, .exact (isFirst_of_find? hexact)⟩
  | none =>
    cases hflexible :
        state.entries.find? fun entry => entry.1.agreesFlexibly template kind name with
    | some entry =>
      exact ⟨_, .flexible (find?_entries_eq_none_iff.1 hexact) (isFirst_of_find? hflexible)⟩
    | none =>
      have hinflexible : ∀ key, state.get? key ≠ none →
          key.agreesFlexibly template kind name = false := find?_entries_eq_none_iff.1 hflexible
      by_cases hsole : ∃ key value, state.IsSole template key value
      · obtain ⟨key, value, hsole⟩ := hsole
        exact ⟨_, .sole hinflexible hsole⟩
      · exact ⟨_, .nothing hinflexible hsole⟩

/-- The search finds what a message is paired with and nothing else. -/
theorem find?_eq_iff :
    state.find? template kind name = answer ↔ state.Pairs template kind name answer := by
  refine ⟨fun hfound => ?_, Pairs.find?_eq⟩
  obtain ⟨answer', hpairs⟩ := exists_pairs state template kind name
  rw [← hfound, hpairs.find?_eq]
  exact hpairs

/-! ## Templates -/

/-- Keys of other templates do not agree exactly. -/
theorem template_eq_of_agreesExactly {key : Key}
    (h : key.agreesExactly template kind name = true) : key.template = template := by
  simp only [Key.agreesExactly, Bool.and_eq_true, decide_eq_true_eq] at h
  exact h.1.1

/-- Nor do they agree flexibly. -/
theorem template_eq_of_agreesFlexibly {key : Key}
    (h : key.agreesFlexibly template kind name = true) : key.template = template := by
  simp only [Key.agreesFlexibly, Bool.and_eq_true, decide_eq_true_eq] at h
  exact h.1.1

/-- A test of keys of one template sees nothing but this template. -/
theorem IsFirst.congr {accepts : Key → Bool} {key : Key} {value : Value}
    (h : state.IsFirst accepts key value)
    (haccepts : ∀ key, accepts key = true → key.template = template)
    (hsame : ∀ key, key.template = template → state.get? key = other.get? key) :
    other.IsFirst accepts key value where
  get?_eq := hsame key (haccepts key h.accepted) ▸ h.get?_eq
  accepted := h.accepted
  least key' hvalue hpass := by
    rw [← hsame key' (haccepts key' hpass)] at hvalue
    exact h.least key' hvalue hpass

/-- If no key with a value passes such a test, none does where the template is the same. -/
theorem accepts_eq_false_congr {accepts : Key → Bool}
    (h : ∀ key, state.get? key ≠ none → accepts key = false)
    (haccepts : ∀ key, accepts key = true → key.template = template)
    (hsame : ∀ key, key.template = template → state.get? key = other.get? key) (key : Key)
    (hvalue : other.get? key ≠ none) : accepts key = false := by
  rw [Bool.eq_false_iff]
  intro hpass
  rw [← hsame key (haccepts key hpass)] at hvalue
  rw [h key hvalue] at hpass
  cases hpass

/-- What is the only entry of a template is so in any state with the same entries of it. -/
theorem IsSole.congr {key : Key} {value : Value} (h : state.IsSole template key value)
    (hsame : ∀ key, key.template = template → state.get? key = other.get? key) :
    other.IsSole template key value where
  get?_eq := hsame key h.template_eq ▸ h.get?_eq
  template_eq := h.template_eq
  only key' hvalue htemplate := by
    rw [← hsame key' htemplate] at hvalue
    exact h.only key' hvalue htemplate

/-- A pairing depends on the keys of its template alone. -/
theorem Pairs.congr (h : state.Pairs template kind name answer)
    (hsame : ∀ key, key.template = template → state.get? key = other.get? key) :
    other.Pairs template kind name answer := by
  -- All tests of the tiers accept keys of the template only.
  have hexact : ∀ key : Key, key.agreesExactly template kind name = true →
      key.template = template := fun _ => template_eq_of_agreesExactly
  have hflexible : ∀ key : Key, key.agreesFlexibly template kind name = true →
      key.template = template := fun _ => template_eq_of_agreesFlexibly
  cases h with
  | exact hfirst => exact .exact (hfirst.congr hexact hsame)
  | flexible hnone hfirst =>
    exact .flexible (accepts_eq_false_congr hnone hexact hsame) (hfirst.congr hflexible hsame)
  | sole hnone hsole =>
    exact .sole (accepts_eq_false_congr hnone hflexible hsame) (hsole.congr hsame)
  | nothing hnone hseveral =>
    refine .nothing (accepts_eq_false_congr hnone hflexible hsame) ?_
    -- A sole key there would be one here.
    rintro ⟨key, value, hsole⟩
    exact hseveral ⟨key, value, hsole.congr fun key hkey => (hsame key hkey).symm⟩

/-- What a message is paired with is declared by its template. -/
theorem Pairs.exists_key {value : Value} {tier : Tier}
    (h : state.Pairs template kind name (some (value, tier))) :
    ∃ key, key.template = template ∧ state.get? key = some value := by
  cases h with
  | exact hfirst => exact ⟨_, template_eq_of_agreesExactly hfirst.accepted, hfirst.get?_eq⟩
  | flexible _ hfirst =>
    exact ⟨_, template_eq_of_agreesFlexibly hfirst.accepted, hfirst.get?_eq⟩
  | sole _ hsole => exact ⟨_, hsole.template_eq, hsole.get?_eq⟩

end

/-- How the pairing of messages on a resource with what a template declares goes by tiers. -/
structure PairsByTiers (state : DesiredState) (template kind name : String) : Prop where
  /-- The search finds what the first tier that has anything has, and nothing else. -/
  find?_eq_iff : ∀ answer,
    state.find? template kind name = answer ↔ state.Pairs template kind name answer
  /-- What agrees exactly agrees flexibly. -/
  flexible_of_exact : ∀ key : Key, key.agreesExactly template kind name = true →
    key.agreesFlexibly template kind name = true
  /-- What is found is declared by the template. -/
  of_template : ∀ value tier, state.find? template kind name = some (value, tier) →
    ∃ key, key.template = template ∧ state.get? key = some value
  /-- Something is found if the template declares one resource alone. -/
  found_of_sole : (∃ key value, state.IsSole template key value) →
    state.find? template kind name ≠ none
  /-- Insertions under keys of other templates, new or not, make no difference. -/
  others_immaterial : ∀ entries : List (Key × Value),
    (∀ entry ∈ entries, entry.1.template ≠ template) →
      (state.insertAll entries).find? template kind name = state.find? template kind name
  /-- The order of insertions under different keys makes no difference. -/
  order_immaterial : ∀ entries entries' : List (Key × Value), entries.Perm entries' →
    (entries.map Prod.fst).Nodup →
      (state.insertAll entries).find? template kind name =
        (state.insertAll entries').find? template kind name

/-- Messages are paired by tiers, whatever is declared and whatever they name. -/
theorem matching_by_tiers (state : DesiredState) (template kind name : String) :
    state.PairsByTiers template kind name where
  find?_eq_iff _ := find?_eq_iff
  flexible_of_exact _ := Key.agreesFlexibly_of_agreesExactly
  of_template value tier hfound := (find?_eq_iff.1 hfound).exists_key
  found_of_sole := by
    rintro ⟨key, value, hsole⟩ hnone
    cases find?_eq_iff.1 hnone with
    | nothing _ hseveral => exact hseveral ⟨key, value, hsole⟩
  others_immaterial entries hothers := by
    obtain ⟨answer, hpairs⟩ := exists_pairs state template kind name
    rw [hpairs.find?_eq]
    refine (hpairs.congr fun key htemplate => ?_).find?_eq
    -- A key of the template is not among those inserted.
    have hkey : key ∉ entries.map Prod.fst := by
      intro hmem
      obtain ⟨entry, hentry, rfl⟩ := List.mem_map.1 hmem
      exact hothers entry hentry htemplate
    rw [get?_insertAll, lookup_reverse_eq_none hkey, Option.none_or]
  order_immaterial entries entries' hperm hkeys := by
    rw [state.insertAll_perm hperm hkeys]

/-- The exact tier goes first, although `NODES` comes before `Node` and agrees flexibly. -/
example : ((empty.insert ⟨"nodes", "NODES", "worker-1"⟩ (.string "flexible")).insert
    ⟨"nodes", "Node", "worker-1"⟩ (.string "exact")).find? "nodes" "node" "worker-1" =
      some (.string "exact", .exact) := by
  rfl

end ComplianceTriage.DesiredState
