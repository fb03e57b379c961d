import ComplianceTriage.Value.Path

/-!
# The desired state

A root policy wraps templates, and each template of the configuration kind lists the resources that
it wants. They are indexed by template, kind and name. The index is kept in the order of its keys,
so that every search through it meets the declarations in the same order, whatever the order in
which they were written down. A key that is declared again takes the later declaration
(`get?_insert_self`), and the others are left alone (`get?_insert_of_ne`).
-/

namespace ComplianceTriage

namespace DesiredState

/-- Which template declares which resource. -/
structure Key where
  template : String
  kind : String
  name : String
deriving DecidableEq, Repr, Inhabited

namespace Key

/-- The order of keys: by template, then by kind, then by name, each by its characters. -/
def Before (a b : Key) : Prop :=
  a.template < b.template ∨
    (a.template = b.template ∧ (a.kind < b.kind ∨ (a.kind = b.kind ∧ a.name < b.name)))

/-- Which of two keys comes first is decided text by text. -/
instance (a b : Key) : Decidable (a.Before b) :=
  inferInstanceAs (Decidable (_ ∨ _))

/-- No key comes before itself. -/
theorem Before.irrefl (a : Key) : ¬ a.Before a := by
  simp only [Before, String.lt_irrefl, and_false, or_false, not_false_eq_true]

/-- What comes before a key comes before all that the key does. -/
theorem Before.trans {a b c : Key} (hab : a.Before b) (hbc : b.Before c) : a.Before c := by
  obtain ⟨ta, ka, na⟩ := a
  obtain ⟨tb, kb, nb⟩ := b
  obtain ⟨tc, kc, nc⟩ := c
  simp only [Before] at hab hbc ⊢
  -- Each of the two is decided by the template, by the kind or by the name.
  rcases hab with h | ⟨rfl, h | ⟨rfl, h⟩⟩ <;> rcases hbc with h' | ⟨rfl, h' | ⟨rfl, h'⟩⟩
  · exact .inl (String.lt_trans h h')
  · exact .inl h
  · exact .inl h
  · exact .inl h'
  · exact .inr ⟨rfl, .inl (String.lt_trans h h')⟩
  · exact .inr ⟨rfl, .inl h⟩
  · exact .inl h'
  · exact .inr ⟨rfl, .inl h'⟩
  · exact .inr ⟨rfl, .inr ⟨rfl, String.lt_trans h h'⟩⟩

/-- Of two different keys one comes first. -/
theorem eq_of_not_before {a b : Key} (hab : ¬ a.Before b) (hba : ¬ b.Before a) : a = b := by
  obtain ⟨ta, ka, na⟩ := a
  obtain ⟨tb, kb, nb⟩ := b
  simp only [Before, not_or, not_and] at hab hba
  -- Part by part: neither key has the smaller one, and so both have the same.
  have ht : ta = tb := String.le_antisymm (String.not_lt.1 hba.1) (String.not_lt.1 hab.1)
  subst ht
  have hk : ka = kb :=
    String.le_antisymm (String.not_lt.1 (hba.2 rfl).1) (String.not_lt.1 (hab.2 rfl).1)
  subst hk
  have hn : na = nb :=
    String.le_antisymm (String.not_lt.1 ((hba.2 rfl).2 rfl)) (String.not_lt.1 ((hab.2 rfl).2 rfl))
  rw [hn]

end Key

/-- The entries with one more, in the order of their keys; an entry of the same key is replaced. -/
def insertEntry (key : Key) (value : Value) : List (Key × Value) → List (Key × Value)
  | [] => [(key, value)]
  | (k, v) :: rest =>
    if key.Before k then (key, value) :: (k, v) :: rest
    else if k.Before key then (k, v) :: insertEntry key value rest
    else (key, value) :: rest

/-- The keys after an insertion are the old ones and the new one. -/
theorem mem_insertEntry {key k : Key} {value v : Value} {entries : List (Key × Value)}
    (h : (k, v) ∈ insertEntry key value entries) :
    (k = key ∧ v = value) ∨ (k, v) ∈ entries := by
  -- Along the entries that are passed over; the new one is put in front, between, or in place of
  -- one.
  fun_induction insertEntry key value entries with
  | case1 => simp_all
  | case2 => simp_all
  | case3 k' v' rest _ _ ih =>
    rcases List.mem_cons.1 h with h | h
    · exact .inr (h ▸ List.mem_cons_self)
    · rcases ih h with h | h
      · exact .inl h
      · exact .inr (List.mem_cons_of_mem _ h)
  | case4 =>
    rcases List.mem_cons.1 h with h | h
    · exact .inl (by simpa using h)
    · exact .inr (List.mem_cons_of_mem _ h)

/-- An insertion keeps the order of the keys. -/
theorem pairwise_insertEntry {key : Key} {value : Value} {entries : List (Key × Value)}
    (h : entries.Pairwise fun a b => a.1.Before b.1) :
    (insertEntry key value entries).Pairwise fun a b => a.1.Before b.1 := by
  fun_induction insertEntry key value entries with
  | case1 => simp
  | case2 k v rest hlt =>
    -- The new key comes before the first, and so before all.
    refine List.pairwise_cons.2 ⟨fun entry hentry => ?_, h⟩
    rcases List.mem_cons.1 hentry with rfl | hentry
    · exact hlt
    · exact hlt.trans ((List.pairwise_cons.1 h).1 entry hentry)
  | case3 k v rest _ hgt ih =>
    obtain ⟨hfirst, hrest⟩ := List.pairwise_cons.1 h
    refine List.pairwise_cons.2 ⟨fun entry hentry => ?_, ih hrest⟩
    -- The first entry stays in front of the new one and of the old ones behind it.
    rcases mem_insertEntry hentry with ⟨heq, _⟩ | hentry
    · simpa [heq] using hgt
    · exact hfirst entry hentry
  | case4 k v rest hlt hgt =>
    obtain ⟨hfirst, hrest⟩ := List.pairwise_cons.1 h
    -- A key that comes neither before nor behind is the same, and takes its place.
    have : key = k := Key.eq_of_not_before hlt hgt
    exact List.pairwise_cons.2 ⟨fun entry hentry => this ▸ hfirst entry hentry, hrest⟩

/-- The kind of template that lists resources. -/
def configurationKind : String := "ConfigurationPolicy"

/-- The resources that a template wants: the objects among the definitions that it lists. -/
def wantedBy (template : Value) : List Value :=
  (template.itemsAt ["spec", "object-templates"]).filterMap fun entry =>
    entry.objectAt? ["objectDefinition"]

/-- The configuration templates of a policy, in order. -/
def templatesOf (policy : Value) : List Value :=
  ((policy.itemsAt ["spec", "policy-templates"]).filterMap fun entry =>
    entry.objectAt? ["objectDefinition"]).filter fun template =>
      template.textAt? ["kind"] = some configurationKind

/-- The key of a resource that a template wants. -/
def keyOf (template resource : Value) : Key :=
  ⟨template.name, resource.kind, resource.name⟩

end DesiredState

open DesiredState in
/-- The resources that a policy wants, by template, kind and name. -/
structure DesiredState where
  entries : List (Key × Value)
  ordered : entries.Pairwise fun a b => a.1.Before b.1

namespace DesiredState

/-- Nothing is wanted. -/
def empty : DesiredState := ⟨[], .nil⟩

/-- The state in which nothing is wanted stands for any. -/
instance : Inhabited DesiredState := ⟨empty⟩

/-- Two desired states with the same entries are the same. -/
@[ext]
theorem ext {a b : DesiredState} (h : a.entries = b.entries) : a = b := by
  cases a; cases b; cases h; rfl

/-- Wants a resource under a key, in place of one that was wanted under it. -/
def insert (state : DesiredState) (key : Key) (value : Value) : DesiredState :=
  ⟨insertEntry key value state.entries, pairwise_insertEntry state.ordered⟩

/-- The resource wanted under a key. -/
def get? (state : DesiredState) (key : Key) : Option Value :=
  state.entries.lookup key

/-- The number of entries. -/
def size (state : DesiredState) : Nat :=
  state.entries.length

/-- Whether nothing is wanted. -/
def isEmpty (state : DesiredState) : Bool :=
  state.entries.isEmpty

/-- The entries of one template, in the order of their keys. -/
def ofTemplate (state : DesiredState) (template : String) : List (Key × Value) :=
  state.entries.filter fun entry => entry.1.template = template

/-- The desired state with all that a template wants. -/
def addTemplate (state : DesiredState) (template : Value) : DesiredState :=
  (wantedBy template).foldl (fun state resource => state.insert (keyOf template resource) resource)
    state

/-- The desired state of a policy. Whatever is malformed is passed over. -/
def ofPolicy (policy : Value) : DesiredState :=
  (templatesOf policy).foldl addTemplate empty

/-- A key that was just inserted has the value it was inserted with. -/
theorem get?_insert_self (state : DesiredState) (key : Key) (value : Value) :
    (state.insert key value).get? key = some value := by
  obtain ⟨entries, ordered⟩ := state
  simp only [get?, insert]
  -- The order of the entries is not needed: the first of the key is the one that was inserted.
  clear ordered
  induction entries with
  | nil => simp [insertEntry]
  | cons entry rest ih =>
    obtain ⟨k, v⟩ := entry
    rw [insertEntry]
    split
    · simp
    · split
      · next hbefore =>
        have hne : (key == k) = false := by
          simp only [beq_eq_false_iff_ne]
          rintro rfl
          exact Key.Before.irrefl _ hbefore
        simpa [List.lookup_cons, hne] using ih
      · simp

/-- An insertion leaves the values of other keys as they were. -/
theorem get?_insert_of_ne {state : DesiredState} {key other : Key} {value : Value}
    (h : other ≠ key) : (state.insert key value).get? other = state.get? other := by
  obtain ⟨entries, ordered⟩ := state
  simp only [get?, insert]
  clear ordered
  have hne : (other == key) = false := by simpa using h
  -- The search passes over the new entry, and over the one whose place it took.
  induction entries with
  | nil => simp [insertEntry, List.lookup_cons, hne]
  | cons entry rest ih =>
    obtain ⟨k, v⟩ := entry
    rw [insertEntry]
    split
    · simp [List.lookup_cons, hne]
    · split
      · simp [List.lookup_cons, ih]
      · next hlt hgt =>
        have hk : key = k := Key.eq_of_not_before hlt hgt
        subst hk
        simp [List.lookup_cons, hne]

end DesiredState

end ComplianceTriage
