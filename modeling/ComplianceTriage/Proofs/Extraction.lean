import ComplianceTriage.Proofs.ByteOrder
import ComplianceTriage.Proofs.Insertion
import Mathlib.Data.List.Pairwise

/-!
# What a policy declares

A policy lists templates, and a template lists resources. A resource stands at a place of the
document (`Declares`): in which entry of the policy, and there in which entry of the template. The
desired state of the policy has, under each key, what the policy declares under it at the last place
(`get?_ofPolicy_eq_some_iff`). Whatever is malformed declares nothing.

The desired state is made by insertions, entry after entry (`ofPolicy_eq`). The places go up along
the insertions (`pairwise_placed`), and so the last insertion under a key is the one of the last
place. Where no key comes twice, the order of the insertions is lost, and with it the order of the
document (`Reordered.ofPolicy_eq`).
-/

namespace ComplianceTriage.DesiredState

/-- A policy declares a resource under a key, at a place. Places are in the order of the document:
by the entry of the policy, then by the entry of the template that it holds. -/
inductive Declares (policy : Value) : Nat ×ₗ Nat → Key → Value → Prop where
  | intro {i j : Nat} {entry template listing resource : Value}
      (entry_at : (policy.itemsAt ["spec", "policy-templates"])[i]? = some entry)
      (template_at : entry.at? ["objectDefinition"] = some template)
      (template_isObject : template.isObject = true)
      (kind_at : template.at? ["kind"] = some (.string "ConfigurationPolicy"))
      (listing_at : (template.itemsAt ["spec", "object-templates"])[j]? = some listing)
      (resource_at : listing.at? ["objectDefinition"] = some resource)
      (resource_isObject : resource.isObject = true) :
      Declares policy (toLex (i, j))
        ⟨template.textAt ["metadata", "name"], resource.textAt ["kind"],
          resource.textAt ["metadata", "name"]⟩
        resource

/-- What is declared is an object, of the kind and of the name of its key. -/
theorem Declares.keyed {policy : Value} {place : Nat ×ₗ Nat} {key : Key} {value : Value}
    (h : Declares policy place key value) :
    value.isObject = true ∧ value.textAt ["kind"] = key.kind ∧
      value.textAt ["metadata", "name"] = key.name := by
  obtain ⟨-, -, -, -, -, -, hobject⟩ := h
  exact ⟨hobject, rfl, rfl⟩

/-! ## Insertions in order -/

/-- The template in an entry of a policy, if it is one that lists resources. -/
def templateOf? (entry : Value) : Option Value :=
  (entry.objectAt? ["objectDefinition"]).filter fun template =>
    template.textAt? ["kind"] = some configurationKind

/-- What an entry of a template declares. -/
def declaration? (template listing : Value) : Option (Key × Value) :=
  (listing.objectAt? ["objectDefinition"]).map fun resource => (keyOf template resource, resource)

/-- What an entry of a policy declares, in order. -/
def declaredBy (entry : Value) : List (Key × Value) :=
  match templateOf? entry with
  | none => []
  | some template =>
    (template.itemsAt ["spec", "object-templates"]).filterMap (declaration? template)

/-- The keys that an entry of a policy declares, in order. -/
def keysOf (entry : Value) : List Key :=
  (declaredBy entry).map Prod.fst

/-- An entry has a template if its definition is an object of the configuration kind. -/
theorem templateOf?_eq_some_iff {entry template : Value} : templateOf? entry = some template ↔
    entry.objectAt? ["objectDefinition"] = some template ∧
      template.textAt? ["kind"] = some "ConfigurationPolicy" := by
  rw [templateOf?, Option.filter_eq_some_iff, decide_eq_true_eq, configurationKind]

/-- A definition of another kind is passed over. -/
theorem templateOf?_eq_none {entry template : Value}
    (hentry : entry.objectAt? ["objectDefinition"] = some template)
    (hkind : template.textAt? ["kind"] ≠ some "ConfigurationPolicy") :
    templateOf? entry = none := by
  rw [Option.eq_none_iff_forall_ne_some]
  intro template' htemplate'
  obtain ⟨hentry', hkind'⟩ := templateOf?_eq_some_iff.1 htemplate'
  rw [hentry, Option.some.injEq] at hentry'
  exact hkind (hentry' ▸ hkind')

/-- A listing declares the object that is its definition, under the key of this object. -/
theorem declaration?_eq_some_iff {template listing value : Value} {key : Key} :
    declaration? template listing = some (key, value) ↔
      listing.objectAt? ["objectDefinition"] = some value ∧ key = keyOf template value := by
  rw [declaration?, Option.map_eq_some_iff]
  constructor
  · rintro ⟨resource, hresource, ⟨⟩⟩
    exact ⟨hresource, rfl⟩
  · rintro ⟨hresource, rfl⟩
    exact ⟨value, hresource, rfl⟩

/-- What a template wants is inserted listing by listing. -/
theorem addTemplate_eq (state : DesiredState) (template : Value) : state.addTemplate template =
    state.insertAll
      ((template.itemsAt ["spec", "object-templates"]).filterMap (declaration? template)) := by
  have hwanted : (template.itemsAt ["spec", "object-templates"]).filterMap (declaration? template) =
      (wantedBy template).map fun resource => (keyOf template resource, resource) := by
    rw [wantedBy, List.map_filterMap]
    rfl
  rw [hwanted, insertAll, List.foldl_map, addTemplate]

/-- The templates of a policy are those of its entries, one entry after the other. -/
theorem templatesOf_eq (policy : Value) :
    templatesOf policy = (policy.itemsAt ["spec", "policy-templates"]).filterMap templateOf? := by
  rw [templatesOf, List.filter_filterMap]
  rfl

/-- The templates among some entries are inserted entry by entry. -/
theorem foldl_addTemplate (entries : List Value) (state : DesiredState) :
    (entries.filterMap templateOf?).foldl addTemplate state =
      state.insertAll (entries.flatMap declaredBy) := by
  induction entries generalizing state with
  | nil => rfl
  | cons entry rest ih =>
    rw [List.flatMap_cons, insertAll_append, ← ih, declaredBy]
    cases htemplate : templateOf? entry with
    -- An entry that is passed over declares nothing.
    | none =>
      rw [List.filterMap_cons_none htemplate]
      rfl
    | some template =>
      rw [List.filterMap_cons_some htemplate, List.foldl_cons, addTemplate_eq]

/-- The desired state of a policy is made by inserting what its entries declare, in order. -/
theorem ofPolicy_eq (policy : Value) : ofPolicy policy =
    empty.insertAll ((policy.itemsAt ["spec", "policy-templates"]).flatMap declaredBy) := by
  rw [ofPolicy, templatesOf_eq, foldl_addTemplate]

/-! ## Places -/

/-- What the entry at an index of a policy declares, with the places. -/
def placedBy (entry : Value) (i : Nat) : List ((Nat ×ₗ Nat) × Key × Value) :=
  match templateOf? entry with
  | none => []
  | some template =>
    (template.itemsAt ["spec", "object-templates"]).zipIdx.filterMap fun (listing, j) =>
      (declaration? template listing).map fun declared => (toLex (i, j), declared)

/-- What a policy declares, with the places, in order. -/
def placed (policy : Value) : List ((Nat ×ₗ Nat) × Key × Value) :=
  (policy.itemsAt ["spec", "policy-templates"]).zipIdx.flatMap fun (entry, i) => placedBy entry i

/-- The places aside, this is what an entry declares. -/
theorem map_snd_placedBy (entry : Value) (i : Nat) :
    (placedBy entry i).map Prod.snd = declaredBy entry := by
  rw [placedBy, declaredBy]
  cases templateOf? entry with
  | none => rfl
  | some template =>
    dsimp only
    rw [List.map_filterMap]
    -- The indices are added and dropped again.
    conv_rhs => rw [← List.zipIdx_map_fst 0 (template.itemsAt _), List.filterMap_map]
    refine List.filterMap_congr fun item _ => ?_
    rw [Option.map_map]
    exact Option.map_id'

/-- The places aside, this is what is inserted. -/
theorem map_snd_placed (policy : Value) : (placed policy).map Prod.snd =
    (policy.itemsAt ["spec", "policy-templates"]).flatMap declaredBy := by
  rw [placed, List.map_flatMap]
  conv_rhs => rw [← List.zipIdx_map_fst 0 (policy.itemsAt _), List.flatMap_map]
  exact List.flatMap_congr fun item _ => map_snd_placedBy item.1 item.2

/-- What an entry places is what its template lists, at the index of the entry and of the listing.
-/
theorem mem_placedBy_iff {entry : Value} {i : Nat} {place : Nat ×ₗ Nat} {key : Key}
    {value : Value} : (place, key, value) ∈ placedBy entry i ↔
      ∃ template, templateOf? entry = some template ∧
        ∃ j listing, (template.itemsAt ["spec", "object-templates"])[j]? = some listing ∧
          listing.objectAt? ["objectDefinition"] = some value ∧
            place = toLex (i, j) ∧ key = keyOf template value := by
  rw [placedBy]
  cases templateOf? entry with
  | none => simp
  | some template =>
    simp only [List.mem_filterMap, Prod.exists, List.mem_zipIdx_iff_getElem?,
      Option.map_eq_some_iff, declaration?_eq_some_iff, Prod.mk.injEq, Option.some.injEq,
      exists_eq_left']
    -- Both sides tell the same listing, by its index and by its template.
    constructor
    · rintro ⟨listing, j, hlisting, key, value, ⟨hvalue, hkey⟩, rfl, rfl, rfl⟩
      exact ⟨j, listing, hlisting, hvalue, rfl, hkey⟩
    · rintro ⟨j, listing, hlisting, hvalue, rfl, hkey⟩
      exact ⟨listing, j, hlisting, key, value, ⟨hvalue, hkey⟩, rfl, rfl, rfl⟩

/-- What is placed is what the policy declares. -/
theorem mem_placed_iff {policy : Value} {place : Nat ×ₗ Nat} {key : Key} {value : Value} :
    (place, key, value) ∈ placed policy ↔ Declares policy place key value := by
  simp only [placed, List.mem_flatMap, Prod.exists, List.mem_zipIdx_iff_getElem?, mem_placedBy_iff,
    templateOf?_eq_some_iff, Value.objectAt?_eq_some_iff, Value.textAt?_eq_some_iff]
  constructor
  · rintro ⟨entry, i, hentry, template, ⟨⟨htemplate, hobject⟩, hkind⟩, j, listing, hlisting,
      ⟨hvalue, hobject'⟩, rfl, rfl⟩
    exact .intro hentry htemplate hobject hkind hlisting hvalue hobject'
  · rintro ⟨hentry, htemplate, hobject, hkind, hlisting, hvalue, hobject'⟩
    exact ⟨_, _, hentry, _, ⟨⟨htemplate, hobject⟩, hkind⟩, _, _, hlisting, ⟨hvalue, hobject'⟩,
      rfl, rfl⟩

/-- Indices go up along a list. -/
theorem pairwise_zipIdx (items : List Value) :
    items.zipIdx.Pairwise fun a b => a.2 < b.2 := by
  rw [← List.pairwise_map (f := Prod.snd) (R := (· < ·)), List.zipIdx_map_snd]
  exact List.pairwise_lt_range'

/-- Places go up along an entry. -/
theorem pairwise_placedBy (entry : Value) (i : Nat) :
    (placedBy entry i).Pairwise fun a b => a.1 < b.1 := by
  rw [placedBy]
  cases templateOf? entry with
  | none => exact .nil
  | some template =>
    -- In one entry the second part of the place decides.
    refine List.pairwise_filterMap.2 ((pairwise_zipIdx _).imp ?_)
    rintro ⟨listing, j⟩ ⟨listing', j'⟩ hlt a ha a' ha'
    obtain ⟨declared, -, rfl⟩ := Option.map_eq_some_iff.1 ha
    obtain ⟨declared', -, rfl⟩ := Option.map_eq_some_iff.1 ha'
    exact Prod.Lex.toLex_lt_toLex.2 (.inr ⟨rfl, hlt⟩)

/-- Places go up along a policy. -/
theorem pairwise_placed (policy : Value) : (placed policy).Pairwise fun a b => a.1 < b.1 := by
  refine List.pairwise_flatMap.2 ⟨fun ⟨entry, i⟩ _ => pairwise_placedBy entry i, ?_⟩
  -- Between two entries the first part of the place decides.
  refine (pairwise_zipIdx _).imp ?_
  rintro ⟨entry, i⟩ ⟨entry', i'⟩ hlt ⟨place, key, value⟩ hplaced ⟨place', key', value'⟩ hplaced'
  obtain ⟨-, -, j, -, -, -, rfl, -⟩ := mem_placedBy_iff.1 hplaced
  obtain ⟨-, -, j', -, -, -, rfl, -⟩ := mem_placedBy_iff.1 hplaced'
  exact Prod.Lex.toLex_lt_toLex.2 (.inl hlt)

/-! ## The last declaration -/

/-- Where places go up, the last entry of a key is the one of the last place. -/
theorem lookup_reverse_placed_iff {entries : List ((Nat ×ₗ Nat) × Key × Value)}
    (h : entries.Pairwise fun a b => a.1 < b.1) {key : Key} {value : Value} :
    (entries.map Prod.snd).reverse.lookup key = some value ↔
      ∃ place, (place, key, value) ∈ entries ∧
        ∀ place' value', (place', key, value') ∈ entries → place' ≤ place := by
  rw [lookup_reverse_eq_some_iff]
  constructor
  · rintro ⟨front, back, hsplit, hback⟩
    obtain ⟨front', rest, rfl, rfl, hrest⟩ := List.map_eq_append_iff.1 hsplit
    obtain ⟨⟨place, key', value'⟩, back', rfl, hhead, rfl⟩ := List.map_eq_cons_iff.1 hrest
    cases hhead
    refine ⟨place, List.mem_append_right _ List.mem_cons_self, fun place' value' hmem => ?_⟩
    -- The other entry of the key stands in front, is the same, or would stand behind, which is
    -- excluded.
    rcases List.mem_append.1 hmem with hfront | hmem
    · exact ((List.pairwise_append.1 h).2.2 _ hfront _ List.mem_cons_self).le
    · rcases List.mem_cons.1 hmem with heq | hmem
      · exact (congrArg Prod.fst heq).le
      · exact absurd (List.mem_map_of_mem (List.mem_map_of_mem hmem)) hback
  · rintro ⟨place, hmem, hlast⟩
    obtain ⟨front, back, rfl⟩ := List.append_of_mem hmem
    refine ⟨front.map Prod.snd, back.map Prod.snd, by simp, fun hkey => ?_⟩
    -- A later entry of the key would be at a later place.
    rw [List.map_map] at hkey
    obtain ⟨⟨place', key', value'⟩, hbehind, hsame⟩ := List.mem_map.1 hkey
    obtain rfl : key' = key := hsame
    have hlt : place < place' :=
      (List.pairwise_cons.1 (List.pairwise_append.1 h).2.1).1 _ hbehind
    have hle := hlast place' value' (List.mem_append_right _ (List.mem_cons_of_mem _ hbehind))
    exact absurd hlt (not_lt_of_ge hle)

/-- Under a key is what the policy declares under it at the last place. -/
theorem get?_ofPolicy_eq_some_iff {policy : Value} {key : Key} {value : Value} :
    (ofPolicy policy).get? key = some value ↔
      ∃ place, Declares policy place key value ∧
        ∀ place' value', Declares policy place' key value' → place' ≤ place := by
  have hempty : empty.get? key = none := rfl
  rw [ofPolicy_eq, ← map_snd_placed, get?_insertAll, hempty, Option.or_none,
    lookup_reverse_placed_iff (pairwise_placed policy)]
  simp only [mem_placed_iff]

/-- Nothing is under a key that the policy does not declare. -/
theorem get?_ofPolicy_eq_none_iff {policy : Value} {key : Key} :
    (ofPolicy policy).get? key = none ↔ ∀ place value, ¬ Declares policy place key value := by
  have hempty : empty.get? key = none := rfl
  rw [ofPolicy_eq, ← map_snd_placed, get?_insertAll, hempty, Option.or_none,
    List.lookup_eq_none_iff]
  -- Under a key that is never inserted is nothing, for nothing was there at the start.
  constructor
  · intro hnone place value hdeclares
    have hmem := List.mem_map_of_mem (f := Prod.snd) (mem_placed_iff.2 hdeclares)
    exact bne_iff_ne.1 (hnone _ (List.mem_reverse.2 hmem)) rfl
  · intro hnone entry hentry
    obtain ⟨⟨place, key', value⟩, hplaced, rfl⟩ := List.mem_map.1 (List.mem_reverse.1 hentry)
    rw [bne_iff_ne]
    rintro rfl
    exact hnone place value (mem_placed_iff.1 hplaced)

/-! ## Keys -/

/-- The order of the entries is that of the bytes of their keys. -/
theorem pairwise_bytes (state : DesiredState) :
    state.entries.Pairwise fun a b => a.1.bytes < b.1.bytes :=
  state.ordered.imp Key.bytes_lt_bytes_iff.2

/-- That a desired state has, under each key, what a policy declares there last. -/
structure Indexes (state : DesiredState) (policy : Value) : Prop where
  /-- Under a key is what the policy declares under it at the last place, and nothing else. -/
  latest : ∀ key value, state.get? key = some value ↔
    ∃ place, Declares policy place key value ∧
      ∀ place' value', Declares policy place' key value' → place' ≤ place
  /-- Nothing is under exactly the keys that the policy does not declare. -/
  absent : ∀ key, state.get? key = none ↔ ∀ place value, ¬ Declares policy place key value
  /-- What the entries say is what is under the keys. -/
  mem_entries : ∀ key value, (key, value) ∈ state.entries ↔ state.get? key = some value
  /-- Every value is an object, of the kind and of the name of its key. -/
  keyed : ∀ key value, (key, value) ∈ state.entries →
    value.isObject = true ∧ value.textAt ["kind"] = key.kind ∧
      value.textAt ["metadata", "name"] = key.name
  /-- The entries go up by the bytes of template, kind and name. -/
  increasing : state.entries.Pairwise fun a b => a.1.bytes < b.1.bytes
  /-- No key comes twice. -/
  nodup_keys : (state.entries.map Prod.fst).Nodup

/-- The desired state of a policy has what the policy declares last. -/
theorem indexes_ofPolicy (policy : Value) : (ofPolicy policy).Indexes policy where
  latest _ _ := get?_ofPolicy_eq_some_iff
  absent _ := get?_ofPolicy_eq_none_iff
  mem_entries _ _ := get?_eq_some_iff.symm
  keyed key value hentry := by
    obtain ⟨place, hdeclares, -⟩ := get?_ofPolicy_eq_some_iff.1 (get?_eq_some_iff.2 hentry)
    exact hdeclares.keyed
  increasing := pairwise_bytes _
  nodup_keys := nodup_keys _

/-! ## The order of the document -/

/-- That a policy comes from another by a change of the order of its templates, or of the resources
in one of them. No two of those that change places have a key in common; what stands before and
behind them may have. -/
inductive Reordered : Value → Value → Prop where
  /-- Some templates are in another order, and no two of them declare a key in common. -/
  | templates {policy policy' : Value} {front middle middle' back : List Value}
      (entries : policy.itemsAt ["spec", "policy-templates"] = front ++ middle ++ back)
      (entries' : policy'.itemsAt ["spec", "policy-templates"] = front ++ middle' ++ back)
      (perm : middle.Perm middle')
      (disjoint : middle.Pairwise fun entry entry' => (keysOf entry).Disjoint (keysOf entry')) :
      Reordered policy policy'
  /-- Some resources of a template are in another order, and no two of them have the same key. -/
  | resources {policy policy' : Value} {before behind front middle middle' back : List Value}
      {entry entry' template template' : Value}
      (entries : policy.itemsAt ["spec", "policy-templates"] = before ++ entry :: behind)
      (entries' : policy'.itemsAt ["spec", "policy-templates"] = before ++ entry' :: behind)
      (template_eq : entry.objectAt? ["objectDefinition"] = some template)
      (template_eq' : entry'.objectAt? ["objectDefinition"] = some template')
      (same_kind : template'.textAt? ["kind"] = template.textAt? ["kind"])
      (same_name : template'.textAt ["metadata", "name"] = template.textAt ["metadata", "name"])
      (listings : template.itemsAt ["spec", "object-templates"] = front ++ middle ++ back)
      (listings' : template'.itemsAt ["spec", "object-templates"] = front ++ middle' ++ back)
      (perm : middle.Perm middle')
      (nodup : ((middle.filterMap (declaration? template)).map Prod.fst).Nodup) :
      Reordered policy policy'
  /-- Changes of the order may follow each other. -/
  | trans {policy policy' policy'' : Value} (first : Reordered policy policy')
      (rest : Reordered policy' policy'') : Reordered policy policy''

/-- Entries without a key in common are inserted in any order. -/
theorem insertAll_flatMap_perm (state : DesiredState) {entries entries' : List Value}
    (hperm : entries.Perm entries')
    (hkeys : entries.Pairwise fun entry entry' => (keysOf entry).Disjoint (keysOf entry')) :
    state.insertAll (entries.flatMap declaredBy) =
      state.insertAll (entries'.flatMap declaredBy) := by
  have : Std.Symm fun entry entry' : Value => (keysOf entry).Disjoint (keysOf entry') :=
    ⟨fun _ _ => List.disjoint_symm⟩
  -- The order of the entries is lost if any two of them commute.
  unfold insertAll
  rw [List.foldl_flatMap, List.foldl_flatMap]
  refine hperm.foldl_eq' (fun entry hentry entry' hentry' state => ?_) state
  rcases eq_or_ne entry entry' with rfl | hne
  · rfl
  · exact state.insertAll_comm (hkeys.forall hentry hentry' hne)

/-- Templates that differ in the order of some resources, none of the same key, are inserted with
the same effect. -/
theorem insertAll_declaredBy_congr (state : DesiredState)
    {entry entry' template template' : Value} {front middle middle' back : List Value}
    (hentry : entry.objectAt? ["objectDefinition"] = some template)
    (hentry' : entry'.objectAt? ["objectDefinition"] = some template')
    (hkind : template'.textAt? ["kind"] = template.textAt? ["kind"])
    (hname : template'.name = template.name)
    (hlistings : template.itemsAt ["spec", "object-templates"] = front ++ middle ++ back)
    (hlistings' : template'.itemsAt ["spec", "object-templates"] = front ++ middle' ++ back)
    (hperm : middle.Perm middle')
    (hnodup : ((middle.filterMap (declaration? template)).map Prod.fst).Nodup) :
    state.insertAll (declaredBy entry) = state.insertAll (declaredBy entry') := by
  -- A declaration takes the name of its template and nothing else of it.
  have hdeclaration : declaration? template' = declaration? template := by
    funext listing
    simp only [declaration?, keyOf, hname]
  by_cases hlists : template.textAt? ["kind"] = some "ConfigurationPolicy"
  · rw [declaredBy, declaredBy, templateOf?_eq_some_iff.2 ⟨hentry, hlists⟩,
      templateOf?_eq_some_iff.2 ⟨hentry', hkind.trans hlists⟩]
    dsimp only
    rw [hdeclaration, hlistings, hlistings']
    simp only [List.filterMap_append, insertAll_append]
    rw [insertAll_perm _ (hperm.filterMap _) hnodup]
  -- Templates of another kind are passed over, whatever they list.
  · have hlists' : template'.textAt? ["kind"] ≠ some "ConfigurationPolicy" := hkind ▸ hlists
    rw [declaredBy, declaredBy, templateOf?_eq_none hentry hlists,
      templateOf?_eq_none hentry' hlists']

/-- Such a change of the order does not change the desired state. -/
theorem Reordered.ofPolicy_eq {policy policy' : Value} (h : Reordered policy policy') :
    ofPolicy policy' = ofPolicy policy := by
  -- What stands before and behind the change is inserted alike on both sides.
  induction h with
  | templates hentries hentries' hperm hdisjoint =>
    rw [DesiredState.ofPolicy_eq, DesiredState.ofPolicy_eq, hentries, hentries']
    simp only [List.flatMap_append, insertAll_append]
    rw [insertAll_flatMap_perm _ hperm hdisjoint]
  | resources hentries hentries' hentry hentry' hkind hname hlistings hlistings' hperm hnodup =>
    rw [DesiredState.ofPolicy_eq, DesiredState.ofPolicy_eq, hentries, hentries']
    simp only [List.flatMap_append, List.flatMap_cons, insertAll_append]
    rw [insertAll_declaredBy_congr _ hentry hentry' hkind hname hlistings hlistings' hperm hnodup]
  | trans _ _ ihfirst ihrest => rw [ihrest, ihfirst]

/-- The desired state of a policy has, under each key, what the policy declares under it last, and
the order of what has different keys does not matter. -/
theorem ofPolicy_indexes (policy : Value) :
    (ofPolicy policy).Indexes policy ∧
      ∀ policy', Reordered policy policy' → ofPolicy policy' = ofPolicy policy :=
  ⟨indexes_ofPolicy policy, fun _ => Reordered.ofPolicy_eq⟩

/-- A policy with two templates of one name. The second declares the subscription of the first once
more, behind a definition that is no object. -/
def Sample.redeclared : Value :=
  let listing (channel : String) : Value :=
    .object [("objectDefinition", .object
      [("kind", .string "Subscription"), ("metadata", .object [("name", .string "lvms")]),
        ("channel", .string channel)])]
  let template (listings : List Value) : Value :=
    .object [("objectDefinition", .object
      [("kind", .string "ConfigurationPolicy"),
        ("metadata", .object [("name", .string "operators")]),
        ("spec", .object [("object-templates", .array listings)])])]
  .object [("spec", .object [("policy-templates", .array
    [template [listing "stable"],
      template [.object [("objectDefinition", .string "junk")], listing "candidate"]])])]

example : (ofPolicy Sample.redeclared).entries.map
    (fun entry => (entry.1, entry.2.textAt ["channel"])) =
      [(⟨"operators", "Subscription", "lvms"⟩, "candidate")] := by
  decide +kernel

end ComplianceTriage.DesiredState
