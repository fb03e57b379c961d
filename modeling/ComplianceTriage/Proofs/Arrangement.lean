import ComplianceTriage.Proofs.Packaging
import ComplianceTriage.Proofs.Survey

/-!
# Arrangement

A hub made of exported objects answers with the first object that fits. Where no two policies share
their name and namespace, and the policy asked for is determined, only one object can fit any
question that a triage asks. So neither command sees the order of the objects, nor any object that
is not a policy of one of the two names that matter: that of the policy, and that of its copies
(`arrangement_immaterial`).

A question is a test of objects. Rearranging keeps what passes it, in some order
(`Rearranged.perm_filter`), and of one object at most there is one order only
(`find?_eq_of_perm_filter`).
-/

namespace ComplianceTriage

/-- The policies among some objects. -/
def policiesOf (objects : List Value) : List Value :=
  objects.filter ResourceType.policy.holds

/-- Whether an object is a policy that may matter to a request on a hub. -/
structure Request.Concerns (request : Request) (hub : Store) (object : Value) : Prop where
  isPolicy : ResourceType.policy.holds object = true
  /-- It has the name asked for, or that of the copies of the policy found. -/
  named : object.name = request.policy ∨
    ∃ found, (Course.ofRequest hub.access request).result = .ok found ∧
      object.name = Policy.copyName found.ns request.policy

/-- Objects among which the policy asked for is not a matter of order. -/
structure Request.Determined (request : Request) (objects : List Value) : Prop where
  /-- No two policies share their name and namespace. -/
  nodup : ((policiesOf objects).map fun policy => (policy.name, policy.ns)).Nodup
  /-- At most one policy has the name asked for, or one has it in the namespace given. -/
  clear : (policiesOf objects).countP (fun policy => policy.name = request.policy) ≤ 1 ∨
    ∃ ns, request.place? = some ns ∧
      ∃ policy ∈ policiesOf objects, policy.name = request.policy ∧ policy.ns = ns

/-- Objects in another order, with more or fewer of those that are of no concern. -/
inductive Rearranged (concerns : Value → Prop) : List Value → List Value → Prop where
  | perm {objects objects' : List Value} (h : objects.Perm objects') :
      Rearranged concerns objects objects'
  | add (objects : List Value) {object : Value} (plain : object.IsPlain)
      (unrelated : ¬ concerns object) : Rearranged concerns objects (object :: objects)
  | remove (objects : List Value) {object : Value} (unrelated : ¬ concerns object) :
      Rearranged concerns (object :: objects) objects
  | trans {objects objects' objects'' : List Value} (first : Rearranged concerns objects objects')
      (second : Rearranged concerns objects' objects'') : Rearranged concerns objects objects''

namespace Rearranged

variable {concerns : Value → Prop} {objects objects' : List Value}

/-- Rearranged objects are not wrapped if the objects are not. -/
theorem isPlain (h : Rearranged concerns objects objects')
    (hplain : ∀ object ∈ objects, object.IsPlain) : ∀ object ∈ objects', object.IsPlain := by
  induction h with
  | perm h => exact fun object hobject => hplain object (h.mem_iff.2 hobject)
  | add objects hobject _ => exact List.forall_mem_cons.2 ⟨hobject, hplain⟩
  | remove objects _ => exact (List.forall_mem_cons.1 hplain).2
  | trans _ _ ih ih' => exact ih' (ih hplain)

/-- The objects of concern that pass a test are the same, in some order. -/
theorem perm_filter (h : Rearranged concerns objects objects') {test : Value → Bool}
    (htest : ∀ object, test object = true → concerns object) :
    (objects.filter test).Perm (objects'.filter test) := by
  induction h with
  | perm h => exact h.filter test
  | add objects _ hunrelated => rw [List.filter_cons_of_neg (mt (htest _) hunrelated)]
  | remove objects hunrelated => rw [List.filter_cons_of_neg (mt (htest _) hunrelated)]
  | trans _ _ ih ih' => exact ih.trans ih'

end Rearranged

/-- The first object that passes a test is the same in any order, if no other object passes it. -/
theorem find?_eq_of_perm_filter {objects objects' : List Value} {test : Value → Bool}
    (h : (objects.filter test).Perm (objects'.filter test)) (hone : objects.countP test ≤ 1) :
    objects.find? test = objects'.find? test := by
  rw [← List.head?_filter, ← List.head?_filter]
  rw [List.countP_eq_length_filter] at hone
  -- Of one object or none there is but one permutation.
  have hsame : objects.filter test = objects'.filter test := by
    cases hfits : objects.filter test with
    | nil =>
      rw [hfits] at h
      exact h.nil_eq
    | cons object rest =>
      have hrest : rest = [] := by
        rw [hfits, List.length_cons] at hone
        exact List.eq_nil_of_length_eq_zero (by omega)
      rw [hfits, hrest, List.singleton_perm] at h
      rw [hrest, h]
  rw [hsame]

/-! ## Questions -/

namespace Store

variable {concerns : Value → Prop} {objects objects' : List Value} {name : String}

/-- Objects that are not wrapped make a hub of themselves. -/
theorem ofValues_of_plain (h : ∀ object ∈ objects, object.IsPlain) :
    ofValues objects = ⟨objects⟩ := by
  have hobjects : (ofValues objects).objects = objects := by
    rw [objects_ofValues, listLeaves_of_plain h]
  exact congrArg mk hobjects

/-- If no two policies share their name and namespace, one at most answers to both. -/
theorem countP_answers_le_one
    (h : ((policiesOf objects).map fun policy => (policy.name, policy.ns)).Nodup)
    (name ns : String) : objects.countP (answers .policy name ns) ≤ 1 := by
  have hcount := List.nodup_iff_count.1 h (name, ns)
  rw [List.count_eq_countP, List.countP_map, policiesOf, List.countP_filter] at hcount
  -- An object answers if it is a policy and this pair is its key.
  refine Nat.le_trans (Nat.le_of_eq (List.countP_congr fun object _ => ?_)) hcount
  simp [answers, and_comm, and_assoc]

/-- Then rearranged hubs have the same answer, if the policies of the name are of concern. -/
theorem get_eq_of_rearranged (h : Rearranged concerns objects objects')
    (hunique : ((policiesOf objects).map fun policy => (policy.name, policy.ns)).Nodup)
    (hname : ∀ object, ResourceType.policy.holds object = true → object.name = name →
      concerns object)
    (ns : String) : (mk objects).get .policy name ns = (mk objects').get .policy name ns := by
  have hfind : objects.find? (answers .policy name ns) =
      objects'.find? (answers .policy name ns) := by
    refine find?_eq_of_perm_filter (h.perm_filter fun object hobject => ?_)
      (countP_answers_le_one hunique name ns)
    simp only [answers, Bool.and_eq_true, decide_eq_true_eq] at hobject
    exact hname object hobject.1.1 hobject.1.2
  unfold get
  rw [hfind]

/-- What a search for a name finds is the first policy of this name. -/
theorem first?_list (hub : Store) (name : String) :
    Resolved.first? name (hub.list .policy none) =
      ((policiesOf hub.objects).find? fun policy => policy.name = name).map
        fun policy => ⟨policy, policy.ns⟩ := by
  unfold Resolved.first? list policiesOf
  simp only [Bool.and_true]

/-- If no other policy has the name, a search of rearranged hubs finds the same. -/
theorem ofSearch_eq_of_rearranged (h : Rearranged concerns objects objects')
    (hname : ∀ object, ResourceType.policy.holds object = true → object.name = name →
      concerns object)
    (hone : (policiesOf objects).countP (fun policy => policy.name = name) ≤ 1)
    (ns? : Option String) : Course.ofSearch (mk objects).access name ns? =
      Course.ofSearch (mk objects').access name ns? := by
  -- A search tests for the kind and the name, and what passes is of concern.
  have hfilter : ((policiesOf objects).filter fun policy => policy.name = name).Perm
      ((policiesOf objects').filter fun policy => policy.name = name) := by
    unfold policiesOf
    rw [List.filter_filter, List.filter_filter]
    refine h.perm_filter fun object hobject => ?_
    rw [Bool.and_eq_true, decide_eq_true_eq] at hobject
    exact hname object hobject.2 hobject.1
  have hfirst : Resolved.first? name ((mk objects).list .policy none) =
      Resolved.first? name ((mk objects').list .policy none) := by
    rw [first?_list, first?_list, find?_eq_of_perm_filter hfilter hone]
  unfold Course.ofSearch access Resolved.ofList
  dsimp only
  rw [hfirst]

end Store

/-! ## Requests -/

section

variable {request : Request} {objects objects' : List Value}

/-- A request finds the same policy in a rearranged hub, or fails to find one alike. -/
theorem Course.ofRequest_eq_of_rearranged (hdetermined : request.Determined objects)
    (h : Rearranged (request.Concerns ⟨objects⟩) objects objects') :
    ofRequest (Store.mk objects).access request = ofRequest (Store.mk objects').access request := by
  have hname : ∀ object, ResourceType.policy.holds object = true →
      object.name = request.policy → request.Concerns ⟨objects⟩ object :=
    fun _ hpolicy hname => ⟨hpolicy, .inl hname⟩
  refine ofRequest_eq_of_answers (Store.get_eq_of_rearranged h hdetermined.nodup hname) ?_
  rcases hdetermined.clear with hone | ⟨ns, hplace, policy, hpolicy, hnamed, hns⟩
  -- Whether or not the direct fetch fails, a search has one policy to find at most.
  · exact .inr (Store.ofSearch_eq_of_rearranged h hname hone)
  -- The direct fetch succeeds, and nothing is searched.
  · obtain ⟨hmem, hholds⟩ := List.mem_filter.1 hpolicy
    have hfits : Store.answers .policy request.policy ns policy = true := by
      simp [Store.answers, hholds, hnamed, hns]
    obtain ⟨found, hfound⟩ := Option.isSome_iff_exists.1
      (List.find?_isSome.2 ⟨policy, hmem, hfits⟩)
    refine .inl ⟨ns, found, hplace, ?_⟩
    show (Store.mk objects).get .policy request.policy ns = .ok found
    unfold Store.get
    dsimp only
    rw [hfound]

/-- The copies of the policy found are the same in a rearranged hub. -/
theorem Store.get_copy_eq_of_rearranged (hdetermined : request.Determined objects)
    (h : Rearranged (request.Concerns ⟨objects⟩) objects objects') {found : Resolved}
    (hfound : (Course.ofRequest (mk objects).access request).result = .ok found)
    (cluster : String) :
    (mk objects).access.get .policy (Policy.copyName found.ns request.policy) cluster =
      (mk objects').access.get .policy (Policy.copyName found.ns request.policy) cluster :=
  get_eq_of_rearranged h hdetermined.nodup
    (fun _ hpolicy hname => ⟨hpolicy, .inr ⟨found, hfound, hname⟩⟩) cluster

end

/-- A complete diagnosis depends on what the copies of the policy are, and on nothing else. -/
theorem Diagnosis.complete_congr {access access' : Access} (settings : Settings)
    {request : Request} {found : Resolved}
    (h : ∀ cluster, access.get .policy (Policy.copyName found.ns request.policy) cluster =
      access'.get .policy (Policy.copyName found.ns request.policy) cluster) :
    (survey access settings request).complete request found =
      (survey access' settings request).complete request found := by
  unfold Survey.complete survey
  simp only [h]

/-- So does a complete inspection. -/
theorem Inspection.complete_congr {access access' : Access} (settings : Settings)
    {request : Request} {found : Resolved}
    (h : ∀ cluster, access.get .policy (Policy.copyName found.ns request.policy) cluster =
      access'.get .policy (Policy.copyName found.ns request.policy) cluster) :
    (survey access settings request).complete request found =
      (survey access' settings request).complete request found := by
  unfold Survey.complete survey
  simp only [h]

/-- Results whose reports are equal are equal. -/
theorem SameUpTo.eq {ρ : Type} {result result' : Except Failure ρ}
    (h : SameUpTo Eq result result') : result = result' := by
  cases h with
  | failed failure => rfl
  | reported h => rw [h]

/-- Neither the order of the objects of a hub nor any object of no concern is seen by the commands:
where the policy asked for is determined, runs that are not cancelled have the same results in all
rearrangements of the hub, whatever the conditions. -/
theorem arrangement_immaterial (settings : Settings) {request : Request}
    {objects objects' : List Value} (hplain : ∀ object ∈ objects, object.IsPlain)
    (hdetermined : request.Determined objects)
    (h : Rearranged (request.Concerns (.ofValues objects)) objects objects') :
    (∀ conditions conditions' : Conditions,
      (conditions.outcome fun conditions =>
        diagnose (Store.ofValues objects).access conditions settings request).2.cancelled = false →
      (conditions'.outcome fun conditions =>
        diagnose (Store.ofValues objects').access conditions settings request).2.cancelled = false →
        (conditions.outcome fun conditions =>
            diagnose (Store.ofValues objects).access conditions settings request).1 =
          (conditions'.outcome fun conditions =>
            diagnose (Store.ofValues objects').access conditions settings request).1) ∧
    (∀ conditions conditions' : Conditions,
      (conditions.outcome fun conditions =>
        inspect (Store.ofValues objects).access conditions settings request).2.cancelled = false →
      (conditions'.outcome fun conditions =>
        inspect (Store.ofValues objects').access conditions settings request).2.cancelled = false →
        (conditions.outcome fun conditions =>
            inspect (Store.ofValues objects).access conditions settings request).1 =
          (conditions'.outcome fun conditions =>
            inspect (Store.ofValues objects').access conditions settings request).1) := by
  -- Nothing is wrapped, so both hubs store the objects as they are.
  rw [Store.ofValues_of_plain hplain] at h ⊢
  rw [Store.ofValues_of_plain (h.isPlain hplain)]
  -- Both hubs lead to the same policy, and then only its copies are asked for.
  have hsearch : (Course.ofRequest (Store.mk objects).access request).result =
      (Course.ofRequest (Store.mk objects').access request).result := by
    rw [Course.ofRequest_eq_of_rearranged hdetermined h]
  simp only [diagnose_eq_run, inspect_eq_run]
  refine ⟨fun conditions conditions' hopen hopen' => ?_,
    fun conditions conditions' hopen hopen' => ?_⟩
  · exact (Survey.sameUpTo settings.window_pos hsearch (fun found hfound =>
      Diagnosis.complete_congr settings (Store.get_copy_eq_of_rearranged hdetermined h hfound))
      hopen hopen').eq
  · exact (Survey.sameUpTo settings.window_pos hsearch (fun found hfound =>
      Inspection.complete_congr settings (Store.get_copy_eq_of_rearranged hdetermined h hfound))
      hopen hopen').eq

namespace Sample

/-- An exported policy that is not compliant on `east`. -/
def root : Value :=
  exported "drift" "hub"
    [("status", .object
      [("status", .array
        [.object [("clustername", .string "east"), ("compliant", .string "NonCompliant")]])])]

/-- Its copy on `east`, with a message. -/
def rootCopy : Value :=
  exported "hub.drift" "east"
    [("status", .object
      [("details", .array
        [.object
          [("compliant", .string "NonCompliant"),
            ("history", .array [.object [("message", .string "nodes are not ready")]])]])])]

/-- A policy of another name. -/
def bystander : Value :=
  exported "quota" "hub" []

/-- An object that has the name and the namespace of the policy but is none. -/
def namesake : Value :=
  .object
    [("apiVersion", .string "v1"), ("kind", .string "ConfigMap"),
      ("metadata", .object [("name", .string "drift"), ("namespace", .string "hub")])]

/-- What a hub holds. -/
def inventory : List Value :=
  [root, rootCopy, bystander]

/-- What it holds later: in another order, without the other policy and with the namesake. -/
def laterInventory : List Value :=
  [namesake, rootCopy, root]

end Sample

/-- A policy and its copy change places, another policy leaves, and a namesake comes: the reports
stay as they were. -/
theorem arrangement_immaterial_inventory :
    (∀ object ∈ Sample.inventory, object.IsPlain) ∧
      (Request.mk "drift" none none).Determined Sample.inventory ∧
      (Course.ofRequest (Store.ofValues Sample.inventory).access ⟨"drift", none, none⟩).result =
        .ok ⟨Sample.root, "hub"⟩ ∧
      Rearranged ((Request.mk "drift" none none).Concerns (.ofValues Sample.inventory))
        Sample.inventory Sample.laterInventory ∧
      (Conditions.calm.outcome fun conditions =>
          diagnose (Store.ofValues Sample.inventory).access conditions {} ⟨"drift", none, none⟩).1 =
        (Conditions.calm.outcome fun conditions =>
          diagnose (Store.ofValues Sample.laterInventory).access conditions {}
            ⟨"drift", none, none⟩).1 ∧
      (Conditions.calm.outcome fun conditions =>
          inspect (Store.ofValues Sample.inventory).access conditions {} ⟨"drift", none, none⟩).1 =
        (Conditions.calm.outcome fun conditions =>
          inspect (Store.ofValues Sample.laterInventory).access conditions {}
            ⟨"drift", none, none⟩).1 := by
  have hplain : ∀ object ∈ Sample.inventory, object.IsPlain := by
    unfold Sample.inventory Sample.root Sample.rootCopy Sample.bystander
    simp [Sample.isPlain_exported]
  have hfound : (Course.ofRequest (Store.ofValues Sample.inventory).access
      ⟨"drift", none, none⟩).result = .ok ⟨Sample.root, "hub"⟩ := by
    rw [Store.ofValues_of_plain hplain]
    rfl
  have hdetermined : (Request.mk "drift" none none).Determined Sample.inventory :=
    ⟨by decide, .inl (by decide)⟩
  -- The policy that leaves has another name, and the namesake is no policy.
  have hbystander : ¬ (Request.mk "drift" none none).Concerns (.ofValues Sample.inventory)
      Sample.bystander := by
    rintro ⟨-, hname | ⟨found, hresult, hname⟩⟩
    · exact absurd hname (by decide)
    · rw [hfound] at hresult
      cases hresult
      exact absurd hname (by decide)
  have hnamesake : ¬ (Request.mk "drift" none none).Concerns (.ofValues Sample.inventory)
      Sample.namesake := fun h => absurd h.isPolicy (by decide)
  have hnamesakePlain : Sample.namesake.IsPlain := Value.isPlain_of_kind rfl (by decide)
  have hreverse : Sample.inventory.Perm [Sample.bystander, Sample.rootCopy, Sample.root] :=
    (List.reverse_perm _).symm
  have h : Rearranged ((Request.mk "drift" none none).Concerns (.ofValues Sample.inventory))
      Sample.inventory Sample.laterInventory :=
    ((Rearranged.perm hreverse).trans (.remove _ hbystander)).trans
      (.add _ hnamesakePlain hnamesake)
  obtain ⟨hdiagnose, hinspect⟩ := arrangement_immaterial {} hplain hdetermined h
  exact ⟨hplain, hdetermined, hfound, h, hdiagnose _ _ (diagnose_calm _ _ _)
    (diagnose_calm _ _ _), hinspect _ _ (inspect_calm _ _ _) (inspect_calm _ _ _)⟩

end ComplianceTriage
