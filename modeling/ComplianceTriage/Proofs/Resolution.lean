import Mathlib.Data.List.Find
import ComplianceTriage.Proofs.Arrangement

/-!
# Which policy is found

A policy is asked for by its name, and where several namespaces have one of the name, a wrong choice
would go unnoticed: all that follows is about another policy. In a hub of exported objects the
choice is told by the policies alone (`Request.Finds`): the first of the name in the namespace
given, or else the first of the name. The search finds this and nothing else (`finds_iff`), although
it takes the answers of two different fetches for it.

Of any hub, a request that misses its policy in the namespace given is answered as one without a
namespace. Only a failure to find the policy still says which namespace was asked for
(`Failure.askedIn`).
-/

namespace ComplianceTriage

/-- Of some policies, the first that passes a test. -/
structure Policy.IsFirst (policies : List Value) (accepts : Value → Prop) (policy : Value) :
    Prop where
  accepted : accepts policy
  foremost : ∃ front back, policies = front ++ policy :: back ∧ ∀ other ∈ front, ¬ accepts other

/-- The failure of a request that asked in a namespace, by that of one that asked in none. -/
def Failure.askedIn (ns : String) : Failure → Failure
  | .policyNotFound name _ => .policyNotFound name (some ns)
  | failure => failure

namespace Request

/-- The same request without a namespace. -/
def anywhere (request : Request) : Request :=
  { request with ns? := none }

/-- How the search for the policy of a request ends, and the session it leaves. -/
def search (request : Request) (access : Access) (conditions : Conditions) :
    Except Failure Resolved × Session :=
  conditions.outcome fun conditions => resolve access conditions request.policy request.place?

/-- What a request finds among some policies. -/
inductive Finds (request : Request) (policies : List Value) : Except Failure Resolved → Prop where
  /-- The first policy of the name in the namespace given. -/
  | inPlace {ns : String} {policy : Value} (place_eq : request.place? = some ns)
      (first : Policy.IsFirst policies (fun policy => policy.name = request.policy ∧ policy.ns = ns)
        policy) :
      Finds request policies (.ok ⟨policy, policy.ns⟩)
  /-- Where it has none of the name, or none is given, the first policy of the name. -/
  | elsewhere {policy : Value}
      (misplaced : ∀ ns, request.place? = some ns →
        ∀ policy ∈ policies, policy.name = request.policy → policy.ns ≠ ns)
      (first : Policy.IsFirst policies (fun policy => policy.name = request.policy) policy) :
      Finds request policies (.ok ⟨policy, policy.ns⟩)
  /-- Where no policy has the name, a failure that says where it was looked for. -/
  | nowhere (unnamed : ∀ policy ∈ policies, policy.name ≠ request.policy) :
      Finds request policies (.error (.policyNotFound request.policy request.place?))

end Request

/-! ## In a hub of exported objects -/

section

variable {policies : List Value}

/-- The first policy is the one that a search comes to. -/
theorem Policy.isFirst_iff {accepts : Value → Prop} [DecidablePred accepts] {policy : Value} :
    IsFirst policies accepts policy ↔
      (policies.find? fun policy => accepts policy) = some policy := by
  rw [List.find?_eq_some_iff_append, decide_eq_true_eq]
  exact ⟨fun ⟨haccepted, hforemost⟩ => ⟨haccepted, by simpa using hforemost⟩,
    fun ⟨haccepted, hforemost⟩ => ⟨haccepted, by simpa using hforemost⟩⟩

/-- A policy is found exactly if one has the name. -/
theorem Request.Finds.exists_ok_iff {request : Request} {result : Except Failure Resolved}
    (h : request.Finds policies result) :
    (∃ found, result = .ok found) ↔ ∃ policy ∈ policies, policy.name = request.policy := by
  cases h with
  | inPlace place_eq first =>
    obtain ⟨front, back, rfl, -⟩ := first.foremost
    exact ⟨fun _ => ⟨_, by simp, first.accepted.1⟩, fun _ => ⟨_, rfl⟩⟩
  | elsewhere misplaced first =>
    obtain ⟨front, back, rfl, -⟩ := first.foremost
    exact ⟨fun _ => ⟨_, by simp, first.accepted⟩, fun _ => ⟨_, rfl⟩⟩
  | nowhere unnamed =>
    -- Neither side holds.
    refine ⟨fun ⟨found, hfound⟩ => (nomatch hfound), fun ⟨policy, hpolicy, hname⟩ => ?_⟩
    exact absurd hname (unnamed policy hpolicy)

end

namespace Store

variable (store : Store) (name : String)

/-- A direct fetch comes to the first policy of the name in the namespace. -/
theorem find?_answers (ns : String) :
    store.objects.find? (answers .policy name ns) =
      (policiesOf store.objects).find? fun policy => policy.name = name ∧ policy.ns = ns := by
  rw [policiesOf, List.find?_filter]
  refine List.find?_congr fun object _ => ?_
  simp [answers, Bool.and_assoc]

/-- A search comes to the first policy of the name. -/
theorem result_ofSearch (ns? : Option String) :
    (Course.ofSearch store.access name ns?).result =
      match (policiesOf store.objects).find? fun policy => policy.name = name with
      | some policy => .ok ⟨policy, policy.ns⟩
      | none => .error (.policyNotFound name ns?) := by
  -- Listing the hub never fails.
  unfold Course.ofSearch access Resolved.ofList
  dsimp only
  rw [first?_list]
  cases (policiesOf store.objects).find? fun policy => policy.name = name <;> rfl

/-- The two fetches together come to the first policy of the name and the namespace, and then to the
first of the name. -/
theorem result_ofResolution (place? : Option String) :
    (Course.ofResolution store.access name place?).result =
      match place?.bind fun ns => (policiesOf store.objects).find? fun policy =>
        policy.name = name ∧ policy.ns = ns with
      | some policy => .ok ⟨policy, policy.ns⟩
      | none => (Course.ofSearch store.access name place?).result := by
  cases place? with
  | none => rfl
  | some ns =>
    have hget : store.access.get .policy name ns =
        match store.objects.find? (answers .policy name ns) with
        | some object => .ok object
        | none => .error (.notFound ResourceType.policy.kind name ns) := rfl
    unfold Course.ofResolution Course.ofDirectAnswer
    dsimp only [Option.bind_some]
    rw [hget, find?_answers]
    cases hfound : (policiesOf store.objects).find? fun policy =>
        policy.name = name ∧ policy.ns = ns with
    | none => rfl
    | some policy =>
      -- The policy is of the namespace in which it was looked for.
      have hns : policy.ns = ns := (Policy.isFirst_iff.2 hfound).accepted.2
      dsimp only
      rw [hns]

/-- A direct fetch comes to nothing if no policy of the name is in the namespace given. -/
theorem find?_place_eq_none_iff {request : Request} {policies : List Value} :
    (request.place?.bind fun ns => policies.find? fun policy =>
        policy.name = request.policy ∧ policy.ns = ns) = none ↔
      ∀ ns, request.place? = some ns →
        ∀ policy ∈ policies, policy.name = request.policy → policy.ns ≠ ns := by
  simp

/-- What a request is to find is what its course comes to. -/
theorem result_eq_of_finds {request : Request} {result : Except Failure Resolved}
    (h : request.Finds (policiesOf store.objects) result) :
    (Course.ofResolution store.access request.policy request.place?).result = result := by
  rw [result_ofResolution, result_ofSearch]
  cases h with
  | @inPlace ns policy place_eq first =>
    rw [place_eq, Option.bind_some, Policy.isFirst_iff.1 first]
  | @elsewhere policy misplaced first =>
    rw [find?_place_eq_none_iff.2 misplaced, Policy.isFirst_iff.1 first]
  | nowhere unnamed =>
    -- Where no policy has the name, none has it in the namespace given.
    have hmissed := find?_place_eq_none_iff.2 fun ns (_ : request.place? = some ns) policy hpolicy
      hname => absurd hname (unnamed policy hpolicy)
    have hnone : ((policiesOf store.objects).find? fun policy =>
        policy.name = request.policy) = none := by
      simpa using unnamed
    rw [hmissed, hnone]

/-- What the course of a request comes to is what it is to find. -/
theorem finds_result (request : Request) : request.Finds (policiesOf store.objects)
    (Course.ofResolution store.access request.policy request.place?).result := by
  rw [result_ofResolution, result_ofSearch]
  -- The three ways to find a policy are the three ways in which the two searches may end.
  cases hplace : request.place?.bind fun ns => (policiesOf store.objects).find? fun policy =>
      policy.name = request.policy ∧ policy.ns = ns with
  | some policy =>
    obtain ⟨ns, hns, hfound⟩ := Option.bind_eq_some_iff.1 hplace
    exact .inPlace hns (Policy.isFirst_iff.2 hfound)
  | none =>
    cases hfound : (policiesOf store.objects).find? fun policy => policy.name = request.policy with
    | some policy =>
      exact .elsewhere (find?_place_eq_none_iff.1 hplace) (Policy.isFirst_iff.2 hfound)
    | none => exact .nowhere (by simpa using hfound)

/-- What a request finds in a hub is told by its policies. -/
theorem finds_iff (request : Request) {result : Except Failure Resolved} :
    request.Finds (policiesOf store.objects) result ↔
      (Course.ofResolution store.access request.policy request.place?).result = result :=
  ⟨result_eq_of_finds store, fun h => h ▸ store.finds_result request⟩

end Store

/-! ## In any hub -/

namespace Course

variable {access : Access} {request : Request} {cause : AccessError}

/-- A direct fetch that fails leads to a search. -/
theorem result_ofResolution_of_missed {ns : String} (hplace : request.place? = some ns)
    (hmissed : access.get .policy request.policy ns = .error cause) :
    (ofResolution access request.policy request.place?).result =
      (ofSearch access request.policy (some ns)).result := by
  unfold ofResolution ofDirectAnswer
  rw [hplace]
  dsimp only
  rw [hmissed]

/-- What a search comes to depends on the namespace that was asked for in its failure alone. -/
theorem result_ofSearch_askedIn (access : Access) (name ns : String) :
    (ofSearch access name (some ns)).result =
      (ofSearch access name none).result.mapError (Failure.askedIn ns) := by
  unfold ofSearch Resolved.ofList
  dsimp only
  -- The namespace that was asked for stands only where no policy of the name is listed.
  cases access.list .policy none with
  | error cause => rfl
  | ok policies =>
    dsimp only
    cases Resolved.first? name policies <;> rfl

/-- Where neither fetch succeeds, it is the failure of the search that counts. -/
theorem result_ofResolution_of_unlisted
    (hmissed : ∀ ns, request.place? = some ns →
      ∃ missed, access.get .policy request.policy ns = .error missed)
    (hlist : access.list .policy none = .error cause) :
    (ofResolution access request.policy request.place?).result = .error (.access cause) := by
  have hfailed : ∀ ns?, (ofSearch access request.policy ns?).result = .error (.access cause) := by
    intro ns?
    unfold ofSearch
    rw [hlist]
    rfl
  -- With a namespace or without one, it comes to a search.
  cases hplace : request.place? with
  | none => exact hfailed none
  | some ns =>
    obtain ⟨missed, hget⟩ := hmissed ns hplace
    rw [← hplace, result_ofResolution_of_missed hplace hget, hfailed]

end Course

namespace Request

/-- A search that is not cancelled ends as its course does. -/
theorem search_eq {request : Request} {access : Access} {conditions : Conditions}
    (h : (request.search access conditions).2.cancelled = false) :
    (request.search access conditions).1 =
      (Course.ofResolution access request.policy request.place?).result :=
  ((Run.follows_resolve access request.policy request.place? (.start conditions)
    (Session.timely_start conditions)).completed_of_not_cancelled h).1

/-- A search whose fetches are answered is not cancelled, unless the signal fires. -/
theorem search_open (request : Request) (access : Access) {conditions : Conditions}
    (hquiet : conditions.Uncancelled)
    (hanswers : ∀ number fetch, conditions.delayOf number fetch ≠ .never) :
    (request.search access conditions).2.cancelled = false :=
  ((Run.follows_resolve access request.policy request.place? (.start conditions)
    (Session.timely_start conditions)).completed_of_answers (Session.quiet_start hquiet)
      fun fetch _ => hanswers fetch.2 fetch.1).2.2.1

end Request

/-- Which policy a request finds, where its search is not cancelled, as it is not where fetches are
answered and the signal does not fire. Among the objects of a hub it finds the first policy of its
name in the namespace given, or else the first of its name, and it fails exactly if no policy has
the name. In any hub, a request whose direct fetch fails ends as the same request without a
namespace, but for the namespace that a failure to find the policy tells; and where no direct fetch
succeeds, a failure of the search is what the request fails with. -/
theorem resolution_exact (request : Request) :
    (∀ (access : Access) (conditions : Conditions), conditions.Uncancelled →
      (∀ number fetch, conditions.delayOf number fetch ≠ .never) →
        (request.search access conditions).2.cancelled = false) ∧
    (∀ (store : Store) (conditions : Conditions),
      (request.search store.access conditions).2.cancelled = false →
        (∀ result, (request.search store.access conditions).1 = result ↔
          request.Finds (policiesOf store.objects) result) ∧
        ((∃ found, (request.search store.access conditions).1 = .ok found) ↔
          ∃ policy ∈ policiesOf store.objects, policy.name = request.policy)) ∧
    (∀ (access : Access) (conditions conditions' : Conditions) (ns : String) (cause : AccessError),
      (request.search access conditions).2.cancelled = false →
      (request.anywhere.search access conditions').2.cancelled = false →
      request.place? = some ns → access.get .policy request.policy ns = .error cause →
        (request.search access conditions).1 =
          (request.anywhere.search access conditions').1.mapError (Failure.askedIn ns)) ∧
    (∀ (access : Access) (conditions : Conditions) (cause : AccessError),
      (request.search access conditions).2.cancelled = false →
      (∀ ns, request.place? = some ns →
        ∃ missed, access.get .policy request.policy ns = .error missed) →
      access.list .policy none = .error cause →
        (request.search access conditions).1 = .error (.access cause)) := by
  -- A search that is not cancelled ends as its course, so all that is left is about courses.
  refine ⟨fun access conditions => request.search_open access, fun store conditions hopen => ?_,
    fun access conditions conditions' ns cause hopen hopen' hplace hmissed => ?_,
    fun access conditions cause hopen hmissed hlist => ?_⟩
  · rw [Request.search_eq hopen]
    have hfinds := (store.finds_iff request).2 rfl
    exact ⟨fun result => (store.finds_iff request).symm, hfinds.exists_ok_iff⟩
  · calc (request.search access conditions).1
        = (Course.ofResolution access request.policy request.place?).result :=
          Request.search_eq hopen
      _ = (Course.ofSearch access request.policy (some ns)).result :=
          Course.result_ofResolution_of_missed hplace hmissed
      _ = (Course.ofSearch access request.policy none).result.mapError (Failure.askedIn ns) :=
          Course.result_ofSearch_askedIn access request.policy ns
      _ = (request.anywhere.search access conditions').1.mapError (Failure.askedIn ns) := by
          rw [Request.search_eq hopen']
          rfl
  · rw [Request.search_eq hopen]
    exact Course.result_ofResolution_of_unlisted hmissed hlist

namespace Sample

/-- A policy in the namespace `hub`. -/
def driftInHub : Value :=
  exported "drift" "hub" []

/-- A policy of the same name in the namespace `lab`. -/
def driftInLab : Value :=
  exported "drift" "lab" []

/-- A hub with both, behind an object that is no policy. -/
def sharedHub : Store :=
  ⟨[namesake, driftInHub, driftInLab, bystander]⟩

/-- The same hub, where no direct fetch is answered. -/
def searchedHub : Access :=
  { sharedHub.access with get := fun _ _ _ => .error (.unreachable "no route") }

/-- A hub that cannot be reached. -/
def lostHub : Access :=
  ⟨fun _ _ _ => .error (.unreachable "no route"), fun _ _ => .error (.unreachable "no route")⟩

end Sample

/-- Of two policies of a name, that in the namespace given is found, or the first if it cannot be
fetched, and no policy in a hub that cannot be reached. -/
theorem resolution_exact_drift :
    let request : Request := ⟨"drift", some "lab", none⟩
    (request.search Sample.sharedHub.access .calm).2.cancelled = false ∧
      (request.search Sample.sharedHub.access .calm).1 = .ok ⟨Sample.driftInLab, "lab"⟩ ∧
    (request.search Sample.searchedHub .calm).2.cancelled = false ∧
      (request.anywhere.search Sample.searchedHub .calm).2.cancelled = false ∧
      request.place? = some "lab" ∧
      Sample.searchedHub.get .policy "drift" "lab" = .error (.unreachable "no route") ∧
      (request.search Sample.searchedHub .calm).1 =
        (request.anywhere.search Sample.searchedHub .calm).1.mapError (Failure.askedIn "lab") ∧
      (request.anywhere.search Sample.searchedHub .calm).1 = .ok ⟨Sample.driftInHub, "hub"⟩ ∧
    (request.search Sample.lostHub .calm).2.cancelled = false ∧
      (∀ ns, request.place? = some ns →
        ∃ missed, Sample.lostHub.get .policy "drift" ns = .error missed) ∧
      Sample.lostHub.list .policy none = .error (.unreachable "no route") ∧
      (request.search Sample.lostHub .calm).1 = .error (.access (.unreachable "no route")) := by
  intro request
  obtain ⟨hends, hstored, hmissed, hunlisted⟩ := resolution_exact request
  have hanswers : ∀ number fetch, Conditions.calm.delayOf number fetch ≠ .never := by
    intro number fetch hnever
    cases hnever
  have hplace : request.place? = some "lab" := by decide
  have hpolicies : policiesOf Sample.sharedHub.objects =
      [Sample.driftInHub, Sample.driftInLab, Sample.bystander] := rfl
  -- One other policy of the name comes first in the hub, but it is in another namespace.
  have hfinds : request.Finds (policiesOf Sample.sharedHub.objects)
      (.ok ⟨Sample.driftInLab, "lab"⟩) := by
    rw [hpolicies]
    exact @Request.Finds.inPlace request _ "lab" Sample.driftInLab hplace
      ⟨by decide, [Sample.driftInHub], [Sample.bystander], rfl, by decide⟩
  -- Nothing disturbs the three searches, and so none is cancelled.
  have hopen : ∀ access, (request.search access .calm).2.cancelled = false := fun access =>
    hends access .calm Conditions.uncancelled_calm hanswers
  have hopen' :=
    request.anywhere.search_open Sample.searchedHub Conditions.uncancelled_calm hanswers
  have hanywhere : (request.anywhere.search Sample.searchedHub .calm).1 =
      .ok ⟨Sample.driftInHub, "hub"⟩ := (Request.search_eq hopen').trans rfl
  exact ⟨hopen _, ((hstored _ _ (hopen _)).1 _).2 hfinds,
    hopen _, hopen', hplace, rfl, hmissed _ _ _ _ _ (hopen _) hopen' hplace rfl, hanywhere,
    hopen _, fun ns _ => ⟨_, rfl⟩, rfl, hunlisted _ _ _ (hopen _) (fun ns _ => ⟨_, rfl⟩) rfl⟩

end ComplianceTriage
