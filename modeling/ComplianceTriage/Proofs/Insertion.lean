import ComplianceTriage.Proofs.Declarations
import Mathlib.Data.List.Nodup

/-!
# Insertions

A desired state is all in what it has under its keys (`ext_get?`). Of the insertions under one key
the last one counts, and those under other keys do not see it (`get?_insertAll`). So the order of
insertions is lost where their keys differ: runs of insertions without a key in common commute
(`insertAll_comm`), and a run in which no key comes twice may be taken in any order
(`insertAll_perm`).
-/

namespace ComplianceTriage.DesiredState

/-- No two entries have the same key. -/
theorem nodup_keys (state : DesiredState) : (state.entries.map Prod.fst).Nodup := by
  refine List.pairwise_map.2 (state.ordered.imp fun {a b} hbefore hsame => ?_)
  rw [hsame] at hbefore
  exact Key.Before.irrefl b.1 hbefore

/-- Desired states that have the same under every key are the same. -/
theorem ext_get? {a b : DesiredState} (h : ∀ key, a.get? key = b.get? key) : a = b := by
  have hmem : ∀ entry, entry ∈ a.entries ↔ entry ∈ b.entries := by
    rintro ⟨key, value⟩
    rw [← get?_eq_some_iff, ← get?_eq_some_iff, h]
  have hperm : a.entries.Perm b.entries :=
    (List.perm_ext_iff_of_nodup a.nodup_keys.of_map b.nodup_keys.of_map).2 hmem
  refine ext (hperm.eq_of_pairwise ?_ a.ordered b.ordered)
  -- The keys are in order on both sides, and no two keys come before each other.
  intro entry entry' _ _ hbefore hafter
  exact absurd (hbefore.trans hafter) (Key.Before.irrefl _)

/-- A key with a value is the key of an entry. -/
theorem get?_ne_none_iff {state : DesiredState} {key : Key} :
    state.get? key ≠ none ↔ ∃ value, (key, value) ∈ state.entries := by
  rw [Option.ne_none_iff_exists']
  exact exists_congr fun value => get?_eq_some_iff

/-- The desired state after some insertions, one after the other. -/
def insertAll (state : DesiredState) (entries : List (Key × Value)) : DesiredState :=
  entries.foldl (fun state entry => state.insert entry.1 entry.2) state

/-- Insertions may be made in two runs. -/
theorem insertAll_append (state : DesiredState) (front back : List (Key × Value)) :
    state.insertAll (front ++ back) = (state.insertAll front).insertAll back :=
  List.foldl_append

/-- Under a key is what was inserted there last, or else what was there before. -/
theorem get?_insertAll (state : DesiredState) (entries : List (Key × Value)) (key : Key) :
    (state.insertAll entries).get? key = (entries.reverse.lookup key).or (state.get? key) := by
  -- The first insertion is made below all others, and so it is asked last.
  induction entries generalizing state with
  | nil => rfl
  | cons entry rest ih =>
    obtain ⟨other, value⟩ := entry
    have hstep : state.insertAll ((other, value) :: rest) =
        (state.insert other value).insertAll rest := rfl
    rw [hstep, ih, List.reverse_cons, List.lookup_append, Option.or_assoc]
    congr 1
    rw [List.lookup_cons, List.lookup_nil]
    -- The first insertion shows under its own key only.
    cases hkey : key == other with
    | true =>
      obtain rfl : key = other := beq_iff_eq.1 hkey
      exact get?_insert_self state key value
    | false => exact get?_insert_of_ne (beq_eq_false_iff_ne.1 hkey)

/-- A key that is not inserted keeps its value. -/
theorem lookup_reverse_eq_none {entries : List (Key × Value)} {key : Key}
    (h : key ∉ entries.map Prod.fst) : entries.reverse.lookup key = none := by
  rw [List.lookup_eq_none_iff]
  intro entry hentry
  rw [bne_iff_ne]
  rintro rfl
  exact h (List.mem_map_of_mem (List.mem_reverse.1 hentry))

/-- The value that a key has last is followed by no other value of the key. -/
theorem lookup_reverse_eq_some_iff {entries : List (Key × Value)} {key : Key} {value : Value} :
    entries.reverse.lookup key = some value ↔
      ∃ front back, entries = front ++ (key, value) :: back ∧ key ∉ back.map Prod.fst := by
  rw [List.lookup_eq_some_iff]
  -- Both sides split the list at the last entry of the key, the one from behind.
  constructor
  · rintro ⟨back, front, hsplit, hback⟩
    refine ⟨front.reverse, back.reverse, ?_, fun hmem => ?_⟩
    · rw [← List.reverse_reverse entries, hsplit, List.reverse_append, List.reverse_cons,
        List.append_assoc, List.singleton_append]
    · obtain ⟨entry, hentry, hkey⟩ := List.mem_map.1 hmem
      exact bne_iff_ne.1 (hback entry (List.mem_reverse.1 hentry)) hkey.symm
  · rintro ⟨front, back, rfl, hback⟩
    refine ⟨back.reverse, front.reverse, ?_, fun entry hentry => ?_⟩
    · rw [List.reverse_append, List.reverse_cons, List.append_assoc, List.singleton_append]
    · rw [bne_iff_ne]
      rintro rfl
      exact hback (List.mem_map_of_mem (List.mem_reverse.1 hentry))

/-- Insertions under different keys commute. -/
theorem insertAll_comm (state : DesiredState) {front back : List (Key × Value)}
    (h : (front.map Prod.fst).Disjoint (back.map Prod.fst)) :
    (state.insertAll front).insertAll back = (state.insertAll back).insertAll front := by
  refine ext_get? fun key => ?_
  simp only [get?_insertAll]
  -- The key is not inserted on both sides.
  by_cases hfront : key ∈ front.map Prod.fst
  · rw [lookup_reverse_eq_none (h hfront), Option.none_or, Option.none_or]
  · rw [lookup_reverse_eq_none hfront, Option.none_or, Option.none_or]

/-- Insertions under pairwise different keys may be made in any order. -/
theorem insertAll_perm (state : DesiredState) {entries entries' : List (Key × Value)}
    (h : entries.Perm entries') (hkeys : (entries.map Prod.fst).Nodup) :
    state.insertAll entries = state.insertAll entries' := by
  refine h.foldl_eq' (fun a ha b hb state => ?_) state
  -- Two different entries have different keys, and so their insertions commute.
  rcases eq_or_ne a b with rfl | hne
  · rfl
  · have hkey : a.1 ≠ b.1 := fun hsame => hne (List.inj_on_of_nodup_map hkeys ha hb hsame)
    exact @insertAll_comm state [a] [b] (by simpa using hkey.symm)

end ComplianceTriage.DesiredState
