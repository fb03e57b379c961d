import ComplianceTriage.Message.Resource

/-!
# Messages that are cut

A message that is cut to a number of characters gets three dots at its end, and so it is three
characters longer than the limit. Cutting it again, to as many characters or to fewer, takes away
the dots of the first cut with what it cuts off, and leaves what one cut of the message itself
leaves (`truncate_stable`). Repeated cuts do not add up.

A message with three dots behind as many characters as the limit looks like one that was cut, and a
cut gives it back as it is. No other message that is longer than the limit is left alone.
-/

namespace ComplianceTriage.Message

section

variable {message : String} {limit : Nat}

/-- A message that is not longer than the limit is not cut. -/
theorem truncate_of_le (h : message.length ≤ limit) : truncate message limit = message :=
  if_pos (String.length_toList ▸ h)

/-- Of a longer one the first characters are left, with three dots behind them. -/
theorem truncate_of_lt (h : limit < message.length) :
    truncate message limit = String.ofList (message.toList.take limit) ++ "..." := by
  have hlong : ¬ message.toList.length ≤ limit := by
    rw [String.length_toList]
    omega
  unfold truncate
  rw [if_neg hlong, String.ofList_append, String.ofList_toList]

/-- What is cut has the length of the limit and that of the dots. -/
theorem length_truncate (h : limit < message.length) :
    (truncate message limit).length = limit + 3 := by
  have hdots : "...".length = 3 := rfl
  rw [truncate_of_lt h, String.length_append, String.length_ofList, List.length_take,
    String.length_toList, hdots]
  omega

/-- A message is given back if it is not longer than the limit, or if it is as if it had been
cut. -/
theorem truncate_eq_self_iff : truncate message limit = message ↔
    message.length ≤ limit ∨ ∃ front : String, front.length = limit ∧ message = front ++ "..." := by
  constructor
  · intro hself
    -- A longer message that is given back ends as the cut does.
    rcases Nat.lt_or_ge limit message.length with hlong | hshort
    · refine .inr ⟨String.ofList (message.toList.take limit), ?_, ?_⟩
      · rw [String.length_ofList, List.length_take, String.length_toList]
        omega
      · rw [← truncate_of_lt hlong, hself]
    · exact .inl hshort
  · rintro (hshort | ⟨front, rfl, rfl⟩)
    · exact truncate_of_le hshort
    · have hdots : "...".length = 3 := rfl
      -- The dots alone make it longer than the limit.
      have hlong : front.length < (front ++ "...").length := by
        rw [String.length_append, hdots]
        omega
      rw [truncate_of_lt hlong, String.toList_append, List.take_left' String.length_toList,
        String.ofList_toList]

/-- A second cut leaves what it would have left of the message itself. -/
theorem truncate_truncate {shorter : Nat} (h : shorter ≤ limit) (message : String) :
    truncate (truncate message limit) shorter = truncate message shorter := by
  rcases Nat.lt_or_ge limit message.length with hlong | hshort
  · have hagain : shorter < (truncate message limit).length := by
      rw [length_truncate hlong]
      omega
    -- The dots of the first cut stand behind all that the second one keeps.
    have hkept : (truncate message limit).toList.take shorter = message.toList.take shorter := by
      have hlength : shorter ≤ (message.toList.take limit).length := by
        rw [List.length_take, String.length_toList]
        omega
      rw [truncate_of_lt hlong, String.toList_append, String.toList_ofList,
        List.take_append_of_le_length hlength, List.take_take, Nat.min_eq_left h]
    rw [truncate_of_lt hagain, hkept, truncate_of_lt (Nat.lt_of_le_of_lt h hlong)]
  · rw [truncate_of_le hshort]

end

/-- Cutting a message to a limit and then to one that is no larger is cutting it once, to the second
one. A cut leaves a message as it is exactly if it is not longer than the limit, or has just so many
characters and then three dots; of a longer one it leaves so many characters, with three dots. -/
theorem truncate_stable {shorter limit : Nat} (h : shorter ≤ limit) (message : String) :
    truncate (truncate message limit) shorter = truncate message shorter ∧
      (truncate message shorter = message ↔ message.length ≤ shorter ∨
        ∃ front : String, front.length = shorter ∧ message = front ++ "...") ∧
      (shorter < message.length →
        truncate message shorter = String.ofList (message.toList.take shorter) ++ "...") :=
  ⟨truncate_truncate h message, truncate_eq_self_iff, truncate_of_lt⟩

/-- Characters of several bytes count as one, also where a cut message is cut again. -/
theorem truncate_stable_accents :
    2 ≤ 3 ∧ 2 < "éßλ…".length ∧ truncate "éßλ…" 3 = "éßλ..." ∧ truncate "éßλ..." 2 = "éß..." ∧
      truncate (truncate "éßλ…" 3) 2 = truncate "éßλ…" 2 ∧
      truncate "éßλ…" 2 = String.ofList ("éßλ…".toList.take 2) ++ "..." := by
  have hlong : 2 < "éßλ…".length := by decide
  obtain ⟨htwice, -, hcut⟩ := truncate_stable (by decide : 2 ≤ 3) "éßλ…"
  exact ⟨by decide, hlong, by decide, by decide, htwice, hcut hlong⟩

/-- A message that is longer than the limit may be given back as it is. -/
theorem truncate_dots : truncate "ab..." 2 = "ab..." ∧ ¬ "ab...".length ≤ 2 := by
  decide

end ComplianceTriage.Message
