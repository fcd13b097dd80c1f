import PromptBudget.Conversation.Basic

/-!
# PromptBudget — where the recent part starts

A conversation finds the start of its recent part by position: it lists the positions of the user
messages and takes the one with a given number from the end. `splitAtUser` makes the same cut
without positions, by walking down the list for as long as enough user messages remain.

Main results:

* `userFromEnd?_append` — the user message is looked for in the second of two joined lists, and in
  the first only if the second has too few of them.
* `userFromEnd?_eq` — the position found is the length of the first part of the cut.
* `head_splitAtUser` — the second part starts with a user message if there are enough of them.
* `countUsers_splitAtUser` — the second part then has exactly as many as asked for.
* `userFromEnd?_eq_some_iff` — what is at the position found: a user message, with as many as asked
  for from there on.
* `exists_split_of_userFromEnd?_one` — the last user message is one, and none comes after it.
-/

namespace PromptBudget.Conversation

/-- How many messages are from the user. -/
def countUsers (messages : List Message) : Nat := messages.countP (·.isUser)

@[simp] theorem countUsers_nil : countUsers [] = 0 := rfl

theorem countUsers_cons (m : Message) (rest : List Message) :
    countUsers (m :: rest) = countUsers rest + if m.isUser then 1 else 0 :=
  List.countP_cons

@[simp] theorem countUsers_append (a b : List Message) :
    countUsers (a ++ b) = countUsers a + countUsers b :=
  List.countP_append

theorem countUsers_eq_zero {messages : List Message} :
    countUsers messages = 0 ↔ ∀ m ∈ messages, m.isUser = false := by
  simp [countUsers, List.countP_eq_zero]

-- ---------------------------------------------------------------------------
-- Positions of user messages
-- ---------------------------------------------------------------------------

theorem userPositions_append (a b : List Message) :
    userPositions (a ++ b) = userPositions a ++ (userPositions b).map (· + a.length) := by
  have hshift : b.zipIdx a.length = b.zipIdx.map (Prod.map id (· + a.length)) := by
    rw [List.map_snd_add_zipIdx_eq_zipIdx, Nat.add_zero]
  unfold userPositions
  rw [List.zipIdx_append, Nat.zero_add, hshift, List.filter_append, List.map_append,
    List.filter_map, List.map_map, List.map_map]
  rfl

theorem length_userPositions (messages : List Message) :
    (userPositions messages).length = countUsers messages := by
  induction messages with
  | nil => rfl
  | cons m rest ih =>
    rw [← List.singleton_append, userPositions_append, List.length_append, List.length_map, ih,
      countUsers_append]
    cases hm : m.isUser <;> simp [userPositions, countUsers, hm]

theorem userFromEnd?_append (a b : List Message) {k : Nat} (hk : 1 ≤ k) :
    userFromEnd? (a ++ b) k =
      if k ≤ countUsers b then (userFromEnd? b k).map (· + a.length)
      else userFromEnd? a (k - countUsers b) := by
  unfold userFromEnd?
  rw [userPositions_append, List.reverse_append, ← List.map_reverse, List.getElem?_append,
    List.length_map, List.length_reverse, length_userPositions]
  by_cases h : k ≤ countUsers b
  · rw [if_pos (by omega), if_pos h, List.getElem?_map]
  · rw [if_neg (by omega), if_neg h]
    congr 1
    omega

theorem userFromEnd?_singleton (m : Message) {k : Nat} (hk : 1 ≤ k) :
    userFromEnd? [m] k = if k ≤ countUsers [m] then some 0 else none := by
  cases hm : m.isUser with
  | false => simp [userFromEnd?, userPositions, countUsers, hm, Nat.not_le.2 hk]
  | true =>
    by_cases h : k ≤ 1
    · obtain rfl : k = 1 := Nat.le_antisymm h hk
      simp [userFromEnd?, userPositions, countUsers, hm]
    · simp [userFromEnd?, userPositions, countUsers, hm, h]
      omega

-- ---------------------------------------------------------------------------
-- The same cut without positions
-- ---------------------------------------------------------------------------

/-- Some messages cut in front of the user message with number `k` from the end. With fewer user
messages everything is in the second part. -/
def splitAtUser (k : Nat) : List Message → List Message × List Message
  | [] => ([], [])
  | m :: rest =>
    if k ≤ countUsers rest then (m :: (splitAtUser k rest).1, (splitAtUser k rest).2)
    else ([], m :: rest)

theorem append_splitAtUser (k : Nat) (messages : List Message) :
    (splitAtUser k messages).1 ++ (splitAtUser k messages).2 = messages := by
  induction messages with
  | nil => rfl
  | cons m rest ih =>
    by_cases h : k ≤ countUsers rest
    · simp only [splitAtUser, if_pos h, List.cons_append, ih]
    · simp only [splitAtUser, if_neg h, List.nil_append]

theorem splitAtUser_of_few {k : Nat} {messages : List Message} (h : countUsers messages < k) :
    splitAtUser k messages = ([], messages) := by
  cases messages with
  | nil => rfl
  | cons m rest =>
    rw [countUsers_cons] at h
    rw [splitAtUser, if_neg (by omega)]

/-- The position of the user message is where the second part of the cut starts. -/
theorem userFromEnd?_eq (messages : List Message) {k : Nat} (hk : 1 ≤ k) :
    userFromEnd? messages k =
      if k ≤ countUsers messages then some (splitAtUser k messages).1.length else none := by
  induction messages with
  | nil => simp [userFromEnd?, userPositions, Nat.not_le.2 hk]
  | cons m rest ih =>
    rw [← List.singleton_append, userFromEnd?_append [m] rest hk, countUsers_append,
      List.singleton_append, splitAtUser]
    by_cases h : k ≤ countUsers rest
    · rw [if_pos h, if_pos (by omega), ih, if_pos h, if_pos h]
      rfl
    · -- the message itself is the one looked for, or there is none
      rw [if_neg h, userFromEnd?_singleton m (by omega), if_neg h]
      congr 1
      rw [eq_iff_iff]
      omega

theorem head_splitAtUser {k : Nat} (hk : 1 ≤ k) {messages : List Message}
    (h : k ≤ countUsers messages) :
    ∃ m rest, (splitAtUser k messages).2 = m :: rest ∧ m.isUser = true := by
  induction messages with
  | nil => simp only [countUsers_nil] at h; omega
  | cons m rest ih =>
    by_cases hrest : k ≤ countUsers rest
    · simpa only [splitAtUser, if_pos hrest] using ih hrest
    · refine ⟨m, rest, by simp only [splitAtUser, if_neg hrest], ?_⟩
      rw [countUsers_cons] at h
      split at h
      · assumption
      · omega

theorem countUsers_splitAtUser {k : Nat} {messages : List Message} (h : k ≤ countUsers messages) :
    countUsers (splitAtUser k messages).2 = k := by
  induction messages with
  | nil => exact (Nat.le_zero.1 h).symm
  | cons m rest ih =>
    by_cases hrest : k ≤ countUsers rest
    · simpa only [splitAtUser, if_pos hrest] using ih hrest
    · simp only [splitAtUser, if_neg hrest]
      rw [countUsers_cons] at h ⊢
      by_cases hm : m.isUser = true
      · rw [if_pos hm] at h ⊢
        omega
      · rw [if_neg hm] at h
        omega

/-- If something is cut off, there are enough user messages. -/
theorem le_countUsers_of_splitAtUser {k : Nat} {messages : List Message}
    (h : (splitAtUser k messages).1 ≠ []) :
    k ≤ countUsers messages := by
  rcases Nat.lt_or_ge (countUsers messages) k with hfew | henough
  · rw [splitAtUser_of_few hfew] at h
    exact absurd rfl h
  · exact henough

-- ---------------------------------------------------------------------------
-- What is at the position
-- ---------------------------------------------------------------------------

/-- There is a user message at a position, and so many from there on. -/
def IsUserFromEnd (messages : List Message) (k position : Nat) : Prop :=
  ∃ front m back, messages = front ++ m :: back ∧ front.length = position ∧ m.isUser = true ∧
    countUsers (m :: back) = k

theorem userFromEnd?_eq_some_iff {messages : List Message} {k position : Nat} (hk : 1 ≤ k) :
    userFromEnd? messages k = some position ↔ IsUserFromEnd messages k position := by
  constructor
  · intro h
    rw [userFromEnd?_eq messages hk] at h
    split at h
    · next henough =>
      have hlength : (splitAtUser k messages).1.length = position := Option.some.inj h
      have happend := append_splitAtUser k messages
      have hcount := countUsers_splitAtUser henough
      obtain ⟨m, back, hsplit, hm⟩ := head_splitAtUser hk henough
      rw [hsplit] at happend hcount
      exact ⟨_, m, back, happend.symm, hlength, hm, hcount⟩
    · cases h
  · rintro ⟨front, m, back, rfl, rfl, hm, hcount⟩
    -- the search ends in the second part, at its first message
    have hback : countUsers back < k := by
      rw [countUsers_cons, if_pos hm] at hcount
      omega
    rw [userFromEnd?_append front (m :: back) hk, if_pos (Nat.le_of_eq hcount.symm),
      userFromEnd?_eq (m :: back) hk, if_pos (Nat.le_of_eq hcount.symm), splitAtUser,
      if_neg (Nat.not_le.2 hback)]
    simp

/-- With more user messages to come, a position is earlier. -/
theorem IsUserFromEnd.le {messages : List Message} {k more position earlier : Nat}
    (h : IsUserFromEnd messages k position) (h' : IsUserFromEnd messages more earlier)
    (hk : k ≤ more) : earlier ≤ position := by
  obtain ⟨front, m, back, hmessages, rfl, hm, hcount⟩ := h
  obtain ⟨front', m', back', hmessages', rfl, -, hcount'⟩ := h'
  rcases Nat.lt_or_ge front.length front'.length with hlt | hge
  · -- then the messages from the later position on are among those after `m`
    have hdrop := congrArg (List.drop front'.length) (hmessages.symm.trans hmessages')
    rw [List.drop_left, List.drop_append, List.drop_eq_nil_of_le (Nat.le_of_lt hlt),
      List.nil_append] at hdrop
    obtain ⟨n, hn⟩ : ∃ n, front'.length - front.length = n + 1 :=
      ⟨front'.length - front.length - 1, by omega⟩
    rw [hn, List.drop_succ_cons] at hdrop
    have hfewer : countUsers (m' :: back') ≤ countUsers back := by
      rw [← hdrop]
      exact (List.drop_sublist n back).countP_le
    rw [countUsers_cons, if_pos hm] at hcount
    omega
  · exact hge

/-- At the position of the last user message there is a user message, and none comes after it. -/
theorem exists_split_of_userFromEnd?_one {messages : List Message} {i : Nat}
    (h : userFromEnd? messages 1 = some i) :
    ∃ front m back, messages = front ++ m :: back ∧ front.length = i ∧ m.isUser = true ∧
      ∀ x ∈ back, x.isUser = false := by
  obtain ⟨front, m, back, hmessages, hlength, hm, hone⟩ :=
    (userFromEnd?_eq_some_iff (Nat.le_refl 1)).1 h
  rw [countUsers_cons, if_pos hm] at hone
  exact ⟨front, m, back, hmessages, hlength, hm, countUsers_eq_zero.1 (by omega)⟩

end PromptBudget.Conversation
