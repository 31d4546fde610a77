import NatsRequeue.Queue.Key

/-!
# Scanning a queue: key ranges and `PrefixOf`

The replay side reads a queue back by iterating the store from `FirstMessage(q).Bytes()` to
`LastMessage(q).Bytes()`, narrowed to the keys that start with `PrefixOf(seek, until)`.  Three
things have to hold for that scan to be the queue, in order, and all of it:

* **Order.**  The keys of one queue share the prefix `_q._m.<q>.`, so they compare as their
  identifiers do, and `key.Min`/`key.Max` bound every identifier of `key.Size` bytes
  (`messageKey_order`).
* **Isolation.**  A key of another queue never falls inside the range — as long as neither queue
  name holds a `.` (`queueRange_disjoint`).  Nothing in the code rejects a dotted name, and
  `a.b` is inside the range of `a` (`queueRange_overlap`).
* **Narrowing loses nothing.**  `PrefixOf` is the longest common prefix of its arguments
  (`prefixOf_spec`), and a common prefix of `seek` and `until` is a prefix of every key between
  them (`IsPrefix.of_le_of_le`), so the narrowed iteration still visits all of `[seek, until]`
  (`prefixOf_covers`).  On a queue's own bounds it narrows as far as it can: to `_q._m.<q>.`
  (`prefixOf_queueRange`).

`PrefixOf` is modelled as the loop it is: an index `i` running up to `min (len seek) (len until)`,
a `break` at the first difference, and an accumulator that `append`s one byte per iteration.  Its
invariant is that the accumulator is the first `i` bytes of both arguments (`prefixOfLoop_eq`).
-/

set_option autoImplicit false

namespace NatsRequeue

/-! ## The keys of one queue -/

theorem messageKey_lt_iff (Q k₁ k₂ : List Byte) :
    (newQueueKeyForMessage Q k₁).bytes < (newQueueKeyForMessage Q k₂).bytes ↔ k₁ < k₂ := by
  simp only [newQueueKeyForMessage_bytes]
  exact append_lt_append_left_iff _ _ _

theorem messageKey_le_iff (Q k₁ k₂ : List Byte) :
    (newQueueKeyForMessage Q k₁).bytes ≤ (newQueueKeyForMessage Q k₂).bytes ↔ k₁ ≤ k₂ := by
  rw [← not_lt, ← not_lt, messageKey_lt_iff]

theorem min_le_of_length {k : List Byte} (hk : k.length = Key.size) : Key.min ≤ k := by
  rw [Key.min, ← hk]
  exact replicate_zero_le k

theorem le_max_of_length {k : List Byte} (hk : k.length = Key.size) : k ≤ Key.max := by
  rw [Key.max, ← hk]
  exact le_replicate_max k

/-- **Message keys of one queue sort by their identifiers, inside `[FirstMessage, LastMessage]`**,
strictly inside unless the identifier is one of the two sentinels. -/
theorem messageKey_order (Q k₁ k₂ k : List Byte) (hk : k.length = Key.size) :
    ((newQueueKeyForMessage Q k₁).bytes < (newQueueKeyForMessage Q k₂).bytes ↔ k₁ < k₂) ∧
    (firstMessage Q).bytes ≤ (newQueueKeyForMessage Q k).bytes ∧
    (newQueueKeyForMessage Q k).bytes ≤ (lastMessage Q).bytes ∧
    (k ≠ Key.min → k ≠ Key.max →
      (firstMessage Q).bytes < (newQueueKeyForMessage Q k).bytes ∧
      (newQueueKeyForMessage Q k).bytes < (lastMessage Q).bytes) := by
  have hlo : (firstMessage Q).bytes ≤ (newQueueKeyForMessage Q k).bytes :=
    (messageKey_le_iff Q _ _).2 (min_le_of_length hk)
  have hhi : (newQueueKeyForMessage Q k).bytes ≤ (lastMessage Q).bytes :=
    (messageKey_le_iff Q _ _).2 (le_max_of_length hk)
  refine ⟨messageKey_lt_iff Q k₁ k₂, hlo, hhi, fun hmin hmax => ⟨?_, ?_⟩⟩
  · exact lt_of_le_of_ne hlo fun h => hmin (messageKey_bytes_inj (by simp [hk]) h).2.symm
  · exact lt_of_le_of_ne hhi fun h => hmax (messageKey_bytes_inj (by simp [hk]) h).2

theorem messageKey_order_middle :
    (List.replicate 20 (7 : Byte)).length = Key.size ∧
    (List.replicate 20 (7 : Byte) ≠ Key.min ∧ List.replicate 20 (7 : Byte) ≠ Key.max) ∧
    (((newQueueKeyForMessage (str "default") Key.min).bytes <
        (newQueueKeyForMessage (str "default") (List.replicate 20 7)).bytes ↔
          Key.min < List.replicate 20 7) ∧
      (firstMessage (str "default")).bytes ≤
        (newQueueKeyForMessage (str "default") (List.replicate 20 7)).bytes ∧
      (newQueueKeyForMessage (str "default") (List.replicate 20 7)).bytes ≤
        (lastMessage (str "default")).bytes ∧
      (firstMessage (str "default")).bytes <
        (newQueueKeyForMessage (str "default") (List.replicate 20 7)).bytes ∧
      (newQueueKeyForMessage (str "default") (List.replicate 20 7)).bytes <
        (lastMessage (str "default")).bytes) :=
  have h := messageKey_order (str "default") Key.min (List.replicate 20 7) (List.replicate 20 7) rfl
  have hm : List.replicate 20 (7 : Byte) ≠ Key.min ∧ List.replicate 20 (7 : Byte) ≠ Key.max :=
    ⟨by decide, by decide⟩
  ⟨rfl, hm, h.1, h.2.1, h.2.2.1, h.2.2.2 hm.1 hm.2⟩

/-! ## Two queues -/

/-- Every key in the range of `Q` starts with `_q._m.<Q>.`. -/
theorem isPrefix_of_mem_range {Q x : List Byte} (hlo : (firstMessage Q).bytes ≤ x)
    (hhi : x ≤ (lastMessage Q).bytes) : str "_q._m." ++ Q ++ str "." <+: x := by
  simp only [firstMessage, lastMessage, newQueueKeyForMessage_bytes] at hlo hhi
  exact IsPrefix.of_le_of_le (List.prefix_append _ _) (List.prefix_append _ _) hlo hhi

/-- Two names without `.`: if `Q.` starts `Q'.…`, the names are equal. -/
theorem eq_of_sep_isPrefix {Q Q' t : List Byte} (hQ : 46 ∉ Q) (hQ' : 46 ∉ Q')
    (h : Q ++ [46] <+: Q' ++ 46 :: t) : Q = Q' := by
  induction Q generalizing Q' with
  | nil =>
    cases Q' with
    | nil => rfl
    | cons c Q' => exact absurd ((List.cons_prefix_cons.1 h).1 ▸ List.mem_cons_self _ _) hQ'
  | cons c Q ih =>
    cases Q' with
    | nil => exact absurd ((List.cons_prefix_cons.1 h).1 ▸ List.mem_cons_self _ _) hQ
    | cons c' Q' =>
      obtain ⟨rfl, htail⟩ := List.cons_prefix_cons.1 h
      rw [ih (fun h' => hQ (List.mem_cons_of_mem _ h')) (fun h' => hQ' (List.mem_cons_of_mem _ h'))
        htail]

/-- **Queue ranges are disjoint** for queue names without a `.`. -/
theorem queueRange_disjoint {Q Q' : List Byte} (k : List Byte) (hQ : 46 ∉ Q) (hQ' : 46 ∉ Q')
    (hne : Q ≠ Q') :
    ¬((firstMessage Q).bytes ≤ (newQueueKeyForMessage Q' k).bytes ∧
      (newQueueKeyForMessage Q' k).bytes ≤ (lastMessage Q).bytes) := by
  rintro ⟨hlo, hhi⟩
  have h := isPrefix_of_mem_range hlo hhi
  simp only [newQueueKeyForMessage_bytes, List.append_assoc, List.prefix_append_right_inj] at h
  exact hne (eq_of_sep_isPrefix hQ hQ' h)

theorem queueRange_disjoint_high_low :
    (46 ∉ str "high" ∧ 46 ∉ str "low" ∧ str "high" ≠ str "low") ∧
    ¬((firstMessage (str "high")).bytes ≤ (newQueueKeyForMessage (str "low") Key.min).bytes ∧
      (newQueueKeyForMessage (str "low") Key.min).bytes ≤ (lastMessage (str "high")).bytes) :=
  ⟨by decide, queueRange_disjoint Key.min (by decide) (by decide) (by decide)⟩

/-- The queue `a.b` lies inside the range of the queue `a`. -/
theorem queueRange_overlap :
    str "a" ≠ str "a.b" ∧ Key.min.length = Key.size ∧
    (firstMessage (str "a")).bytes ≤ (newQueueKeyForMessage (str "a.b") Key.min).bytes ∧
    (newQueueKeyForMessage (str "a.b") Key.min).bytes ≤ (lastMessage (str "a")).bytes := by
  decide

/-! ## `PrefixOf` -/

/-- The loop of `PrefixOf` at index `i`, `fuel = length - i` iterations from its end, with the
bytes appended so far. -/
def prefixOfLoop (seek «until» : List Byte) : Nat → Nat → List Byte → List Byte
  | 0, _, acc => acc
  | fuel + 1, i, acc =>
    if seek.getD i 0 ≠ «until».getD i 0 then acc
    else prefixOfLoop seek «until» fuel (i + 1) (acc ++ [seek.getD i 0])

/-- `PrefixOf`: the common leading bytes of two keys. -/
def prefixOf (seek «until» : List Byte) : List Byte :=
  let length := if «until».length < seek.length then «until».length else seek.length
  prefixOfLoop seek «until» length 0 []

section PrefixOf

variable (seek «until» : List Byte)

/-- **The loop invariant of `PrefixOf`.**  Started at index `i` with the first `i` bytes of both
keys accumulated, the loop stops at some `j ≤ i + fuel` with the first `j` bytes of both, and it
stops early only at a difference. -/
theorem prefixOfLoop_eq (fuel i : Nat) (hs : i + fuel ≤ seek.length)
    (hu : i + fuel ≤ «until».length) (hi : seek.take i = «until».take i) :
    ∃ j, i ≤ j ∧ j ≤ i + fuel ∧ prefixOfLoop seek «until» fuel i (seek.take i) = seek.take j ∧
      seek.take j = «until».take j ∧ (j = i + fuel ∨ seek.getD j 0 ≠ «until».getD j 0) := by
  induction fuel generalizing i with
  | zero => exact ⟨i, le_rfl, le_rfl, rfl, hi, .inl rfl⟩
  | succ fuel ih =>
    by_cases hne : seek.getD i 0 ≠ «until».getD i 0
    · refine ⟨i, le_rfl, by omega, ?_, hi, .inr hne⟩
      rw [prefixOfLoop, if_pos hne]
    · have hsi : i < seek.length := by omega
      have hui : i < «until».length := by omega
      have hat : seek[i] = «until»[i] := by rwa [not_not, getD_of_lt hsi, getD_of_lt hui] at hne
      have hnext : seek.take (i + 1) = «until».take (i + 1) := by
        rw [← List.take_concat_get' _ _ hsi, ← List.take_concat_get' _ _ hui, hi, hat]
      obtain ⟨j, h₁, h₂, h₃, h₄, h₅⟩ := ih (i + 1) (by omega) (by omega) hnext
      refine ⟨j, by omega, by omega, ?_, h₄, h₅.imp_left fun h => by omega⟩
      rw [prefixOfLoop, if_neg hne, getD_of_lt hsi, List.take_concat_get', h₃]

/-- `PrefixOf` is the first `j` bytes of both keys, for a `j` at which they differ unless it is
the shorter length. -/
theorem prefixOf_eq_take :
    ∃ j, j ≤ min seek.length «until».length ∧ prefixOf seek «until» = seek.take j ∧
      seek.take j = «until».take j ∧
      (j = min seek.length «until».length ∨ seek.getD j 0 ≠ «until».getD j 0) := by
  have hlen : (if «until».length < seek.length then «until».length else seek.length)
      = min seek.length «until».length := by split <;> omega
  obtain ⟨j, -, h₂, h₃, h₄, h₅⟩ := prefixOfLoop_eq seek «until» (min seek.length «until».length) 0
    (by omega) (by omega) rfl
  exact ⟨j, by omega, by simpa [prefixOf, hlen] using h₃, h₄, by simpa using h₅⟩

/-- `PrefixOf` is a prefix of both keys. -/
theorem prefixOf_common : prefixOf seek «until» <+: seek ∧ prefixOf seek «until» <+: «until» := by
  obtain ⟨j, -, heq, htake, -⟩ := prefixOf_eq_take seek «until»
  exact ⟨heq ▸ List.take_prefix _ _, heq ▸ htake ▸ List.take_prefix _ _⟩

/-- **`PrefixOf` computes the longest common prefix.** -/
theorem prefixOf_spec :
    prefixOf seek «until» <+: seek ∧ prefixOf seek «until» <+: «until» ∧
    ((prefixOf seek «until»).length = min seek.length «until».length ∨
      ((prefixOf seek «until»).length < min seek.length «until».length ∧
        seek[(prefixOf seek «until»).length]? ≠ «until»[(prefixOf seek «until»).length]?)) := by
  obtain ⟨j, hj, heq, -, hdiff⟩ := prefixOf_eq_take seek «until»
  have hlen : (prefixOf seek «until»).length = j := by rw [heq, List.length_take]; omega
  refine ⟨(prefixOf_common seek «until»).1, (prefixOf_common seek «until»).2, ?_⟩
  rw [hlen]
  rcases hdiff with rfl | hne
  · exact .inl rfl
  · by_cases hmin : j = min seek.length «until».length
    · exact .inl hmin
    · refine .inr ⟨by omega, fun h => hne ?_⟩
      simp only [List.getD_eq_getElem?_getD, h]

/-- **Narrowing a scan to `PrefixOf(seek, until)` keeps every key between `seek` and `until`.** -/
theorem prefixOf_covers (x : List Byte) (hlo : seek ≤ x) (hhi : x ≤ «until») :
    prefixOf seek «until» <+: x :=
  IsPrefix.of_le_of_le (prefixOf_common seek «until»).1 (prefixOf_common seek «until»).2 hlo hhi

end PrefixOf

theorem prefixOf_covers_range :
    ((firstMessage (str "high")).bytes ≤ (newQueueKeyForMessage (str "high") (List.replicate 20 7)).bytes ∧
      (newQueueKeyForMessage (str "high") (List.replicate 20 7)).bytes ≤ (lastMessage (str "high")).bytes) ∧
    prefixOf (firstMessage (str "high")).bytes (lastMessage (str "high")).bytes <+:
      (newQueueKeyForMessage (str "high") (List.replicate 20 7)).bytes :=
  ⟨by decide, prefixOf_covers _ _ _ (by decide) (by decide)⟩

/-- Two keys that agree up to an identifier, `Min` in one and `Max` in the other, have that much
in common and no more. -/
theorem prefixOf_append_min_max (P : List Byte) : prefixOf (P ++ Key.min) (P ++ Key.max) = P := by
  obtain ⟨j, -, heq, htake, hend⟩ := prefixOf_eq_take (P ++ Key.min) (P ++ Key.max)
  have hne : (P ++ Key.min).getD P.length 0 ≠ (P ++ Key.max).getD P.length 0 := by
    rw [List.getD_append_right _ _ _ _ le_rfl, List.getD_append_right _ _ _ _ le_rfl, Nat.sub_self]
    decide
  have hjP : j = P.length := by
    apply le_antisymm
    · by_contra hlt
      have h := congrArg (fun l => l.getD P.length 0) htake
      simp only [List.getD_eq_getElem?_getD, List.getElem?_take, if_pos (by omega : P.length < j)]
        at h
      exact hne (by simpa only [List.getD_eq_getElem?_getD] using h)
    · rcases hend with h | h
      · rw [List.length_append, List.length_append, Key.length_min, Key.length_max, min_self] at h
        omega
      · by_contra hlt
        exact h (by rw [List.getD_append _ _ _ _ (by omega), List.getD_append _ _ _ _ (by omega)])
  rw [heq, hjP, List.take_left]

/-- **A queue's scan prefix is the queue's own**: for every queue name `Q`,
`PrefixOf(FirstMessage(Q).Bytes(), LastMessage(Q).Bytes())` is `_q._m.<Q>.`, all of what every
message key of `Q` starts with: the bounds agree up to the identifier, whose first byte is `0`
in one and `255` in the other. -/
theorem prefixOf_queueRange (Q : List Byte) :
    prefixOf (firstMessage Q).bytes (lastMessage Q).bytes = str "_q._m." ++ Q ++ str "." := by
  simp only [firstMessage, lastMessage, newQueueKeyForMessage_bytes]
  exact prefixOf_append_min_max _

end NatsRequeue
