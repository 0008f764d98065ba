import Manuscript.Proofs.Slug.Slugger

/-!
# How long a slugger searches

As long as its candidate is taken, a slugger tries the next number behind the base. It reads the ids
that it stores itself, and goes on from a number that may have been stored long before, so it is not
plain to see that it comes to an end. But each turn is made on account of another taken id: the
first on account of the base, each further one on account of the variant that the turn before it
came to. That variant was ahead of the stored number until then, and it never is again. So there are
no more turns than taken ids, whatever was reserved and handed out before.

## Main definitions

* `Slugger.turn?` — one turn of the search
* `Slugger.Turns` — the turns from one candidate to another, with their number
* `Slugger.waiting` — how many taken ids the search may still come upon

## Main results

* `waiting_turn` — each turn leaves one of these ids behind
* `Turns.add_waiting` — a run of turns leaves as many behind as it has turns
* `exists_turns_settle` — a limited number of tries is a run of turns
* `search_ends` — the search for a slug ends, after no more turns than there are taken ids
-/

namespace Manuscript.Text

namespace Slugger

variable {s : Slugger} {base candidate id : String} {first next last : String × Slugger} {k n : ℕ}

/-! ### Turns -/

/-- One turn of the search for a free variant of `base`. A free candidate ends the search. Behind a
taken one, the number stored with `base` goes up by one and makes the next candidate. -/
def turn? (base : String) : String × Slugger → Option (String × Slugger)
  | (candidate, s) =>
    if s.isTaken candidate then
      let n := s.count base + 1
      some (numbered base n, s.setCount base n)
    else none

/-- The search for a free variant of `base` gets from one candidate to another in `k` turns. -/
inductive Turns (base : String) : ℕ → String × Slugger → String × Slugger → Prop
  /-- No turn is made. -/
  | refl (state : String × Slugger) : Turns base 0 state state
  /-- One turn is made, and others after it. -/
  | head {k : ℕ} {first next last : String × Slugger} (turn : turn? base first = some next)
      (rest : Turns base k next last) : Turns base (k + 1) first last

theorem turn?_eq_none_iff : turn? base (candidate, s) = none ↔ candidate ∉ s.ids := by
  rw [← isTaken_iff, turn?, ite_eq_right_iff]
  exact ⟨fun h htaken => Option.some_ne_none _ (h htaken), fun h htaken => absurd htaken h⟩

theorem turn?_eq_some_iff :
    turn? base (candidate, s) = some next ↔ candidate ∈ s.ids ∧
      (numbered base (s.count base + 1), s.setCount base (s.count base + 1)) = next := by
  rw [← isTaken_iff, turn?, Option.ite_none_right_eq_some, Option.some_inj]

/-- A limited number of tries is a run of turns, which the limit cuts off if it does not come to a
free candidate before. -/
theorem exists_turns_settle (s : Slugger) (base candidate : String) (tries : ℕ) :
    ∃ k ≤ tries, Turns base k (candidate, s) (s.settle base candidate tries) ∧
      (k = tries ∨ turn? base (s.settle base candidate tries) = none) := by
  induction tries generalizing s candidate with
  | zero => exact ⟨0, le_rfl, .refl _, .inl rfl⟩
  | succ tries ih =>
    by_cases htaken : candidate ∈ s.ids
    · obtain ⟨k, hk, hrun, hend⟩ :=
        ih (s.setCount base (s.count base + 1)) (numbered base (s.count base + 1))
      rw [settle_of_mem htaken]
      refine ⟨k + 1, Nat.succ_le_succ hk, .head ?_ hrun, hend.imp_left (congrArg _)⟩
      exact turn?_eq_some_iff.mpr ⟨htaken, rfl⟩
    · rw [settle_of_notMem htaken]
      exact ⟨0, Nat.zero_le _, .refl _, .inr (turn?_eq_none_iff.mpr htaken)⟩

/-! ### Variants ahead -/

open Classical in
/-- The taken variants of `base` with a number above the one that is stored with it. -/
noncomputable def ahead (s : Slugger) (base : String) : Finset String :=
  s.ids.filter fun id => ∃ n, s.count base < n ∧ id = numbered base n

theorem mem_ahead :
    id ∈ s.ahead base ↔ id ∈ s.ids ∧ ∃ n, s.count base < n ∧ id = numbered base n := by
  simp only [ahead, Finset.mem_filter]

theorem numbered_mem_ahead :
    numbered base n ∈ s.ahead base ↔ numbered base n ∈ s.ids ∧ s.count base < n := by
  simp [mem_ahead, numbered_inj]

theorem ahead_subset_ids : s.ahead base ⊆ s.ids := fun _ h => (mem_ahead.mp h).1

theorem exists_eq_numbered (h : id ∈ s.ahead base) : ∃ n, id = numbered base n := by
  obtain ⟨-, n, -, hn⟩ := mem_ahead.mp h
  exact ⟨n, hn⟩

theorem base_notMem_ahead : base ∉ s.ahead base := by
  intro h
  obtain ⟨n, hn⟩ := exists_eq_numbered h
  exact numbered_ne_base hn.symm

/-- When the stored number goes up by one, one variant is no longer ahead of it. -/
theorem ahead_setCount :
    (s.setCount base (s.count base + 1)).ahead base =
      (s.ahead base).erase (numbered base (s.count base + 1)) := by
  ext id
  rw [Finset.mem_erase]
  by_cases hvariant : ∃ n, id = numbered base n
  · obtain ⟨n, rfl⟩ := hvariant
    simp only [numbered_mem_ahead, ids_setCount, Finset.mem_insert, numbered_ne_base, false_or,
      count_setCount, if_true, ne_eq, numbered_inj]
    constructor
    · rintro ⟨htaken, hlt⟩
      exact ⟨by omega, htaken, by omega⟩
    · rintro ⟨hne, htaken, hlt⟩
      exact ⟨htaken, by omega⟩
  -- an id that is no variant is ahead of no number
  · have hnot (t : Slugger) : id ∉ t.ahead base := mt exists_eq_numbered hvariant
    exact ⟨fun h => absurd h (hnot _), fun h => absurd h.2 (hnot _)⟩

/-! ### Ids to come upon -/

/-- How many taken ids the search for a free variant of `base` may still come upon: the candidate,
if it is taken, and the variants ahead. -/
noncomputable def waiting (base : String) (state : String × Slugger) : ℕ :=
  (if state.1 ∈ state.2.ids then 1 else 0) + (state.2.ahead base).card

/-- Each turn leaves one of the taken ids behind that the search may come upon. -/
theorem waiting_turn (h : turn? base first = some next) :
    waiting base next + 1 = waiting base first := by
  obtain ⟨candidate, s⟩ := first
  obtain ⟨htaken, rfl⟩ := turn?_eq_some_iff.mp h
  -- the next candidate is taken if and only if it was ahead before the turn
  have hnext : numbered base (s.count base + 1) ∈ (s.setCount base (s.count base + 1)).ids ↔
      numbered base (s.count base + 1) ∈ s.ahead base := by
    simp [numbered_mem_ahead, numbered_ne_base]
  simp only [waiting, ahead_setCount, hnext, htaken, if_true]
  split
  · rename_i hahead
    rw [Nat.add_assoc, Finset.card_erase_add_one hahead]
  · rename_i hfree
    rw [Finset.erase_eq_of_notMem hfree, Nat.zero_add, Nat.add_comm]

/-- A run of turns leaves as many of these ids behind as it has turns. -/
theorem Turns.add_waiting (h : Turns base k first last) :
    k + waiting base last = waiting base first := by
  induction h with
  | refl => exact Nat.zero_add _
  | head turn rest ih => rw [Nat.add_right_comm, ih, waiting_turn turn]

/-- The base and the variants ahead are different taken ids. -/
theorem waiting_le_card_ids (s : Slugger) (base : String) :
    waiting base (base, s) ≤ s.ids.card := by
  unfold waiting
  split
  · rename_i hbase
    rw [Nat.add_comm, ← Finset.card_insert_of_notMem base_notMem_ahead]
    exact Finset.card_le_card (Finset.insert_subset hbase ahead_subset_ids)
  · rw [Nat.zero_add]
    exact Finset.card_le_card ahead_subset_ids

/-- There are no more turns than taken ids. -/
theorem Turns.le_card_ids (h : Turns base k (base, s) last) : k ≤ s.ids.card :=
  calc k ≤ k + waiting base last := Nat.le_add_right _ _
    _ = waiting base (base, s) := h.add_waiting
    _ ≤ s.ids.card := waiting_le_card_ids s base

/-- No turn is left after as many tries as there are entries. -/
theorem turn?_settle (s : Slugger) (base : String) :
    turn? base (s.settle base base s.taken.length) = none := by
  obtain ⟨k, -, hrun, rfl | hend⟩ := exists_turns_settle s base base s.taken.length
  -- all tries are used up, and with them the ids to come upon
  · have hwaiting : waiting base (s.settle base base s.taken.length) = 0 := by
      have hadd := hrun.add_waiting
      have hle := waiting_le_card_ids s base
      have hentries := card_ids_le (s := s)
      omega
    refine turn?_eq_none_iff.mpr fun htaken => ?_
    rw [waiting, if_pos htaken] at hwaiting
    omega
  · exact hend

end Slugger

open Slugger

/-- The search for a slug ends, whatever the slugger has reserved and handed out before. It makes no
more turns than there are taken ids, and it comes to a candidate that is free, which is the slug and
is taken from then on. -/
theorem search_ends (s : Slugger) (text : String) :
    (∀ k last, Turns (slugify text) k (slugify text, s) last → k ≤ s.ids.card) ∧
      ∃ k id s', Turns (slugify text) k (slugify text, s) (id, s') ∧ s'.isTaken id = false ∧
        s.slug text = (id, s'.setCount id 0) := by
  refine ⟨fun k last hrun => hrun.le_card_ids, ?_⟩
  obtain ⟨k, -, hrun, -⟩ := exists_turns_settle s (slugify text) (slugify text) s.taken.length
  have hfree := turn?_eq_none_iff.mp (turn?_settle s (slugify text))
  exact ⟨k, _, _, hrun, Bool.eq_false_iff.mpr (mt isTaken_iff.mp hfree), rfl⟩

/-- A slugger for a document that has two ids of its own. -/
def introReserved : Slugger := (({} : Slugger).reserve "intro").reserve "intro-1"

/-- Two reserved ids make for two turns. -/
theorem search_ends_introReserved :
    ∃ last, Turns (slugify "Intro") 2 (slugify "Intro", introReserved) last ∧
      2 ≤ introReserved.ids.card ∧ introReserved.ids.card = 2 := by
  have hturns : ∃ last, Turns (slugify "Intro") 2 (slugify "Intro", introReserved) last := by
    refine ⟨_, .head (turn?_eq_some_iff.mpr ⟨isTaken_iff.mp ?_, rfl⟩)
      (.head (turn?_eq_some_iff.mpr ⟨isTaken_iff.mp ?_, rfl⟩) (.refl _))⟩ <;>
    decide +kernel
  obtain ⟨last, hturns⟩ := hturns
  exact ⟨last, hturns, (search_ends introReserved "Intro").1 2 last hturns, by decide +kernel⟩

end Manuscript.Text
