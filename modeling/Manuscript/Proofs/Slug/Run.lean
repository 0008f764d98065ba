import Manuscript.Proofs.Slug.Slugger
import Mathlib.Data.List.ReduceOption

/-!
# Runs of a slugger

A slugger is used for a whole document: some ids are reserved and some slugs are asked for, in any
order. What it answers is what one would expect who only knows the set of ids that are reserved or
handed out: a slug is its own base if that is free, and otherwise the base with the least number
that makes it free. So no slug is handed out twice, and none that was reserved before.

## Main definitions

* `Slugger.Call`, `Slugger.answers` — the calls on a slugger, and what a run of them answers
* `Reference.answers` — the same for a set of ids

## Main results

* `answers_eq_reference` — a consistent slugger answers like the set of its ids
* `notMem_reference`, `nodup_reference` — answers avoid the taken ids and each other
* `answers_new` — the answers of a new slugger
-/

namespace Manuscript.Text

namespace Slugger

/-- A call on a slugger. -/
inductive Call where
  /-- Asks for a slug of a text. -/
  | slug (text : String)
  /-- Reserves an id. -/
  | reserve (id : String)
  deriving DecidableEq, Repr

/-- What a slugger answers to a call, and the slugger after it. Reserving answers nothing. -/
def call (s : Slugger) : Call → Option String × Slugger
  | .slug text => let (id, s) := s.slug text; (some id, s)
  | .reserve id => (none, s.reserve id)

/-- What a slugger answers to calls, one after the other. -/
def answers (s : Slugger) : List Call → List (Option String)
  | [] => []
  | c :: rest => (s.call c).1 :: (s.call c).2.answers rest

end Slugger

namespace Reference

open Slugger (Call)

/-- What a set of taken ids answers to a call, and the set after it. -/
def call (taken : Finset String) : Call → Option String × Finset String
  | .slug text =>
    let id := firstFree taken (slugify text)
    (some id, insert id taken)
  | .reserve id => (none, insert id taken)

/-- What a set of taken ids answers to calls, one after the other. -/
def answers (taken : Finset String) : List Call → List (Option String)
  | [] => []
  | c :: rest => (call taken c).1 :: answers (call taken c).2 rest

end Reference

open Slugger (Call)

variable {taken : Finset String} {c : Call} {calls : List Call} {id : String}

/-! ### A slugger as a set of ids -/

/-- One call: the answer is that of the set of ids, the new ids are the new set, and the slugger
stays consistent. -/
theorem Slugger.Consistent.call {s : Slugger} (hs : s.Consistent) (c : Call) :
    (s.call c).1 = (Reference.call s.ids c).1 ∧
      (s.call c).2.ids = (Reference.call s.ids c).2 ∧ (s.call c).2.Consistent := by
  cases c with
  | slug text =>
    obtain ⟨s', hslug, hids, hs'⟩ := slug_spec hs text
    simp only [Slugger.call, hslug]
    exact ⟨rfl, hids, hs'⟩
  | reserve id => exact ⟨rfl, ids_reserve, hs.reserve id⟩

/-- A run of calls: a consistent slugger answers like the set of its ids. -/
theorem answers_eq_reference {s : Slugger} (hs : s.Consistent) (calls : List Call) :
    s.answers calls = Reference.answers s.ids calls := by
  induction calls generalizing s with
  | nil => rfl
  | cons c rest ih =>
    obtain ⟨hanswer, hids, hs'⟩ := hs.call c
    rw [Slugger.answers, Reference.answers, hanswer, ih hs', hids]

/-! ### Answers avoid the taken ids -/

/-- An id that is answered was not taken, and is taken afterwards. -/
theorem Reference.mem_call (h : (call taken c).1 = some id) :
    id ∉ taken ∧ id ∈ (call taken c).2 := by
  cases c with
  | slug text =>
    obtain rfl := Option.some.inj h
    exact ⟨firstFree_notMem _ _, Finset.mem_insert_self _ _⟩
  | reserve id => exact absurd h (by simp [call])

/-- Taken ids stay taken. -/
theorem Reference.subset_call : taken ⊆ (call taken c).2 := by
  cases c <;> exact Finset.subset_insert _ _

/-- No answer is an id that was taken before. -/
theorem notMem_reference (h : some id ∈ Reference.answers taken calls) : id ∉ taken := by
  induction calls generalizing taken with
  | nil => cases h
  | cons c rest ih =>
    rcases List.mem_cons.mp h with hhead | htail
    · exact (Reference.mem_call hhead.symm).1
    -- a later answer avoids the larger set after the call
    · exact fun hmem => ih htail (Reference.subset_call hmem)

/-- No id is answered twice. -/
theorem nodup_reference (taken : Finset String) (calls : List Call) :
    (Reference.answers taken calls).reduceOption.Nodup := by
  induction calls generalizing taken with
  | nil => exact List.nodup_nil
  | cons c rest ih =>
    rw [Reference.answers]
    cases hanswer : (Reference.call taken c).1 with
    | none => simpa only [List.reduceOption_cons_of_none] using ih _
    | some id =>
      rw [List.reduceOption_cons_of_some, List.nodup_cons]
      refine ⟨fun hmem => ?_, ih _⟩
      -- the id is taken once it is answered, and later answers avoid taken ids
      rw [List.reduceOption_mem_iff] at hmem
      exact notMem_reference hmem (Reference.mem_call hanswer).2

/-- The set of taken ids after calls. -/
def Reference.takenAfter (taken : Finset String) (calls : List Call) : Finset String :=
  calls.foldl (fun taken c => (call taken c).2) taken

/-- The answers behind the first `n` are those of the set of ids that are taken by then. -/
theorem Reference.drop_answers (n : ℕ) :
    (answers taken calls).drop n = answers (takenAfter taken (calls.take n)) (calls.drop n) := by
  induction calls generalizing taken n with
  | nil => cases n <;> rfl
  | cons c rest ih =>
    cases n with
    | zero => rfl
    | succ n => exact ih n

/-- An id that was reserved is taken afterwards. -/
theorem Reference.mem_takenAfter (h : id ∈ taken ∨ Call.reserve id ∈ calls) :
    id ∈ takenAfter taken calls := by
  induction calls generalizing taken with
  | nil => simpa [takenAfter] using h
  | cons c rest ih =>
    refine ih ?_
    rcases h with h | h
    · exact Or.inl (subset_call h)
    · rcases List.mem_cons.mp h with rfl | h
      · exact Or.inl (Finset.mem_insert_self _ _)
      · exact Or.inr h

/-- No answer is an id that was reserved before it. -/
theorem Reference.notMem_drop {n : ℕ} (h : Call.reserve id ∈ calls.take n) :
    some id ∉ (answers taken calls).drop n := by
  rw [drop_answers]
  exact fun hmem => notMem_reference hmem (mem_takenAfter (Or.inr h))

/-! ### A new slugger -/

/-- A new slugger answers calls like the set of the ids that were reserved and answered so far. Its
answers differ from each other, and from the ids reserved before them. -/
theorem answers_new (calls : List Call) :
    ({} : Slugger).answers calls = Reference.answers ∅ calls ∧
      (({} : Slugger).answers calls).reduceOption.Nodup ∧
      ∀ n id, Call.reserve id ∈ calls.take n → some id ∉ (({} : Slugger).answers calls).drop n := by
  have hanswers := answers_eq_reference Slugger.consistent_empty calls
  rw [Slugger.ids_empty] at hanswers
  rw [hanswers]
  exact ⟨rfl, nodup_reference ∅ calls, fun n id h => Reference.notMem_drop h⟩

end Manuscript.Text
