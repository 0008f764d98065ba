import Mathlib.Data.Finset.Card
import Mathlib.Data.Nat.Find
import Manuscript.Proofs.Text.Decimal
import Manuscript.Text.Slug

/-!
# What a slugger hands out

A slugger is seen as the set of ids it has taken. The number stored with an id says from where the
search for a free variant of it goes on, and it is never too high: the variants up to that number
are all taken. So the search finds the first free variant, though it skips most of them, and it
needs no more tries than there are taken ids.

## Main definitions

* `Slugger.ids` — the taken ids
* `Slugger.Consistent` — the variants up to the stored number of each id are taken
* `firstFree` — the first of `base`, `base-1`, `base-2`, … that is not in a set

## Main results

* `settle_numbered` — the search from any point on ends at the first free variant
* `slug_spec` — a slug is the first free variant, and takes it
* `ids_reserve`, `Consistent.reserve` — reserving takes one id and no other
-/

namespace Manuscript.Text

namespace Slugger

variable {s : Slugger} {base candidate id other : String} {k n tries : ℕ}

/-! ### Numbered variants -/

theorem numbered_inj : numbered base k = numbered base n ↔ k = n := by
  constructor
  · intro h
    rw [numbered, numbered, String.append_right_inj] at h
    exact toString_nat_injective h
  · exact congrArg _

theorem numbered_ne_base : numbered base n ≠ base := by
  intro h
  have hlength := congrArg String.length h
  simp only [numbered, String.length_append] at hlength
  have hhyphen : "-".length = 1 := rfl
  omega

/-! ### The taken ids -/

/-- The ids that a slugger has taken. -/
def ids (s : Slugger) : Finset String := (s.taken.map Prod.fst).toFinset

theorem isTaken_iff : s.isTaken id = true ↔ id ∈ s.ids := by
  simp [isTaken, ids, List.lookup_isSome_iff]

theorem ids_empty : ({} : Slugger).ids = ∅ := rfl

theorem card_ids_le : s.ids.card ≤ s.taken.length := by
  simpa [ids] using List.toFinset_card_le (s.taken.map Prod.fst)

@[simp] theorem ids_setCount : (s.setCount id n).ids = insert id s.ids := by
  by_cases h : s.isTaken id
  -- a stored number is replaced in its place, which keeps the ids
  · have hfst : (Prod.fst ∘ fun entry : String × ℕ => if entry.1 = id then (id, n) else entry) =
        Prod.fst := by
      funext entry
      simp only [Function.comp_apply]
      split <;> simp_all
    have hmem : id ∈ s.ids := isTaken_iff.mp h
    simp only [setCount, h, if_true, ids, List.map_map, hfst]
    exact (Finset.insert_eq_self.mpr hmem).symm
  · simp [setCount, h, ids]

private theorem lookup_map_replace (entries : List (String × ℕ)) (id other : String) (n : ℕ) :
    (entries.map fun entry => if entry.1 = id then (id, n) else entry).lookup other =
      if other = id then (entries.lookup id).map fun _ => n else entries.lookup other := by
  induction entries with
  | nil => simp
  | cons entry rest ih =>
    by_cases hentry : entry.1 = id <;> by_cases hother : other = id <;>
      grind

theorem count_setCount :
    (s.setCount id n).count other = if other = id then n else s.count other := by
  by_cases h : s.isTaken id
  · obtain ⟨m, hm⟩ : ∃ m, s.taken.lookup id = some m := Option.isSome_iff_exists.mp h
    simp only [setCount, h, if_true, count, lookup_map_replace, hm]
    split <;> rfl
  · have hlookup : (s.setCount id n).taken.lookup other =
        if other = id then some n else s.taken.lookup other := by
      simp only [setCount, h]
      grind
    rw [count, hlookup]
    split <;> rfl

/-! ### The invariant -/

/-- The number stored with each id is backed: the variants up to it are taken. -/
def Consistent (s : Slugger) : Prop :=
  ∀ base k, 1 ≤ k → k ≤ s.count base → numbered base k ∈ s.ids

theorem consistent_empty : ({} : Slugger).Consistent := by
  intro base k hpos hle
  exact absurd hle (by simp [count]; omega)

/-- Taking a new id without a number keeps the numbers backed. -/
theorem Consistent.setCount_zero (hs : s.Consistent) : (s.setCount id 0).Consistent := by
  intro base k hpos hle
  rw [count_setCount] at hle
  rw [ids_setCount]
  split at hle
  · omega
  · exact Finset.mem_insert_of_mem (hs base k hpos hle)

end Slugger

open Slugger

/-! ### The first free variant -/

/-- Some numbered variant of an id lies outside a given set, as sets of ids are finite. -/
theorem exists_numbered_notMem (taken : Finset String) (base : String) :
    ∃ k, 1 ≤ k ∧ numbered base k ∉ taken := by
  by_contra hall
  push Not at hall
  -- one variant more than there are taken ids
  have hsubset :
      (Finset.range (taken.card + 1)).image (fun k => numbered base (k + 1)) ⊆ taken := by
    intro id hid
    obtain ⟨k, -, rfl⟩ := Finset.mem_image.mp hid
    exact hall (k + 1) (by omega)
  have hcard := Finset.card_le_card hsubset
  rw [Finset.card_image_of_injective _ fun a b h => by simpa using numbered_inj.mp h,
    Finset.card_range] at hcard
  omega

/-- The first of `base`, `base-1`, `base-2`, … that is not taken. -/
def firstFree (taken : Finset String) (base : String) : String :=
  if base ∈ taken then numbered base (Nat.find (exists_numbered_notMem taken base)) else base

theorem firstFree_of_notMem {taken : Finset String} {base : String} (h : base ∉ taken) :
    firstFree taken base = base := if_neg h

/-- The first free variant of a taken id is the one behind which no smaller number is free. -/
theorem firstFree_eq_numbered {taken : Finset String} {base : String} {n : ℕ}
    (hbase : base ∈ taken) (hn : 1 ≤ n) (hfree : numbered base n ∉ taken)
    (hbelow : ∀ k, 1 ≤ k → k < n → numbered base k ∈ taken) :
    firstFree taken base = numbered base n := by
  have hfind : Nat.find (exists_numbered_notMem taken base) = n :=
    (Nat.find_eq_iff _).mpr ⟨⟨hn, hfree⟩, fun k hk ⟨hpos, hout⟩ => hout (hbelow k hpos hk)⟩
  rw [firstFree, if_pos hbase, hfind]

theorem firstFree_notMem (taken : Finset String) (base : String) :
    firstFree taken base ∉ taken := by
  unfold firstFree
  split
  · exact (Nat.find_spec (exists_numbered_notMem taken base)).2
  · assumption

namespace Slugger

variable {s : Slugger} {base candidate id : String} {n tries : ℕ}

/-! ### The search -/

/-- The search for a free variant of `base` has come to the number `n + 1`: the variants before it
are taken, and only the count of `base` may not be backed yet. -/
structure Searching (s : Slugger) (base : String) (n : ℕ) : Prop where
  /-- The id itself is taken. -/
  base_mem : base ∈ s.ids
  /-- The stored number is that of the variant to try. -/
  count_eq : s.count base = n + 1
  /-- The variants before it are taken. -/
  tried : ∀ k, 1 ≤ k → k ≤ n → numbered base k ∈ s.ids
  /-- The numbers stored with other ids are backed. -/
  others : ∀ other, other ≠ base → ∀ k, 1 ≤ k → k ≤ s.count other → numbered other k ∈ s.ids

/-- A search begins at the variant behind the stored number. -/
theorem Consistent.searching (hs : s.Consistent) (base : String) :
    (s.setCount base (s.count base + 1)).Searching base (s.count base) where
  base_mem := by simp
  count_eq := by simp [count_setCount]
  tried k hpos hle := by simp [hs base k hpos hle]
  others other hne k hpos hle := by
    rw [count_setCount, if_neg hne] at hle
    simp [hs other k hpos hle]

/-- The search goes on behind a variant that is taken. -/
theorem Searching.next (h : s.Searching base n) (htaken : numbered base (n + 1) ∈ s.ids) :
    (s.setCount base (s.count base + 1)).Searching base (n + 1) where
  base_mem := by simp
  count_eq := by simp [count_setCount, h.count_eq]
  tried k hpos hle := by
    rw [ids_setCount]
    refine Finset.mem_insert_of_mem ?_
    rcases Nat.le_succ_iff.mp hle with hle | rfl
    · exact h.tried k hpos hle
    · exact htaken
  others other hne k hpos hle := by
    rw [count_setCount, if_neg hne] at hle
    simp [h.others other hne k hpos hle]

/-- The id and the variants tried so far are different taken ids. -/
theorem Searching.lt_card (h : s.Searching base n) : n < s.ids.card := by
  -- the variants alone would give `n ≤ s.ids.card`, the id itself is what makes it strict
  have hsubset :
      insert base ((Finset.range n).image fun k => numbered base (k + 1)) ⊆ s.ids := by
    intro id hid
    rcases Finset.mem_insert.mp hid with rfl | hid
    · exact h.base_mem
    · obtain ⟨k, hk, rfl⟩ := Finset.mem_image.mp hid
      exact h.tried (k + 1) (by omega) (Finset.mem_range.mp hk)
  have hnot : base ∉ (Finset.range n).image fun k => numbered base (k + 1) := by
    intro hmem
    obtain ⟨k, -, hk⟩ := Finset.mem_image.mp hmem
    exact numbered_ne_base hk
  have hcard := Finset.card_le_card hsubset
  rw [Finset.card_insert_of_notMem hnot,
    Finset.card_image_of_injective _ fun a b h => by simpa using numbered_inj.mp h,
    Finset.card_range] at hcard
  exact hcard

/-- Once the search has ended, the new id backs the number that was stored for it. -/
theorem Searching.consistent_setCount (h : s.Searching base n) :
    (s.setCount (numbered base (n + 1)) 0).Consistent := by
  intro other k hpos hle
  rw [count_setCount] at hle
  rw [ids_setCount]
  split at hle
  · omega
  · by_cases hother : other = base
    -- the stored number of `base` is one ahead of the tried variants, by the one taken now
    · subst hother
      rw [h.count_eq] at hle
      rcases Nat.le_succ_iff.mp hle with hle | rfl
      · exact Finset.mem_insert_of_mem (h.tried k hpos hle)
      · exact Finset.mem_insert_self _ _
    · exact Finset.mem_insert_of_mem (h.others other hother k hpos hle)

theorem settle_of_notMem (h : candidate ∉ s.ids) :
    s.settle base candidate tries = (candidate, s) := by
  cases tries with
  | zero => rfl
  | succ tries => rw [settle, if_neg (mt isTaken_iff.mp h)]

theorem settle_of_mem (h : candidate ∈ s.ids) :
    s.settle base candidate (tries + 1) =
      (s.setCount base (s.count base + 1)).settle base (numbered base (s.count base + 1)) tries := by
  rw [settle, if_pos (isTaken_iff.mpr h)]

/-- The search ends at a free variant with all variants before it taken, if there are at least as
many tries left as there may be taken variants to come. It takes no id by itself. -/
theorem settle_numbered (tries : ℕ) (h : s.Searching base n) (htries : s.ids.card ≤ n + 1 + tries) :
    ∃ m s', s.settle base (numbered base (n + 1)) tries = (numbered base (m + 1), s') ∧
      s'.ids = s.ids ∧ s'.Searching base m ∧ numbered base (m + 1) ∉ s.ids := by
  induction tries generalizing s n with
  | zero =>
    -- with no try left, one more taken variant would exceed the number of taken ids
    refine ⟨n, s, rfl, rfl, h, fun htaken => ?_⟩
    have hlt := (h.next htaken).lt_card
    rw [ids_setCount, Finset.insert_eq_self.mpr h.base_mem] at hlt
    omega
  | succ tries ih =>
    by_cases htaken : numbered base (n + 1) ∈ s.ids
    · have hids : (s.setCount base (s.count base + 1)).ids = s.ids := by
        rw [ids_setCount, Finset.insert_eq_self.mpr h.base_mem]
      obtain ⟨m, s', hsettle, hids', hsearch, hfree⟩ :=
        ih (h.next htaken) (by rw [hids]; omega)
      refine ⟨m, s', ?_, hids'.trans hids, hsearch, hids ▸ hfree⟩
      rw [settle_of_mem htaken, h.count_eq]
      rw [h.count_eq] at hsettle
      exact hsettle
    · exact ⟨n, s, settle_of_notMem htaken, rfl, h, htaken⟩

/-! ### The operations -/

/-- A slug is the first free variant of the slug of its text, which it takes. -/
theorem slug_spec (hs : s.Consistent) (text : String) :
    ∃ s', s.slug text = (firstFree s.ids (slugify text), s') ∧
      s'.ids = insert (firstFree s.ids (slugify text)) s.ids ∧ s'.Consistent := by
  by_cases hbase : slugify text ∈ s.ids
  -- the first try is spent on the base, and the search begins with those that are left
  · obtain ⟨tries, htries⟩ : ∃ tries, s.taken.length = tries + 1 :=
      Nat.exists_eq_succ_of_ne_zero fun hzero => by
        have := card_ids_le (s := s)
        rw [hzero, Nat.le_zero, Finset.card_eq_zero] at this
        simp [this] at hbase
    have hids : (s.setCount (slugify text) (s.count (slugify text) + 1)).ids = s.ids := by
      rw [ids_setCount, Finset.insert_eq_self.mpr hbase]
    obtain ⟨m, s', hsettle, hids', hsearch, hfree⟩ :=
      settle_numbered tries (hs.searching (slugify text))
        (by have := card_ids_le (s := s); rw [hids]; omega)
    rw [hids] at hids' hfree
    have hfirst : firstFree s.ids (slugify text) = numbered (slugify text) (m + 1) :=
      firstFree_eq_numbered hbase (by omega) hfree fun k hpos hlt =>
        hids' ▸ hsearch.tried k hpos (by omega)
    refine ⟨s'.setCount (numbered (slugify text) (m + 1)) 0, ?_, ?_, hsearch.consistent_setCount⟩
    · rw [slug, htries, settle_of_mem hbase, hsettle, hfirst]
    · rw [ids_setCount, hids', hfirst]
  · rw [firstFree_of_notMem hbase]
    refine ⟨s.setCount (slugify text) 0, ?_, ids_setCount, hs.setCount_zero⟩
    rw [slug, settle_of_notMem hbase]

@[simp] theorem ids_reserve : (s.reserve id).ids = insert id s.ids := by
  unfold reserve
  split
  · exact (Finset.insert_eq_self.mpr (isTaken_iff.mp ‹_›)).symm
  · exact ids_setCount

theorem Consistent.reserve (hs : s.Consistent) (id : String) : (s.reserve id).Consistent := by
  unfold Slugger.reserve
  split
  · exact hs
  · exact hs.setCount_zero

end Slugger

end Manuscript.Text
