import FieldMask.Unicode.Folding
import FieldMask.Unicode.Lowercase
import FieldMask.Unicode.Uppercase

/-!
# `FieldMask.Proofs.Unicode.CaseTable`: what a case table does to a code point

A case table moves each of its ranges by one distance, so what is said of all code points is checked
range by range: `CaseRange.misses` compares the ends of two ranges.

Two tables are compared run by run: a range that misses the hull of a run misses all of it
(`CaseTable.misses_of_runs`), so few pairs of ranges are left to compare.

The case tables are settled: none of them moves a code point to one that it moves as well
(`CaseTable.Settled`). So to map a code point twice is to map it once (`CaseTable.Settled.map_map`).
-/

set_option autoImplicit false

namespace FieldMask.Unicode

variable {c : Nat}

namespace CaseRange

variable {r q : CaseRange}

/-- What the range moves lands outside of the other range: before it, after it or, where that one
holds every other code point, between those. The check looks at the ends of the ranges only. -/
def misses (r q : CaseRange) : Bool :=
  (moved r.last r.offset).blt q.first || q.last.blt (moved r.first r.offset) ||
    (q.stride == 2 && (r.stride == 2 || r.first == r.last) &&
      (moved r.first r.offset + q.first) % 2 == 1)

/-- A range that is missed does not hold what is moved. The offset can be negative, so it is
required that it leads to no number below zero, where the move would stop. -/
theorem not_contains_of_misses (h : r.misses q = true) (hpos : 0 ≤ (r.first : Int) + r.offset)
    (hc : r.contains c = true) : q.contains (moved c r.offset) = false := by
  simp only [contains, Bool.and_eq_true, decide_eq_true_eq, beq_iff_eq] at hc
  simp only [misses, Bool.or_eq_true, Bool.and_eq_true, beq_iff_eq, Nat.blt_eq, moved] at h
  rw [← Bool.not_eq_true, contains, moved]
  simp only [Bool.and_eq_true, decide_eq_true_eq, beq_iff_eq]
  rintro ⟨⟨hfirst, hlast⟩, hstride⟩
  obtain ⟨⟨hcfirst, hclast⟩, hcstride⟩ := hc
  have hmoved : 0 ≤ (c : Int) + r.offset := Int.le_trans hpos (by omega)
  -- In the last case both ranges have every other code point, and an odd distance lies between
  -- them.
  rcases h with (hbefore | hafter) | ⟨⟨htwo, halternates⟩, hodd⟩
  · omega
  · omega
  · rw [htwo] at hstride
    rcases halternates with halternates | hsingle
    · rw [halternates] at hcstride
      omega
    · omega

/-- What misses a range without gaps misses every range within it. So it is enough to compare with a
hull. -/
theorem misses_of_within {hull : CaseRange} (h : r.misses hull = true) (hstride : hull.stride = 1)
    (hfirst : hull.first ≤ q.first) (hlast : q.last ≤ hull.last) : r.misses q = true := by
  simp only [misses, hstride, Bool.or_eq_true, Bool.and_eq_true, beq_iff_eq, Nat.blt_eq,
    Nat.reduceEqDiff, false_and, or_false] at h ⊢
  omega

/-- The range of one code point, which it moves nowhere. -/
def single (c : Nat) : CaseRange := ⟨c, c, 1, 0⟩

/-- Nothing is moved to a code point that is missed. -/
theorem ne_moved_of_misses {d : Nat} (h : r.misses (single d) = true)
    (hpos : 0 ≤ (r.first : Int) + r.offset) (hc : r.contains c = true) : d ≠ moved c r.offset := by
  rintro rfl
  have hnot := not_contains_of_misses h hpos hc
  simp [single, contains] at hnot

end CaseRange

namespace CaseTable

variable {table : CaseTable}

/-- A code point that the table moves lies in one of its ranges, and is moved by the distance of
this range. The induction follows the search through the table, which stops early behind the code
point. -/
theorem exists_of_map_ne (h : table.map c ≠ c) :
    ∃ r ∈ table, r.contains c = true ∧ table.map c = moved c r.offset := by
  fun_induction CaseTable.map table c with
  | case1 => exact absurd rfl h
  | case2 => exact absurd rfl h
  | case3 r rest c _ hcontains => exact ⟨r, List.mem_cons_self, hcontains, rfl⟩
  | case4 r rest c _ _ ih =>
      obtain ⟨q, hq, hmoved⟩ := ih h
      exact ⟨q, List.mem_cons_of_mem r hq, hmoved⟩

/-- A code point that no range holds stays where it is. -/
theorem map_eq_self (h : ∀ r ∈ table, r.contains c = false) : table.map c = c := by
  by_cases hmap : table.map c = c
  · exact hmap
  · obtain ⟨r, hr, hcontains, -⟩ := exists_of_map_ne hmap
    exact absurd hcontains (by simp [h r hr])

/-- The table moves no code point to one that it moves as well. The first field keeps the moves
above zero, so that distances add up; the second one compares every range with every other. -/
structure Settled (table : CaseTable) : Prop where
  nonneg : ∀ r ∈ table, 0 ≤ (r.first : Int) + r.offset
  misses : ∀ r ∈ table, table.all r.misses = true

/-- What a settled table moves it moves no further. So to map a code point twice is to map it once.
-/
theorem Settled.map_map (ht : table.Settled) (c : Nat) : table.map (table.map c) = table.map c := by
  by_cases h : table.map c = c
  · rw [h, h]
  · obtain ⟨r, hr, hcontains, hmoved⟩ := exists_of_map_ne h
    rw [hmoved]
    refine map_eq_self fun q hq => ?_
    exact CaseRange.not_contains_of_misses (List.all_eq_true.mp (ht.misses r hr) q hq)
      (ht.nonneg r hr) hcontains

/-- A code point that is moved is a source of what it is moved to: the distance back leads to it. So
the sources leave no code point out. -/
theorem Settled.mem_sources (ht : table.Settled) (h : table.map c ≠ c) :
    c ∈ table.sources (table.map c) := by
  obtain ⟨r, hr, hcontains, hmoved⟩ := exists_of_map_ne h
  have hback : moved (table.map c) (-r.offset) = c := by
    have hpos := ht.nonneg r hr
    simp only [CaseRange.contains, Bool.and_eq_true, decide_eq_true_eq] at hcontains
    rw [hmoved]
    unfold moved
    omega
  refine List.mem_filterMap.mpr ⟨r, hr, ?_⟩
  simp only [hback, hcontains, if_true]

/-! ### Comparing two tables -/

/-- The range from the first code point of the table to its last one, without gaps. The empty table
has a hull that is not used. -/
def hull : CaseTable → CaseRange
  | [] => .single 0
  | [r] => ⟨r.first, r.last, 1, 0⟩
  | r :: rest => ⟨min r.first (hull rest).first, max r.last (hull rest).last, 1, 0⟩

/-- A hull has no gaps, whatever the ranges are that it covers. -/
theorem hull_stride (table : CaseTable) : (hull table).stride = 1 := by
  fun_cases hull table <;> rfl

/-- Every range of a table lies within its hull. The induction follows the definition of the hull,
where a table of one range is a case of its own. -/
theorem within_hull {r : CaseRange} (h : r ∈ table) :
    (hull table).first ≤ r.first ∧ r.last ≤ (hull table).last := by
  fun_induction hull table with
  | case1 => cases h
  | case2 q =>
      obtain rfl := List.mem_singleton.mp h
      exact ⟨Nat.le_refl _, Nat.le_refl _⟩
  | case3 q rest _ ih =>
      rcases List.mem_cons.mp h with rfl | h
      · exact ⟨Nat.min_le_left _ _, Nat.le_max_left _ _⟩
      · obtain ⟨hfirst, hlast⟩ := ih h
        exact ⟨Nat.le_trans (Nat.min_le_right _ _) hfirst,
          Nat.le_trans hlast (Nat.le_max_right _ _)⟩

/-- The table as `count` runs of `n` ranges and one run of what is left. Nothing is left out,
whatever the two numbers are; they only decide how fast a comparison is. -/
def runs (n : Nat) : Nat → CaseTable → List CaseTable
  | 0, table => [table]
  | count + 1, table => table.take n :: runs n count (table.drop n)

/-- The runs, one after the other, are the table. -/
theorem flatten_runs (n count : Nat) (table : CaseTable) :
    (runs n count table).flatten = table := by
  induction count generalizing table with
  | zero => exact List.append_nil table
  | succ count ih => rw [runs, List.flatten_cons, ih, List.take_append_drop]

/-- Each range of the table misses the run: the hull of it or, where the two meet, each range. Most
pairs of ranges are far apart, so the second question is seldom asked. -/
def leaves (table run : CaseTable) : Bool :=
  table.all fun r => r.misses (hull run) || run.all r.misses

/-- Two tables are compared run by run: most ranges miss the hull of a run and with it the run. The
hypothesis is one computation, and the conclusion is about every pair of ranges. -/
theorem misses_of_runs {targets : CaseTable} (n count : Nat)
    (h : (runs n count targets).all (leaves table) = true) :
    ∀ r ∈ table, targets.all r.misses = true := by
  refine fun r hr => List.all_eq_true.mpr fun q hq => ?_
  rw [← flatten_runs n count targets] at hq
  obtain ⟨run, hrun, hq⟩ := List.mem_flatten.mp hq
  have hleaves := List.all_eq_true.mp (List.all_eq_true.mp h run hrun) r hr
  rcases Bool.or_eq_true_iff.mp hleaves with hhull | heach
  · obtain ⟨hfirst, hlast⟩ := within_hull hq
    exact CaseRange.misses_of_within hhull (hull_stride run) hfirst hlast
  · exact List.all_eq_true.mp heach q hq

end CaseTable

/-! ### The tables -/

/-- The three case tables are settled. Each one is compared with itself in runs of sixteen ranges.
-/
theorem settled_tables :
    foldingTable.Settled ∧ lowercaseTable.Settled ∧ uppercaseTable.Settled := by
  refine ⟨⟨?_, CaseTable.misses_of_runs 16 16 ?_⟩, ⟨?_, CaseTable.misses_of_runs 16 16 ?_⟩,
    ⟨?_, CaseTable.misses_of_runs 16 16 ?_⟩⟩ <;> decide +kernel

/-- The table behind case folding is settled. -/
theorem settled_foldingTable : foldingTable.Settled := settled_tables.1

/-- The table behind the lower case is settled. -/
theorem settled_lowercaseTable : lowercaseTable.Settled := settled_tables.2.1

/-- The table behind the upper case is settled. -/
theorem settled_uppercaseTable : uppercaseTable.Settled := settled_tables.2.2

end FieldMask.Unicode
