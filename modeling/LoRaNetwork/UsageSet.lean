/-!
The usages that a prefix serves. They form a set: they are kept sorted, and a usage that is named
twice is kept once. This is why counting matches is enough to tell whether all that is required is
served.
-/

namespace LoRaNetwork

/-- Usages, each once. -/
structure UsageSet where
  toList : List String
  nodup : toList.Nodup

namespace UsageSet

/-- The list without the elements that equal the one after them. -/
def dropRepeats : List String → List String
  | [] => []
  | [usage] => [usage]
  | usage :: next :: rest =>
    if usage = next then dropRepeats (next :: rest) else usage :: dropRepeats (next :: rest)

theorem mem_dropRepeats {usage : String} {usages : List String} :
    usage ∈ dropRepeats usages ↔ usage ∈ usages := by
  fun_induction dropRepeats usages with
  | case1 => rfl
  | case2 single => rfl
  | case3 first rest ih => simp [ih]
  | case4 first next rest other ih => rw [List.mem_cons, ih, ← List.mem_cons]

/-- In a sorted list equal elements stand side by side, so dropping repeats leaves each once. -/
theorem nodup_dropRepeats {usages : List String} (sorted : usages.Pairwise (· ≤ ·)) :
    (dropRepeats usages).Nodup := by
  fun_induction dropRepeats usages with
  | case1 => exact List.nodup_nil
  | case2 single => exact List.pairwise_singleton _ single
  | case3 first rest ih => exact ih sorted.of_cons
  | case4 first next rest other ih =>
    refine List.nodup_cons.mpr ⟨fun again => ?_, ih sorted.of_cons⟩
    have below := List.rel_of_pairwise_cons sorted List.mem_cons_self
    rcases List.mem_cons.mp (mem_dropRepeats.mp again) with same | later
    · exact other same
    · have above := List.rel_of_pairwise_cons sorted.of_cons later
      exact other (String.le_antisymm below above)

/-- The usages in order. -/
def sort (usages : List String) : List String :=
  usages.mergeSort fun usage other => decide (usage ≤ other)

theorem pairwise_sort (usages : List String) : (sort usages).Pairwise (· ≤ ·) := by
  have sorted : (sort usages).Pairwise fun usage other => decide (usage ≤ other) = true := by
    apply List.pairwise_mergeSort
    · intro first second third before after
      exact decide_eq_true (String.le_trans (of_decide_eq_true before) (of_decide_eq_true after))
    · intro usage other
      simpa using String.le_total usage other
  exact sorted.imp of_decide_eq_true

/-- Sorts the usages and keeps one of each. -/
def ofList (usages : List String) : UsageSet :=
  ⟨dropRepeats (sort usages), nodup_dropRepeats (pairwise_sort usages)⟩

@[simp]
theorem mem_ofList {usage : String} {usages : List String} :
    usage ∈ (ofList usages).toList ↔ usage ∈ usages :=
  mem_dropRepeats.trans List.mem_mergeSort

/-- How many pairs of a required usage and the same served usage there are. -/
def matchCount (served : UsageSet) : List String → Nat
  | [] => 0
  | usage :: rest => served.toList.count usage + matchCount served rest

/-- Whether all required usages are served: there are as many matches as requirements. -/
def covers (served : UsageSet) (required : List String) : Bool :=
  served.matchCount required == required.length

/-- No requirement has more than one match. -/
theorem count_le_one (served : UsageSet) (usage : String) : served.toList.count usage ≤ 1 :=
  List.nodup_iff_count.mp served.nodup usage

theorem matchCount_le (served : UsageSet) (required : List String) :
    served.matchCount required ≤ required.length := by
  induction required with
  | nil => exact Nat.le_refl 0
  | cons usage rest ih =>
    have := served.count_le_one usage
    rw [matchCount, List.length_cons]
    omega

/-- As no requirement has two matches, none can make up for one that has no match. -/
theorem covers_iff (served : UsageSet) (required : List String) :
    served.covers required = true ↔ ∀ usage ∈ required, usage ∈ served.toList := by
  rw [covers, beq_iff_eq]
  induction required with
  | nil => simp [matchCount]
  | cons usage rest ih =>
    have single := served.count_le_one usage
    have others := served.matchCount_le rest
    rw [List.forall_mem_cons, ← ih, ← List.one_le_count_iff, matchCount, List.length_cons]
    omega

end UsageSet

end LoRaNetwork
