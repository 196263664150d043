import TomAnalysis.Python.Builtins
import Mathlib.Algebra.Order.BigOperators.Group.List
import Mathlib.Algebra.Order.Field.Basic

/-! # The nearest-rank percentile and the order of the printed statistics

Both analysers print `sorted(xs)[int(len(xs) * 0.95)]` as the 95th percentile. The index stays in
range for every non-empty list, the value is a percentile in the counting sense, and it sits
between the median and the maximum. -/

namespace TomAnalysis.Statistics

open Builtin

/-! ## Sorted data -/

theorem sorted_sorted (xs : List ℚ) : (sorted xs).Sorted (· ≤ ·) :=
  List.sorted_insertionSort _ xs

theorem sorted_perm (xs : List ℚ) : (sorted xs).Perm xs :=
  List.perm_insertionSort _ xs

@[simp] theorem length_sorted (xs : List ℚ) : (sorted xs).length = xs.length :=
  (sorted_perm xs).length_eq

theorem mem_sorted {xs : List ℚ} {x : ℚ} : x ∈ sorted xs ↔ x ∈ xs :=
  (sorted_perm xs).mem_iff

/-- In sorted data a later position never holds a smaller value. -/
theorem getElem_mono {s : List ℚ} (hs : s.Sorted (· ≤ ·)) {i j : Nat} (hij : i ≤ j)
    (hj : j < s.length) : s[i] ≤ s[j] :=
  hs.rel_get_of_le (a := ⟨i, by omega⟩) (b := ⟨j, hj⟩) hij

/-- Position `k` of sorted data splits it into smaller values before and larger ones after. -/
theorem sorted_split {s : List ℚ} (hs : s.Sorted (· ≤ ·)) {k : Nat} (hk : k < s.length) :
    s = s.take k ++ s[k] :: s.drop (k + 1) ∧
      (∀ x ∈ s.take k, x ≤ s[k]) ∧ ∀ y ∈ s.drop (k + 1), s[k] ≤ y := by
  have hs' : s = s.take k ++ s[k] :: s.drop (k + 1) := by
    rw [← List.drop_eq_getElem_cons hk, List.take_append_drop]
  rw [hs'] at hs
  obtain ⟨-, hright, hcross⟩ := List.pairwise_append.1 hs
  exact ⟨hs', fun x hx => hcross x hx _ (List.mem_cons_self _ _),
    (List.pairwise_cons.1 hright).1⟩

/-- At least `k + 1` values of sorted data are at most its `k`-th value, and at least
`length - k` are at least it. -/
theorem countP_getElem {s : List ℚ} (hs : s.Sorted (· ≤ ·)) {k : Nat} (hk : k < s.length) :
    k + 1 ≤ s.countP (· ≤ s[k]) ∧ s.length - k ≤ s.countP (s[k] ≤ ·) := by
  obtain ⟨hsplit, hbefore, hafter⟩ := sorted_split hs hk
  generalize s[k] = p at hsplit hbefore hafter ⊢
  have hcount : ∀ f : ℚ → Bool, s.countP f =
      (s.take k).countP f + (if f p then 1 else 0) + (s.drop (k + 1)).countP f := by
    intro f
    conv_lhs => rw [hsplit]
    simp only [List.countP_append, List.countP_cons]
    omega
  have hge : (s.drop (k + 1)).countP (fun y => decide (p ≤ y)) = (s.drop (k + 1)).length :=
    List.countP_eq_length.2 (by simpa using hafter)
  rw [hcount, hcount, List.countP_eq_length.2 (by simpa using hbefore), hge]
  simp only [List.length_take, List.length_drop, le_refl, decide_True, ite_true]
  omega

/-! ## The percentile index -/

/-- `int(n * 0.95)` is a valid index of every non-empty list. -/
theorem p95Index_lt {n : Nat} (hn : 0 < n) : p95Index n < n := by
  unfold p95Index
  omega

/-- `int(n * 0.95)` as a floor: `20 k ≤ 19 n < 20 (k + 1)`. -/
theorem p95Index_bounds (n : Nat) :
    20 * p95Index n ≤ 19 * n ∧ 19 * n < 20 * (p95Index n + 1) := by
  unfold p95Index
  omega

theorem p95_eq {xs : List ℚ} (h : p95Index xs.length < (sorted xs).length) :
    p95 xs = .ok (sorted xs)[p95Index xs.length] := by
  simp [p95, index, List.getElem?_eq_getElem h]

/-- The percentile is a data point. -/
theorem mem_of_p95 {xs : List ℚ} {p : ℚ} (h : p95 xs = .ok p) : p ∈ xs := by
  unfold p95 index at h
  split at h
  · cases h
    exact mem_sorted.1 (List.getElem?_mem ‹_›)
  · cases h

/-! ## Median and mean -/

/-- The median is at most every sorted value from the middle position on. -/
theorem median_le_getElem {xs : List ℚ} {k : Nat} (hk : xs.length / 2 ≤ k)
    (hk' : k < (sorted xs).length) : median xs ≤ (sorted xs)[k] := by
  have hs := sorted_sorted xs
  have hn : (sorted xs).length = xs.length := length_sorted xs
  dsimp only [median]
  split_ifs with hodd
  · rw [List.getD_eq_getElem _ _ (by omega)]
    exact getElem_mono hs (by omega) hk'
  · rw [List.getD_eq_getElem _ _ (by omega), List.getD_eq_getElem _ _ (by omega)]
    have h1 := getElem_mono hs (Nat.sub_le (xs.length / 2) 1) (by omega : xs.length / 2 < _)
    have h2 := getElem_mono hs (by omega : xs.length / 2 ≤ k) hk'
    simp only [hn] at h1 h2 ⊢
    linarith

/-- Some data point is at most the median. -/
theorem exists_le_median {xs : List ℚ} (hn : 0 < xs.length) : ∃ a ∈ xs, a ≤ median xs := by
  have hs := sorted_sorted xs
  have hlen : (sorted xs).length = xs.length := length_sorted xs
  dsimp only [median]
  split_ifs with hodd
  · rw [List.getD_eq_getElem _ _ (by omega)]
    exact ⟨_, mem_sorted.1 (List.getElem_mem _), le_rfl⟩
  · rw [List.getD_eq_getElem _ _ (by omega), List.getD_eq_getElem _ _ (by omega)]
    have hlow : xs.length / 2 - 1 < (sorted xs).length := by omega
    have h := getElem_mono hs (Nat.sub_le (xs.length / 2) 1) (by omega : xs.length / 2 < _)
    simp only [hlen] at h ⊢
    exact ⟨(sorted xs)[xs.length / 2 - 1], mem_sorted.1 (List.getElem_mem _), by linarith⟩

theorem le_mean {xs : List ℚ} (hn : 0 < xs.length) {lo : ℚ} (h : ∀ x ∈ xs, lo ≤ x) :
    lo ≤ mean xs := by
  have hsum := List.card_nsmul_le_sum xs lo h
  rw [nsmul_eq_mul] at hsum
  rw [mean, le_div_iff₀ (by exact_mod_cast hn)]
  linarith

theorem mean_le {xs : List ℚ} (hn : 0 < xs.length) {hi : ℚ} (h : ∀ x ∈ xs, x ≤ hi) :
    mean xs ≤ hi := by
  have hsum := List.sum_le_card_nsmul xs hi h
  rw [nsmul_eq_mul] at hsum
  rw [mean, div_le_iff₀ (by exact_mod_cast hn)]
  linarith

/-! ## Bounded data

Data of magnitude at most `b` have a mean and a median of magnitude at most `b`, and a sample
variance of at most `8 b²`: the bounds that keep the statistics inside the double range. -/

section Bounded

variable {xs : List ℚ} {b : ℚ}

theorem abs_mean_le (hn : 0 < xs.length) (hb : ∀ x ∈ xs, |x| ≤ b) : |mean xs| ≤ b :=
  abs_le.2 ⟨le_mean hn fun x hx => (abs_le.1 (hb x hx)).1,
    mean_le hn fun x hx => (abs_le.1 (hb x hx)).2⟩

theorem abs_median_le (hn : 0 < xs.length) (hb : ∀ x ∈ xs, |x| ≤ b) : |median xs| ≤ b := by
  obtain ⟨a, ha, hamed⟩ := exists_le_median hn
  have hk : xs.length / 2 < (sorted xs).length := by rw [length_sorted]; omega
  have hhi := median_le_getElem le_rfl hk
  have hmem : (sorted xs)[xs.length / 2] ∈ xs := mem_sorted.1 (List.getElem_mem _)
  exact abs_le.2 ⟨(abs_le.1 (hb a ha)).1.trans hamed, hhi.trans (abs_le.1 (hb _ hmem)).2⟩

theorem variance_le (hn : 2 ≤ xs.length) (hb : ∀ x ∈ xs, |x| ≤ b) : variance xs ≤ 8 * b ^ 2 := by
  have hm := abs_mean_le (by omega) hb
  have hsq : ∀ d ∈ xs.map fun x => (x - mean xs) ^ 2, d ≤ 4 * b ^ 2 := by
    simp only [List.mem_map]
    rintro _ ⟨x, hx, rfl⟩
    have h := (abs_sub _ _).trans (add_le_add (hb x hx) hm)
    calc (x - mean xs) ^ 2 = |x - mean xs| ^ 2 := (sq_abs _).symm
      _ ≤ (b + b) ^ 2 := pow_le_pow_left₀ (abs_nonneg _) h 2
      _ = 4 * b ^ 2 := by ring
  have hsum := List.sum_le_card_nsmul _ _ hsq
  rw [List.length_map, nsmul_eq_mul] at hsum
  have hpos : (0 : ℚ) < (xs.length - 1 : ℕ) := by exact_mod_cast (by omega : 0 < xs.length - 1)
  have hcast : ((xs.length - 1 : ℕ) : ℚ) = xs.length - 1 := by
    rw [Nat.cast_sub (by omega), Nat.cast_one]
  have hlen : (2 : ℚ) ≤ xs.length := by exact_mod_cast hn
  rw [variance, div_le_iff₀ hpos, hcast]
  nlinarith [sq_nonneg b]

end Bounded

/-! ## `min` and `max` -/

theorem min?_le {xs : List ℚ} {lo x : ℚ} (h : xs.min? = some lo) (hx : x ∈ xs) : lo ≤ x :=
  (List.le_min?_iff (fun _ _ _ => le_min_iff) h).1 le_rfl x hx

theorem le_max? {xs : List ℚ} {hi x : ℚ} (h : xs.max? = some hi) (hx : x ∈ xs) : x ≤ hi :=
  (List.max?_le_iff (fun _ _ _ => max_le_iff) h).1 le_rfl x hx

/-! ## The percentile -/

/-- For every non-empty list, `sorted(xs)[int(len(xs) * 0.95)]` is in range; at least 95% of
the data is at most its value and at least 5% at least it; and the printed statistics are ordered
`min ≤ median ≤ p95 ≤ max` and `min ≤ mean ≤ max`. -/
theorem p95_percentile (xs : List ℚ) (hne : xs ≠ []) :
    p95Index xs.length < xs.length ∧ ∃ p, p95 xs = .ok p ∧
      95 * xs.length ≤ 100 * xs.countP (· ≤ p) ∧ 5 * xs.length ≤ 100 * xs.countP (p ≤ ·) ∧
      ∃ lo hi, xs.min? = some lo ∧ xs.max? = some hi ∧
        lo ≤ median xs ∧ median xs ≤ p ∧ p ≤ hi ∧ lo ≤ mean xs ∧ mean xs ≤ hi := by
  have hn : 0 < xs.length := List.length_pos.2 hne
  have hk := p95Index_lt hn
  have hk' : p95Index xs.length < (sorted xs).length := by simpa using hk
  obtain ⟨hle, hge⟩ := countP_getElem (sorted_sorted xs) hk'
  rw [(sorted_perm xs).countP_eq] at hle hge
  rw [length_sorted] at hge
  obtain ⟨lo, hlo⟩ : ∃ lo, xs.min? = some lo := Option.ne_none_iff_exists'.1 (by simpa using hne)
  obtain ⟨hi, hhi⟩ : ∃ hi, xs.max? = some hi := Option.ne_none_iff_exists'.1 (by simpa using hne)
  obtain ⟨a, ha, hamed⟩ := exists_le_median hn
  have hp : (sorted xs)[p95Index xs.length] ∈ xs := mem_sorted.1 (List.getElem_mem _)
  refine ⟨hk, _, p95_eq hk', ?_, ?_, lo, hi, hlo, hhi, (min?_le hlo ha).trans hamed,
    median_le_getElem (by have := p95Index_bounds xs.length; omega) hk', le_max? hhi hp,
    le_mean hn fun x hx => min?_le hlo hx, mean_le hn fun x hx => le_max? hhi hx⟩
  · have := p95Index_bounds xs.length
    omega
  · have := p95Index_bounds xs.length
    omega

/-- The spec's example `[10, 20, 30, 40, 50]`: index `floor(5 * 0.95) = 4`, value `50`. -/
theorem p95_percentile_five :
    p95 ([10, 20, 30, 40, 50] : List ℚ) = .ok 50 ∧
      95 * 5 ≤ 100 * ([10, 20, 30, 40, 50] : List ℚ).countP (· ≤ 50) := by
  obtain ⟨-, p, hp, h95, -⟩ := p95_percentile [10, 20, 30, 40, 50] (by simp)
  have h50 : p95 ([10, 20, 30, 40, 50] : List ℚ) = .ok 50 := by with_unfolding_all rfl
  obtain rfl : p = 50 := (Except.ok.inj (hp.symm.trans h50))
  exact ⟨h50, h95⟩

end TomAnalysis.Statistics
