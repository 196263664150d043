import TomAnalysis.Statistics.Correctness
import TomAnalysis.Python.Output

/-! # The builtins on numbers

Numbers of magnitude at most `10^150`, far inside the double range, pass every conversion to
`float` the scripts make: `format` with a fixed-point spec prints such a number, true division
and addition return the exact result, and the `statistics` functions return the exact
statistic. On any numbers `min` and `max` return an item whose value is the least or the
greatest of the data. -/

namespace TomAnalysis

namespace Value

/-! ## Moderate numbers -/

/-- `v` is not a number, or a number of magnitude at most `10^150`. -/
def moderate (v : Value) : Bool :=
  v.num?.all fun x => |x| ≤ ((10 ^ 150 : ℕ) : ℚ)

/-- Every value the record holds directly under a key is moderate. -/
def moderateFields : Value → Bool
  | .dict kvs => kvs.all fun kv => kv.2.moderate
  | _ => true

theorem abs_le_of_moderate {v : Value} (hv : v.moderate) {x : ℚ} (hx : v.num? = some x) :
    |x| ≤ 10 ^ 150 := by
  simp only [moderate, hx, Option.all_some, decide_eq_true_eq] at hv
  exact_mod_cast hv

/-- `10^150` leaves room below the double range for a hundredfold and for a variance. -/
theorem hundred_moderate_lt : (100 : ℚ) * 10 ^ 150 < floatLimit := by
  norm_num [floatLimit]

theorem variance_moderate_lt : (8 : ℚ) * (10 ^ 150) ^ 2 < floatLimit ^ 2 := by
  norm_num [floatLimit]

theorem abs_lt_of_le_moderate {x : ℚ} (hx : |x| ≤ 10 ^ 150) : |x| < floatLimit :=
  hx.trans_lt (by norm_num [floatLimit])

theorem moderate_lookup {kvs : List (String × Value)} (h : (dict kvs).moderateFields)
    (key : String) : ∀ v ∈ kvs.lookup key, v.moderate := by
  induction kvs with
  | nil => simp
  | cons kv kvs ih =>
    obtain ⟨k, v⟩ := kv
    simp only [moderateFields, List.all_cons, Bool.and_eq_true] at h
    rw [List.lookup_cons]
    split
    · exact fun w hw => Option.mem_some_iff.1 hw ▸ h.1
    · exact ih h.2

theorem moderate_getD {kvs : List (String × Value)} (h : (dict kvs).moderateFields) (key : String)
    {d : Value} (hd : d.moderate) : ((kvs.lookup key).getD d).moderate := by
  cases hk : kvs.lookup key with
  | none => exact hd
  | some v => exact moderate_lookup h key v hk

@[simp] theorem moderate_int_zero : (int 0).moderate := by
  simp [moderate]

@[simp] theorem moderate_str (s : String) : (str s).moderate := rfl

@[simp] theorem moderate_null : null.moderate := rfl

/-! ## Conversions inside the double range -/

theorem toFloat_of_lt {x : ℚ} (h : |x| < floatLimit) (message : String) :
    toFloat message x = .ok x := by
  simp [toFloat, h]

theorem asFloat_of_lt {v : Value} {x : ℚ} (h : |x| < floatLimit) : v.asFloat x = .ok x := by
  unfold asFloat
  split
  · rfl
  · exact toFloat_of_lt h _

@[simp] theorem asFloat_float (x y : ℚ) : (float x).asFloat y = .ok y := rfl

theorem format_fixed {v : Value} {x : ℚ} (h : v.num? = some x) (hx : |x| < floatLimit)
    (s : String) : v.format (.fixed s) = .ok (.fixed s x) := by
  simp [format, h, asFloat_of_lt hx]

theorem format_fixed_of_moderate {v : Value} (hv : v.moderate) {x : ℚ} (h : v.num? = some x)
    (s : String) : v.format (.fixed s) = .ok (.fixed s x) :=
  format_fixed h (abs_lt_of_le_moderate (abs_le_of_moderate hv h)) s

@[simp] theorem format_fixed_float (x : ℚ) (s : String) :
    (float x).format (.fixed s) = .ok (.fixed s x) := rfl

/-- A width-only spec accepts every value but `None`, lists and dictionaries. -/
def formatsWidth : Value → Bool
  | .null | .list _ | .dict _ => false
  | _ => true

/-- A fixed-point spec accepts a float, and a number inside the double range. -/
def formatsFixed (v : Value) : Bool :=
  match v.num? with
  | some x => v.isFloat || decide (|x| < floatLimit)
  | Option.none => false

/-- A fixed-point spec accepts exactly the values `formatsFixed` names. -/
@[simp] theorem format_fixed_ok_iff {v : Value} {s : String} :
    (∃ p, v.format (.fixed s) = .ok p) ↔ v.formatsFixed := by
  cases h : v.num? with
  | some x =>
    by_cases hf : v.isFloat <;> by_cases hl : |x| < floatLimit <;>
      simp [format, h, formatsFixed, asFloat, toFloat, hf, hl]
  | none => cases v <;> simp_all [format, num?, formatsFixed]

@[simp] theorem formatsFixed_int_zero : (int 0).formatsFixed := by
  norm_num [formatsFixed, floatLimit, isFloat]

theorem formatsFixed_of_num {v : Value} {x : ℚ} (h : v.num? = some x) (hx : |x| ≤ 10 ^ 150) :
    v.formatsFixed := by
  simp [formatsFixed, h, abs_lt_of_le_moderate hx]

/-- On moderate values a fixed-point spec accepts exactly the numbers. -/
theorem formatsFixed_of_moderate {v : Value} (hv : v.moderate) : v.formatsFixed = v.num?.isSome := by
  cases h : v.num? with
  | some x => simp [formatsFixed, h, abs_lt_of_le_moderate (abs_le_of_moderate hv h)]
  | none => simp [formatsFixed, h]

/-- A width-only spec accepts exactly the values `formatsWidth` names. -/
@[simp] theorem format_width_ok_iff {v : Value} {s : String} :
    (∃ p, v.format (.width s) = .ok p) ↔ v.formatsWidth := by
  cases v <;> simp [format, formatsWidth]

/-- A non-zero number that is not a float is an integer, at least `1` in magnitude. -/
theorem one_le_abs_of_not_isFloat {b : Value} {y : ℚ} (hb : b.num? = some y)
    (hf : b.isFloat = false) (hy : y ≠ 0) : 1 ≤ |y| := by
  cases b with
  | bool t => cases t <;> simp only [num?, Option.some.injEq] at hb <;> subst hb <;> norm_num at hy ⊢
  | int i =>
    obtain rfl : (i : ℚ) = y := Option.some.inj hb
    exact_mod_cast Int.one_le_abs (by exact_mod_cast hy)
  | float => cases hf
  | _ => cases hb

/-- True division returns the exact quotient when the operands are inside the double range: a
quotient of two integers is no larger than its dividend. -/
theorem trueDiv_of_lt {a b : Value} {x y : ℚ} (ha : a.num? = some x) (hb : b.num? = some y)
    (hy : y ≠ 0) (hx : |x| < floatLimit) (hyl : |y| < floatLimit) :
    a.trueDiv b = .ok (.float (x / y)) := by
  unfold trueDiv
  simp only [ha, hb]
  split
  · simp [asFloat_of_lt hx, asFloat_of_lt hyl, hy]
  · rename_i hf
    have hbf : b.isFloat = false := by simp_all
    have hq : |x / y| < floatLimit := by
      rw [abs_div]
      exact (div_le_self (abs_nonneg x) (one_le_abs_of_not_isFloat hb hbf hy)).trans_lt hx
    simp [hy, toFloat_of_lt hq]

/-- Dividing a moderate number by a non-zero integer inside the double range. -/
theorem trueDiv_int_of_moderate {a : Value} (ha : a.moderate) {x : ℚ} (hx : a.num? = some x)
    {n : Int} (hn : n ≠ 0) (hnl : |(n : ℚ)| < floatLimit) :
    a.trueDiv (.int n) = .ok (.float (x / n)) :=
  trueDiv_of_lt hx rfl (Int.cast_ne_zero.2 hn) (abs_lt_of_le_moderate (abs_le_of_moderate ha hx)) hnl

/-- A value a fixed-point spec accepts divides by a non-zero integer inside the double range. -/
theorem trueDiv_int_of_formatsFixed {v : Value} (h : v.formatsFixed) {n : Int} (hn : n ≠ 0)
    (hnl : |(n : ℚ)| < floatLimit) : ∃ y, v.trueDiv (.int n) = .ok (.float y) := by
  have hn' : (n : ℚ) ≠ 0 := by exact_mod_cast hn
  cases hx : v.num? with
  | none => simp [formatsFixed, hx] at h
  | some x =>
    cases hf : v.isFloat
    · exact ⟨_, trueDiv_of_lt hx rfl hn' (by simpa [formatsFixed, hx, hf] using h) hnl⟩
    · have hnf : (int n).asFloat n = .ok n := asFloat_of_lt hnl
      exact ⟨x / n, by simp only [asFloat] at hnf; simp [trueDiv, hx, hf, asFloat, hnf, hn']⟩

theorem num?_of_int? {v : Value} {i : Int} (h : v.int? = some i) : v.num? = some (i : ℚ) := by
  cases v with
  | bool b => cases b <;> simp only [int?, Option.some.injEq] at h <;> subst h <;> simp [num?]
  | int j => simp only [int?, Option.some.injEq] at h; subst h; rfl
  | _ => cases h

/-- Adding two numbers inside the double range gives their exact sum. -/
theorem add_num {a b : Value} {x y : ℚ} (ha : a.num? = some x) (hb : b.num? = some y)
    (hx : |x| < floatLimit) (hy : |y| < floatLimit) :
    ∃ w, a.add b = .ok w ∧ w.num? = some (x + y) := by
  cases hi : a.int? <;> cases hj : b.int?
  case some.some i j =>
    obtain rfl := Option.some.inj ((num?_of_int? hi).symm.trans ha)
    obtain rfl := Option.some.inj ((num?_of_int? hj).symm.trans hb)
    exact ⟨.int (i + j), by simp [add, hi, hj], by simp⟩
  all_goals exact ⟨.float (x + y), by simp [add, hi, hj, ha, hb, asFloat_of_lt hx, asFloat_of_lt hy], rfl⟩

theorem floorDiv_num {a b : Value} {x y : ℚ} (ha : a.num? = some x) (hb : b.num? = some y)
    (hy : y ≠ 0) : ∃ q, a.floorDiv b = .ok q ∧ q.num? = some ⌊x / y⌋ := by
  simp only [floorDiv, ha, hb, hy, if_false]
  split <;> exact ⟨_, rfl, rfl⟩

theorem mulInt_num {v : Value} {x : ℚ} (h : v.num? = some x) (n : Int) :
    ∃ w, mulInt n v = .ok w ∧ w.num? = some (n * x) := by
  cases v with
  | bool b => cases b <;> simp [num?, mulInt] at h ⊢ <;> simp [← h]
  | _ => simp_all [num?, mulInt]

/-- A true value that is a number is not zero. -/
theorem num?_ne_zero_of_truthy {v : Value} {x : ℚ} (h : v.num? = some x) (ht : v.truthy) :
    x ≠ 0 := by
  cases v <;> simp_all [num?, truthy] <;> aesop

/-- Comparing with an integer returns exactly for a number. -/
theorem compare_int_ok_iff {v : Value} {op : Cmp} {n : Int} :
    (∃ b, compare op v (.int n) = .ok b) ↔ v.num?.isSome := by
  cases v <;> simp [compare, num?]

/-- True division returns only for two numbers. -/
theorem num?_isSome_of_trueDiv {a b q : Value} (h : a.trueDiv b = .ok q) :
    a.num?.isSome ∧ b.num?.isSome := by
  cases ha : a.num? <;> cases hb : b.num? <;> simp_all [trueDiv]

/-- Values that are all numbers are the numbers they hold. -/
theorem map_num?_eq {vs : List Value} (h : ∀ v ∈ vs, v.num?.isSome) :
    vs.map num? = (vs.filterMap num?).map some := by
  induction vs with
  | nil => rfl
  | cons v vs ih =>
    obtain ⟨x, hx⟩ := Option.isSome_iff_exists.1 (h v (List.mem_cons_self _ _))
    simp [List.filterMap_cons, hx, ih fun w hw => h w (List.mem_cons_of_mem _ hw)]

/-- `n * v` is a number only for a number `v`: a string or a list is repeated. -/
theorem num?_isSome_of_mulInt {v w : Value} {n : Int} (h : mulInt n v = .ok w)
    (hw : w.num?.isSome) : v.num?.isSome := by
  cases v <;> simp_all [mulInt, num?] <;> subst h <;> simp [num?] at hw

end Value

namespace Builtin

/-- The loop of `min` and `max` on numbers: each step keeps `sel current new`. -/
theorem extremum_num {op : Value.Cmp} {sel : ℚ → ℚ → ℚ}
    (hsel : ∀ a q, (if op.onRat q a then q else a) = sel a q) {qs : List ℚ} :
    ∀ {ys : List Value} {m : Value} {a : ℚ}, ys.map Value.num? = qs.map some →
      m.num? = some a → ∃ v, extremum op m ys = .ok v ∧ v.num? = some (qs.foldl sel a) := by
  induction qs with
  | nil =>
    intro ys m a hys hm
    obtain rfl : ys = [] := by simpa using hys
    exact ⟨m, rfl, hm⟩
  | cons q qs ih =>
    intro ys m a hys hm
    cases ys with
    | nil => simp at hys
    | cons y ys =>
    obtain ⟨hy, hys⟩ := List.cons_eq_cons.1 hys
    rw [extremum, Value.compare_num hy hm, except_ok_bind]
    refine ih hys ?_
    rw [← hsel]
    split <;> assumption

theorem min_num {vs : List Value} {qs : List ℚ} (h : vs.map Value.num? = qs.map some)
    (hne : qs ≠ []) : ∃ v, min vs = .ok v ∧ v.num? = qs.min? := by
  obtain ⟨q, qs, rfl⟩ := List.exists_cons_of_ne_nil hne
  cases vs with
  | nil => simp at h
  | cons v vs =>
  obtain ⟨hv, hvs⟩ := List.cons_eq_cons.1 h
  refine extremum_num (fun a q => ?_) hvs hv
  simp only [Value.Cmp.onRat, decide_eq_true_eq, min_def]
  split_ifs <;> first | rfl | linarith

theorem max_num {vs : List Value} {qs : List ℚ} (h : vs.map Value.num? = qs.map some)
    (hne : qs ≠ []) : ∃ v, max vs = .ok v ∧ v.num? = qs.max? := by
  obtain ⟨q, qs, rfl⟩ := List.exists_cons_of_ne_nil hne
  cases vs with
  | nil => simp at h
  | cons v vs =>
  obtain ⟨hv, hvs⟩ := List.cons_eq_cons.1 h
  refine extremum_num (fun a q => ?_) hvs hv
  simp only [Value.Cmp.onRat, decide_eq_true_eq, max_def]
  split_ifs <;> first | rfl | linarith

end Builtin

namespace Statistics

theorem numbers_of_map {vs : List Value} {qs : List ℚ} (h : vs.map Value.num? = qs.map some) :
    numbers vs = .ok qs :=
  numbers_eq_ok_iff.2 h

/-- `statistics` returns only on data that are all numbers. -/
theorem num?_isSome_of_numbers {vs : List Value} {qs : List ℚ} (h : numbers vs = .ok qs) :
    ∀ v ∈ vs, v.num?.isSome := by
  intro v hv
  obtain ⟨q, -, hq⟩ := List.mem_map.1 (numbers_eq_ok_iff.1 h ▸ List.mem_map_of_mem Value.num? hv)
  exact Option.isSome_iff_exists.2 ⟨q, hq.symm⟩

theorem p95_of_ne_nil {qs : List ℚ} (h : qs ≠ []) : ∃ p, p95 qs = .ok p :=
  ⟨_, p95_eq (by simpa using p95Index_lt (List.length_pos.2 h))⟩

/-! ### The statistics of numbers -/

section Numbers

variable {vs : List Value} {qs : List ℚ}

/-- Sorting values that are all numbers sorts their numbers. -/
theorem map_sortedValues (h : vs.map Value.num? = qs.map some) :
    (sortedValues vs).map Value.num? = (Builtin.sorted qs).map some := by
  have hval : vs.map (fun v => v.num?.getD 0) = qs := by
    simpa [Function.comp_def] using congrArg (List.map fun o => Option.getD o 0) h
  have hnum : ∀ v ∈ sortedValues vs, v.num? = some (v.num?.getD 0) := by
    intro v hv
    obtain ⟨q, -, hq⟩ := List.mem_map.1
      (h ▸ List.mem_map_of_mem Value.num? ((List.perm_insertionSort _ _).mem_iff.1 hv))
    simp [← hq]
  calc (sortedValues vs).map Value.num?
      = ((sortedValues vs).map fun v => v.num?.getD 0).map some := by
        rw [List.map_map]
        exact List.map_congr_left hnum
    _ = (Builtin.sorted qs).map some := by
        rw [sortedValues, List.map_insertionSort _ (· ≤ ·) _ _ fun _ _ _ _ => Iff.rfl, hval]
        rfl

theorem length_sortedValues (h : vs.map Value.num? = qs.map some) :
    (sortedValues vs).length = qs.length := by
  simpa using congrArg List.length (map_sortedValues h)

/-- The item at position `i` of the sorted values has the number at position `i` of the sorted
numbers. -/
theorem getElem?_sortedValues (h : vs.map Value.num? = qs.map some) (i : Nat) :
    (sortedValues vs)[i]?.map Value.num? = (Builtin.sorted qs)[i]?.map some := by
  simpa only [List.getElem?_map] using congrArg (·[i]?) (map_sortedValues h)

theorem getD_sortedValues (h : vs.map Value.num? = qs.map some) {i : Nat} (hi : i < qs.length) :
    ((sortedValues vs).getD i .null).num? = some ((Builtin.sorted qs).getD i 0) := by
  have hs := getElem?_sortedValues h i
  rw [List.getElem?_eq_getElem (by rw [length_sortedValues h]; exact hi),
    List.getElem?_eq_getElem (by rw [length_sorted]; exact hi)] at hs
  rw [List.getD_eq_getElem _ _ (by rw [length_sortedValues h]; exact hi),
    List.getD_eq_getElem _ _ (by rw [length_sorted]; exact hi)]
  simpa using hs

theorem meanOf_num (h : vs.map Value.num? = qs.map some) (hne : qs ≠ [])
    (hb : |mean qs| < Value.floatLimit) : ∃ w, meanOf vs = .ok w ∧ w.num? = some (mean qs) := by
  simp only [meanOf, numbers_of_map h, except_ok_bind, List.isEmpty_iff, hne, if_false, convert]
  split
  · rename_i hden
    simp only [Bool.and_eq_true, decide_eq_true_eq] at hden
    exact ⟨_, rfl, by simp [Rat.coe_int_num_of_den_eq_one hden.2]⟩
  · exact ⟨.float (mean qs), by rw [Value.toFloat_of_lt hb]; rfl, rfl⟩

theorem medianOf_num (h : vs.map Value.num? = qs.map some) (hne : qs ≠ [])
    (hb : ∀ x ∈ qs, |x| ≤ 10 ^ 150) : ∃ w, medianOf vs = .ok w ∧ w.num? = some (median qs) := by
  have hn : 0 < qs.length := List.length_pos.2 hne
  have hel : ∀ i < qs.length, |(Builtin.sorted qs).getD i 0| ≤ 10 ^ 150 := fun i hi => by
    rw [List.getD_eq_getElem _ _ (by rw [length_sorted]; exact hi)]
    exact hb _ (mem_sorted.1 (List.getElem_mem _))
  have hn0 : ¬qs.length = 0 := by omega
  simp only [medianOf, median, length_sortedValues h, length_sorted, hn0, if_false]
  by_cases hodd : qs.length % 2 = 1
  · simp only [hodd, if_true]
    exact ⟨_, rfl, getD_sortedValues h (by omega)⟩
  · simp only [hodd, if_false]
    have hlo := hel (qs.length / 2 - 1) (by omega)
    have hhi := hel (qs.length / 2) (by omega)
    obtain ⟨w, hw, hwq⟩ := Value.add_num (getD_sortedValues h (by omega))
      (getD_sortedValues h (by omega)) (Value.abs_lt_of_le_moderate hlo)
      (Value.abs_lt_of_le_moderate hhi)
    have hsum := (abs_add _ _).trans (add_le_add hlo hhi)
    refine ⟨.float (((Builtin.sorted qs).getD (qs.length / 2 - 1) 0 +
      (Builtin.sorted qs).getD (qs.length / 2) 0) / 2), ?_, rfl⟩
    rw [hw, except_ok_bind]
    exact Value.trueDiv_of_lt hwq rfl two_ne_zero (by linarith [Value.hundred_moderate_lt])
      (by norm_num [Value.floatLimit])

theorem stdevOf_num (h : vs.map Value.num? = qs.map some) (hlen : 2 ≤ qs.length)
    (hb : ∀ x ∈ qs, |x| ≤ 10 ^ 150) : stdevOf vs = .ok (variance qs) := by
  have hv := (variance_le hlen hb).trans_lt Value.variance_moderate_lt
  simp [stdevOf, numbers_of_map h, hv, show ¬qs.length < 2 by omega]

theorem p95Of_num (h : vs.map Value.num? = qs.map some) (hne : qs ≠ []) :
    ∃ w p, p95Of vs = .ok w ∧ p95 qs = .ok p ∧ w.num? = some p := by
  have hk : p95Index qs.length < qs.length := p95Index_lt (List.length_pos.2 hne)
  have hs := getElem?_sortedValues h (p95Index qs.length)
  have hvl : vs.length = qs.length := by simpa using congrArg List.length h
  rw [List.getElem?_eq_getElem (by rw [length_sortedValues h]; exact hk),
    List.getElem?_eq_getElem (by rw [length_sorted]; exact hk)] at hs
  refine ⟨_, _, ?_, p95_eq (by rw [length_sorted]; exact hk), by simpa using hs⟩
  simp [p95Of, Builtin.index, hvl, List.getElem?_eq_getElem
    (by rw [length_sortedValues h]; exact hk : p95Index qs.length < (sortedValues vs).length)]

end Numbers

end Statistics

end TomAnalysis
