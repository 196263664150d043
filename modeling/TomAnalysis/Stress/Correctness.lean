import TomAnalysis.Stress.Semantics
import TomAnalysis.Events.Correctness
import TomAnalysis.Python.Numeric
import Mathlib.Data.String.Basic

/-! # When the stress analysers run to the end

The analysers read most fields with `get` and a default, but they format several of them as
numbers, subscript `rtt_ms` without a default and divide by `total_pings`. `Typed` collects what
each event kind must hold for this to go through; on records whose numbers are moderate, far
inside the double range, it is also enough for every conversion to `float`. On such events the
four analysers return, and the RTT lines of the ping section are the statistics of every ping's
`rtt_ms`. -/

namespace TomAnalysis.Stress

open Events Prog

/-! ## Field types -/

/-- `r.get(key) or 0` is a number: the field is absent, false, or a number. -/
def numericOrFalsy (key : String) : Value → Bool
  | .dict kvs => (((kvs.lookup key).getD .null).orElse (.int 0)).num?.isSome
  | _ => false

/-- `format(r.get(key, 0), ">4")` accepts the field. -/
def widthOrAbsent (key : String) : Value → Bool
  | .dict kvs => ((kvs.lookup key).getD (.int 0)).formatsWidth
  | _ => false

/-- `100*ok/total` of the success-rate line runs: `total` is false, or both are numbers. -/
def rateOperands : Value → Bool
  | .dict kvs =>
    let total := (kvs.lookup "total_pings").getD (.int 0)
    !total.truthy || (total.num?.isSome && ((kvs.lookup "successful").getD (.int 0)).num?.isSome)
  | _ => false

@[simp] theorem numericOrFalsy_dict (key : String) (kvs : List (String × Value)) :
    numericOrFalsy key (.dict kvs) = (((kvs.lookup key).getD .null).orElse (.int 0)).num?.isSome :=
  rfl

@[simp] theorem widthOrAbsent_dict (key : String) (kvs : List (String × Value)) :
    widthOrAbsent key (.dict kvs) = ((kvs.lookup key).getD (.int 0)).formatsWidth := rfl

/-- The fields of a burst round that are formatted or divided as numbers. -/
def burstNumbers : List String :=
  ["messages_per_sec", "bytes_per_sec", "elapsed_ms", "rtt_min_ms", "rtt_avg_ms", "rtt_max_ms"]

/-- The RTT fields of a ladder row, read with `or 0`. -/
def ladderRtts : List String :=
  ["rtt_min_ms", "rtt_avg_ms", "rtt_max_ms"]

/-- The fields of a fan-out trial that are formatted as numbers. -/
def fanoutNumbers : List String :=
  ["avg_rtt_ms", "max_rtt_ms"]

/-- What a ladder row must hold: a number or nothing as `size`, counts a width spec accepts, and
RTTs that are numbers or false. -/
def ladderTyped (r : Value) : Bool :=
  numericOrAbsent "size" r && widthOrAbsent "successful" r && widthOrAbsent "failed" r &&
    ladderRtts.all fun key => numericOrFalsy key r

/-- The events on which the four analysers run to the end, kind by kind. -/
structure Typed (events : List Value) : Prop where
  records : ∀ e ∈ events, isRecord e
  ping : ∀ e ∈ events.filter (fieldIs "event" "ping"), (numericField "rtt_ms" e).isSome
  summary : ∀ s ∈ (events.filter (fieldIs "event" "summary")).getLast?, rateOperands s
  burst : ∀ e ∈ events.filter (fieldIs "event" "burst_result"), ∀ key ∈ burstNumbers,
    numericOrAbsent key e
  ladder : ∀ e ∈ events.filter (fieldIs "event" "ladder_result"), ladderTyped e
  fanout : ∀ e ∈ events.filter (fieldIs "event" "fanout_result"), ∀ key ∈ fanoutNumbers,
    numericOrAbsent key e

/-! ## One section at a time -/

/-- A moderate field, or the default `0`, converts to `float`. -/
theorem formatsFixed_getD {kvs : List (String × Value)} (hm : (Value.dict kvs).moderateFields)
    (key : String) :
    ((kvs.lookup key).getD (.int 0)).formatsFixed = ((kvs.lookup key).getD (.int 0)).num?.isSome :=
  Value.formatsFixed_of_moderate (Value.moderate_getD hm key Value.moderate_int_zero)

/-- The same for `r.get(key) or 0`. -/
theorem formatsFixed_orElse {kvs : List (String × Value)} (hm : (Value.dict kvs).moderateFields)
    (key : String) :
    (((kvs.lookup key).getD .null).orElse (.int 0)).formatsFixed =
      (((kvs.lookup key).getD .null).orElse (.int 0)).num?.isSome := by
  refine Value.formatsFixed_of_moderate ?_
  unfold Value.orElse
  split
  · exact Value.moderate_getD hm key Value.moderate_null
  · exact Value.moderate_int_zero

/-- `f"{a / n:spec}"` for a moderate `a` and a non-zero integer `n` inside the double range returns
exactly for a number `a`. -/
theorem trueDiv_format_ok_iff {a : Value} (ha : a.moderate) {n : Int} (hn : n ≠ 0)
    (hnl : |(n : ℚ)| < Value.floatLimit) {s : String} :
    (∃ p q, a.trueDiv (.int n) = .ok q ∧ Value.format (.fixed s) q = .ok p) ↔ a.num?.isSome := by
  refine ⟨fun ⟨_, _, hq, _⟩ => (Value.num?_isSome_of_trueDiv hq).1, fun h => ?_⟩
  obtain ⟨x, hx⟩ := Option.isSome_iff_exists.1 h
  exact ⟨_, _, Value.trueDiv_int_of_moderate ha hx hn hnl, rfl⟩

/-- A moderate burst round returns exactly when every field it formats or divides holds a number,
or is absent. -/
theorem burstRound_res_iff {r : Value} (hr : isRecord r) (hm : r.moderateFields) :
    (burstRound r).res = .ok () ↔ ∀ key ∈ burstNumbers, numericOrAbsent key r := by
  obtain ⟨kvs, rfl⟩ := exists_dict_of_isRecord hr
  simp only [burstRound, getFormat, bind_res, lift_res, print_res, Value.get_dict, except_ok_bind,
    except_bind_eq_ok, exists_and_right, exists_and_left, Value.format_fixed_ok_iff,
    formatsFixed_getD hm, and_true, burstNumbers, List.forall_mem_cons, numericOrAbsent_dict,
    List.not_mem_nil, false_implies, implies_true, trueDiv_format_ok_iff
      (Value.moderate_getD hm "bytes_per_sec" Value.moderate_int_zero) (by decide : (1024 : Int) ≠ 0)
      (by norm_num [Value.floatLimit])]

/-- The size column returns exactly for a number: `size >= 1024` raises for anything else. -/
theorem sizeStr_ok_iff (v : Value) : (∃ ps, sizeStr v = .ok ps) ↔ v.num?.isSome := by
  refine ⟨fun ⟨_, h⟩ => ?_, fun h => ?_⟩
  · obtain ⟨b, hb, -⟩ := except_bind_eq_ok.1 h
    exact Value.compare_int_ok_iff.1 ⟨b, hb⟩
  · obtain ⟨x, hx⟩ := Option.isSome_iff_exists.1 h
    rw [sizeStr, Value.compare_num hx (Value.num?_int 1024), except_ok_bind]
    split
    · obtain ⟨q, hq, -⟩ := Value.floorDiv_num hx (Value.num?_int 1024) (by norm_num)
      exact ⟨_, by rw [hq]; rfl⟩
    · exact ⟨_, rfl⟩

/-- A moderate ladder row returns exactly when `ladderTyped` holds of it. -/
theorem ladderRow_res_iff {r : Value} (hr : isRecord r) (hm : r.moderateFields) :
    (ladderRow r).res = .ok () ↔ ladderTyped r := by
  obtain ⟨kvs, rfl⟩ := exists_dict_of_isRecord hr
  simp only [ladderRow, bind_res, lift_res, print_res, Value.get_dict, except_ok_bind,
    except_bind_eq_ok, exists_and_right, exists_and_left, Value.format_fixed_ok_iff,
    formatsFixed_orElse hm, Value.format_width_ok_iff, sizeStr_ok_iff, and_true, ladderTyped,
    ladderRtts, List.all_cons, List.all_nil, Bool.and_true, Bool.and_eq_true, numericOrAbsent_dict,
    numericOrFalsy_dict, widthOrAbsent_dict, and_assoc]

/-- A moderate fan-out trial returns exactly when its two RTTs are numbers, or absent. -/
theorem fanoutTrial_res_iff {r : Value} (hr : isRecord r) (hm : r.moderateFields) :
    (fanoutTrial r).res = .ok () ↔ ∀ key ∈ fanoutNumbers, numericOrAbsent key r := by
  obtain ⟨kvs, rfl⟩ := exists_dict_of_isRecord hr
  simp only [fanoutTrial, getFormat, bind_res, lift_res, print_res, Value.get_dict, except_ok_bind,
    except_bind_eq_ok, exists_and_right, exists_and_left, Value.format_fixed_ok_iff,
    formatsFixed_getD hm, and_true, fanoutNumbers, List.forall_mem_cons, numericOrAbsent_dict,
    List.not_mem_nil, false_implies, implies_true]

/-- A section over the events of one kind: nothing when there are none, and otherwise its header
and then each event's lines in input order, when each event's lines return. -/
theorem section_eq {events : List Value} (hrec : ∀ e ∈ events, isRecord e) {kind title : String}
    {body : Value → Py Unit} (hbody : ∀ e ∈ events.filter (fieldIs "event" kind), (body e).res = .ok ())
    (label : String) :
    (do
      let results ← lift (ofKind kind events)
      if results.isEmpty then pure () else do
      header title label
      results.forM body : Py Unit) =
      if (events.filter (fieldIs "event" kind)).isEmpty then ⟨[], .ok ()⟩
      else ⟨(header title label).out ++
        ((events.filter (fieldIs "event" kind)).map fun e => (body e).out).flatten, .ok ()⟩ := by
  rw [ofKind_of_records hrec]
  simp only [lift_ok_bind]
  split
  · rfl
  · simp [header, forM_of_ok hbody]

section Sections

variable {events : List Value} (ht : Typed events) (hm : ∀ e ∈ events, e.moderateFields)
include ht hm

theorem analyzeBurst_eq (label : String) :
    analyzeBurst events label =
      if (events.filter (fieldIs "event" "burst_result")).isEmpty then ⟨[], .ok ()⟩
      else ⟨(header "BURST" label).out ++ ((events.filter (fieldIs "event" "burst_result")).map
        fun e => (burstRound e).out).flatten, .ok ()⟩ :=
  section_eq ht.records (fun e he => (burstRound_res_iff (isRecord_of_mem_filter ht.records he)
    (hm e (List.mem_of_mem_filter he))).2 (ht.burst e he)) label

/-- The ladder section: its header, the column titles, then one row per result. -/
theorem analyzeLadder_eq (label : String) :
    analyzeLadder events label =
      if (events.filter (fieldIs "event" "ladder_result")).isEmpty then ⟨[], .ok ()⟩
      else ⟨(header "LADDER" label).out ++ ladderColumns :: ((events.filter
        (fieldIs "event" "ladder_result")).map fun e => (ladderRow e).out).flatten, .ok ()⟩ := by
  rw [analyzeLadder, ofKind_of_records ht.records]
  simp only [lift_ok_bind]
  split
  · rfl
  · simp [header, forM_of_ok fun e he => (ladderRow_res_iff (isRecord_of_mem_filter ht.records he)
      (hm e (List.mem_of_mem_filter he))).2 (ht.ladder e he)]

theorem analyzeFanout_eq (label : String) :
    analyzeFanout events label =
      if (events.filter (fieldIs "event" "fanout_result")).isEmpty then ⟨[], .ok ()⟩
      else ⟨(header "FANOUT" label).out ++ ((events.filter (fieldIs "event" "fanout_result")).map
        fun e => (fanoutTrial e).out).flatten, .ok ()⟩ :=
  section_eq ht.records (fun e he => (fanoutTrial_res_iff (isRecord_of_mem_filter ht.records he)
    (hm e (List.mem_of_mem_filter he))).2 (ht.fanout e he)) label

theorem analyzeBurst_res (label : String) : (analyzeBurst events label).res = .ok () := by
  rw [analyzeBurst_eq ht hm]
  split <;> rfl

theorem analyzeLadder_res (label : String) : (analyzeLadder events label).res = .ok () := by
  rw [analyzeLadder_eq ht hm]
  split <;> rfl

theorem analyzeFanout_res (label : String) : (analyzeFanout events label).res = .ok () := by
  rw [analyzeFanout_eq ht hm]
  split <;> rfl

end Sections

/-- Two burst rounds at different rates. -/
def twoRounds : List Value :=
  [.dict [("event", .str "burst_result"), ("round", .int 1), ("messages_per_sec", .int 100)],
    .dict [("event", .str "burst_result"), ("round", .int 2), ("messages_per_sec", .int 250)]]

/-- The RTT lines of a ping section over the samples `qs`, as the analysis promises them: least,
greatest and mean sample, and for more than one sample the median, the standard deviation and
the nearest-rank 95th percentile. -/
def rttBlock (qs : List ℚ) : List Line :=
  match qs.min?, qs.max?, Statistics.p95 qs with
  | some lo, some hi, .ok p =>
    [[.text "  RTT min:        ", .fixed ".1f" lo, .text " ms"],
      [.text "  RTT max:        ", .fixed ".1f" hi, .text " ms"],
      [.text "  RTT avg:        ", .fixed ".1f" (Statistics.mean qs), .text " ms"]] ++
    if 1 < qs.length then
      [[.text "  RTT median:     ", .fixed ".1f" (Statistics.median qs), .text " ms"],
        [.text "  RTT stddev:     ", .fixedSqrt ".1f" (Statistics.variance qs), .text " ms"],
        [.text "  RTT p95:        ", .fixed ".1f" p, .text " ms"]]
    else []
  | _, _, _ => []

/-- On moderate samples that are all numbers, the RTT lines the code prints are `rttBlock` of
their values. -/
theorem rttLines_eq {rtts : List Value} {qs : List ℚ} (h : rtts.map Value.num? = qs.map some)
    (hne : qs ≠ []) (hb : ∀ x ∈ qs, |x| ≤ 10 ^ 150) : rttLines rtts = ⟨rttBlock qs, .ok ()⟩ := by
  have hn := List.length_pos.2 hne
  have hlt : ∀ {v : Value} {x : ℚ}, v.num? = some x → |x| ≤ 10 ^ 150 →
      v.format (.fixed ".1f") = .ok (.fixed ".1f" x) :=
    fun hv hx => Value.format_fixed hv (Value.abs_lt_of_le_moderate hx) _
  obtain ⟨lo, hlo⟩ := Option.ne_none_iff_exists'.1 (List.min?_eq_none_iff.not.2 hne)
  obtain ⟨hi, hhi⟩ := Option.ne_none_iff_exists'.1 (List.max?_eq_none_iff.not.2 hne)
  obtain ⟨vlo, hmin, hvlo⟩ := Builtin.min_num h hne
  obtain ⟨vhi, hmax, hvhi⟩ := Builtin.max_num h hne
  obtain ⟨avg, havg, havgq⟩ := Statistics.meanOf_num h hne
    (Value.abs_lt_of_le_moderate (Statistics.abs_mean_le hn hb))
  obtain ⟨w, p, hw, hp, hwp⟩ := Statistics.p95Of_num h hne
  have hlen : rtts.length = qs.length := by simpa using congrArg List.length h
  simp only [rttLines, rttBlock, hlo, hhi, hp, hmin, hmax, havg, except_ok_bind,
    hlt (hvlo.trans hlo) (hb lo (List.min?_mem (fun a b => min_choice a b) hlo)),
    hlt (hvhi.trans hhi) (hb hi (List.max?_mem (fun a b => max_choice a b) hhi)),
    hlt havgq (Statistics.abs_mean_le hn hb), lift_ok_bind, print_bind, hlen, gt_iff_lt]
  by_cases h1 : 1 < qs.length
  · obtain ⟨med, hmed, hmedq⟩ := Statistics.medianOf_num h hne hb
    simp only [h1, if_true, hmed, except_ok_bind, hlt hmedq (Statistics.abs_median_le hn hb),
      Statistics.stdevOf_num h h1 hb, hw, hlt hwp (hb p (Statistics.mem_of_p95 hp)), lift_ok_bind,
      print_bind]
    rfl
  · simp only [h1, if_false]
    rfl

/-- `100*ok/total` for a true `total` that is a number `x` and an `ok` that is a number `y`,
both moderate: the rate `100 * y / x`. -/
theorem rate_eq {ok total : Value} (ht : total.truthy) (hok : ok.moderate) (htot : total.moderate)
    {x y : ℚ} (hx : total.num? = some x) (hy : ok.num? = some y) :
    (Value.mulInt 100 ok >>= (·.trueDiv total) >>= Value.format (.fixed ".0f")) =
      .ok (.fixed ".0f" (100 * y / x)) := by
  obtain ⟨w, hw, hwy⟩ := Value.mulInt_num hy 100
  have hx0 := Value.num?_ne_zero_of_truthy hx ht
  have h100 : |((100 : Int) : ℚ) * y| < Value.floatLimit := by
    rw [abs_mul]
    have := Value.abs_le_of_moderate hok hy
    norm_num
    linarith [Value.hundred_moderate_lt]
  have hdiv := Value.trueDiv_of_lt hwy hx hx0 h100
    (Value.abs_lt_of_le_moderate (Value.abs_le_of_moderate htot hx))
  simp only [hw, except_ok_bind, hdiv, Value.format_fixed_float]
  norm_num

/-- `100*ok/total` for a true moderate `total` and a moderate `ok` returns exactly when both are
numbers: a string or a list `ok` is repeated, and the division then raises. -/
theorem rate_ok_iff {ok total : Value} (ht : total.truthy) (hok : ok.moderate)
    (htot : total.moderate) :
    (∃ p, (Value.mulInt 100 ok >>= (·.trueDiv total) >>= Value.format (.fixed ".0f")) = .ok p) ↔
      total.num?.isSome ∧ ok.num?.isSome := by
  refine ⟨fun ⟨_, h⟩ => ?_, fun ⟨htn, hon⟩ => ?_⟩
  · obtain ⟨q, hq, -⟩ := except_bind_eq_ok.1 h
    obtain ⟨w, hw, hq⟩ := except_bind_eq_ok.1 hq
    obtain ⟨hwn, htn⟩ := Value.num?_isSome_of_trueDiv hq
    exact ⟨htn, Value.num?_isSome_of_mulInt hw hwn⟩
  · obtain ⟨x, hx⟩ := Option.isSome_iff_exists.1 htn
    obtain ⟨y, hy⟩ := Option.isSome_iff_exists.1 hon
    exact ⟨_, rate_eq ht hok htot hx hy⟩

/-- The summary lines of a moderate summary return exactly when `rateOperands` holds of it. -/
theorem summaryLines_res_iff {s : Value} (hs : isRecord s) (hm : s.moderateFields) :
    (summaryLines s).res = .ok () ↔ rateOperands s := by
  obtain ⟨kvs, rfl⟩ := exists_dict_of_isRecord hs
  simp only [summaryLines, Value.get_dict, lift_ok_bind, rateOperands]
  split
  · rename_i ht
    simp only [bind_res_eq_ok, lift_res, print_res, exists_and_right, and_true, exists_const, ht,
      Bool.not_true, Bool.false_or, Bool.and_eq_true]
    exact rate_ok_iff ht (Value.moderate_getD hm _ Value.moderate_int_zero)
      (Value.moderate_getD hm _ Value.moderate_int_zero)
  · rename_i ht
    simp [ht]

/-- The RTT lines return only on samples that are all numbers: `statistics.mean` converts each
one. -/
theorem num?_isSome_of_rttLines {rtts : List Value} (h : (rttLines rtts).res = .ok ()) :
    ∀ v ∈ rtts, v.num?.isSome := by
  simp only [rttLines, bind_res_eq_ok, lift_res, print_res] at h
  obtain ⟨-, -, -, -, -, -, -, -, avg, havg, -⟩ := h
  obtain ⟨w, hw, -⟩ := except_bind_eq_ok.1 havg
  obtain ⟨qs, hqs, -⟩ := except_bind_eq_ok.1 hw
  exact Statistics.num?_isSome_of_numbers hqs

/-- On a non-empty list of samples the RTT lines return only when every sample is a number:
`statistics.mean` converts each one. On moderate samples that is also enough. -/
theorem rttLines_res_iff {rtts : List Value} (hne : rtts ≠ []) (hm : ∀ v ∈ rtts, v.moderate) :
    (rttLines rtts).res = .ok () ↔ ∀ v ∈ rtts, v.num?.isSome := by
  refine ⟨num?_isSome_of_rttLines, fun h => ?_⟩
  have hmap := Value.map_num?_eq h
  have hqs : rtts.filterMap Value.num? ≠ [] := fun hnil => hne (by simpa [hnil] using hmap)
  refine (congrArg Prog.res (rttLines_eq hmap hqs fun x hx => ?_)).trans rfl
  obtain ⟨v, hv, hvx⟩ := List.mem_filterMap.1 hx
  exact Value.abs_le_of_moderate (hm v hv) hvx

/-- The lines of a moderate summary whose `total_pings` is a non-zero integer `t` and whose
`successful` is an integer `k`. -/
theorem summaryLines_int {kvs : List (String × Value)} (hm : (Value.dict kvs).moderateFields)
    {t k : Int} (htot : kvs.lookup "total_pings" = some (.int t)) (ht0 : t ≠ 0)
    (hok : kvs.lookup "successful" = some (.int k)) :
    summaryLines (.dict kvs) = ⟨[[.text "  Success rate:   ", .field "" (.int k), .text "/",
      .field "" (.int t), .text " (", .fixed ".0f" (100 * k / t), .text "%)"],
      [.text "  Reconnections:  ", .field "" ((kvs.lookup "reconnections").getD (.int 0))]],
      .ok ()⟩ := by
  have htrue : (Value.int t).truthy := by simpa [Value.truthy] using ht0
  have hrate := rate_eq htrue (Value.moderate_lookup hm _ _ hok) (Value.moderate_lookup hm _ _ htot)
    rfl rfl
  simp only [summaryLines, Value.get_dict, htot, hok, Option.getD_some, lift_ok_bind, htrue,
    if_true, hrate, print_bind, bind_assoc]
  rfl

theorem pathChangeLine_res {pathChanges : List Value} (h : ∀ e ∈ pathChanges, isRecord e) :
    (pathChangeLine pathChanges).res = .ok () := by
  simp [pathChangeLine, select_of_records h]

/-- The ping section on typed moderate events with pings: its header, the count, the RTT lines,
the lines of the last summary, and the path-change line when there are path changes. -/
theorem analyzePings_eq {events : List Value} (hrec : ∀ e ∈ events, isRecord e)
    (hm : ∀ e ∈ events, e.moderateFields)
    (hping : ∀ e ∈ events.filter (fieldIs "event" "ping"), (numericField "rtt_ms" e).isSome)
    (hsum : ∀ s ∈ (events.filter (fieldIs "event" "summary")).getLast?, rateOperands s)
    (label : String) (hne : events.filter (fieldIs "event" "ping") ≠ []) :
    analyzePings events label = ⟨(header "PING" label).out ++
      [.text "  Total pings:    ", .field "" (.int (events.filter (fieldIs "event" "ping")).length)] ::
      rttBlock ((events.filter (fieldIs "event" "ping")).filterMap (numericField "rtt_ms")) ++
      (((events.filter (fieldIs "event" "summary")).getLast?.map fun s => (summaryLines s).out).getD
        [] ++ if (events.filter (fieldIs "event" "path_change")).isEmpty then []
          else (pathChangeLine (events.filter (fieldIs "event" "path_change"))).out), .ok ()⟩ := by
  obtain ⟨rtts, hrtts, hnum⟩ := mapM_getItem hping
  have hpath := pathChangeLine_res fun e he =>
    isRecord_of_mem_filter hrec (p := fieldIs "event" "path_change") he
  have hqs : (events.filter (fieldIs "event" "ping")).filterMap (numericField "rtt_ms") ≠ [] := by
    obtain ⟨p, hp⟩ := List.exists_mem_of_ne_nil _ hne
    obtain ⟨q, hq⟩ := Option.isSome_iff_exists.1 (hping p hp)
    exact List.ne_nil_of_mem (List.mem_filterMap.2 ⟨p, hp, hq⟩)
  have hb : ∀ x ∈ (events.filter (fieldIs "event" "ping")).filterMap (numericField "rtt_ms"),
      |x| ≤ 10 ^ 150 :=
    fun _ hx => abs_le_of_mem_filterMap (fun e he => hm e (List.mem_of_mem_filter he)) hx
  simp only [analyzePings, ofKind_of_records hrec, lift_ok_bind, List.isEmpty_iff, hne,
    if_false, hrtts, header, bind_assoc, print_bind, rttLines_eq hnum hqs hb, mk_ok_bind]
  cases hs : (events.filter (fieldIs "event" "summary")).getLast? with
  | none =>
    simp only [pure_bind, Option.map_none', Option.getD_none, List.nil_append]
    split <;> simp [hpath]
  | some s =>
    have hsmem := List.mem_of_getLast?_eq_some hs
    have hs' := (summaryLines_res_iff (isRecord_of_mem_filter hrec hsmem)
      (hm s (List.mem_of_mem_filter hsmem))).2 (hsum s hs)
    simp only [bind_of_ok hs', Option.map_some', Option.getD_some]
    split <;> simp [hpath]

/-- On typed moderate events the ping section returns, and when there are pings its RTT lines
are `rttBlock` of the `rtt_ms` of every ping. -/
theorem analyzePings_typed {events : List Value} (ht : Typed events)
    (hm : ∀ e ∈ events, e.moderateFields) (label : String) :
    (analyzePings events label).res = .ok () ∧
      (events.filter (fieldIs "event" "ping") ≠ [] →
        List.IsInfix (rttBlock ((events.filter (fieldIs "event" "ping")).filterMap
          (numericField "rtt_ms"))) (analyzePings events label).out) := by
  by_cases hne : events.filter (fieldIs "event" "ping") = []
  · simp [analyzePings, ofKind_of_records ht.records, hne]
  · rw [analyzePings_eq ht.records hm ht.ping ht.summary label hne]
    refine ⟨rfl, fun _ => ?_⟩
    simp only [List.append_assoc, List.cons_append]
    exact (List.prefix_append _ _).isInfix.trans
      ((List.suffix_cons _ _).isInfix.trans (List.suffix_append _ _).isInfix)

/-- One ping, and a summary of 97 successful pings out of 100. -/
def summarised : List Value :=
  [.dict [("event", .str "ping"), ("rtt_ms", .int 7)],
    .dict [("event", .str "summary"), ("total_pings", .int 100), ("successful", .int 97)]]

/-- On typed moderate events the four analysers return, and the ping section's RTT lines are
`rttBlock` of the `rtt_ms` of every ping. -/
theorem analyzeEvents_typed {events : List Value} (ht : Typed events)
    (hm : ∀ e ∈ events, e.moderateFields) (label : String) :
    (analyzeEvents events label).res = .ok () ∧
      (events.filter (fieldIs "event" "ping") ≠ [] →
        List.IsInfix (rttBlock ((events.filter (fieldIs "event" "ping")).filterMap
          (numericField "rtt_ms"))) (analyzeEvents events label).out) := by
  obtain ⟨hp, hblock⟩ := analyzePings_typed ht hm label
  rw [analyzeEvents, bind_of_ok hp, bind_of_ok (analyzeBurst_res ht hm label),
    bind_of_ok (analyzeLadder_res ht hm label)]
  exact ⟨analyzeFanout_res ht hm label, fun hne => (hblock hne).trans (List.prefix_append _ _).isInfix⟩

/-! ## The run over all files -/

/-- A file's section depends on that file alone. -/
theorem report_frame {fs fs' : FileSystem} {path : String} (h : fs' path = fs path) :
    report fs' path = report fs path := by
  simp only [report, load, h]

/-- `strLt` is the lexicographic order of code points. -/
theorem strLt_iff_lex : ∀ l m : List Char, Value.strLt l m = true ↔ List.Lex (· < ·) l m
  | _, [] => by simp [Value.strLt]
  | [], _ :: _ => by simp [Value.strLt, List.Lex.nil]
  | c :: cs, d :: ds => by
    by_cases h : c = d
    · subst h
      simp [Value.strLt, strLt_iff_lex cs ds, List.Lex.cons_iff]
    · simp only [Value.strLt, h, if_false, decide_eq_true_eq]
      refine ⟨List.Lex.rel, fun hl => ?_⟩
      cases hl with
      | cons => exact absurd rfl h
      | rel hr => exact hr

/-- `sorted` on paths compares them as Python compares strings, which is the order of
`String`. -/
theorem strLt_iff (a b : String) : Value.strLt a.data b.data = true ↔ a < b := by
  rw [String.lt_iff_toList_lt]
  exact strLt_iff_lex _ _

/-- `analyze-stress.py` analyses its paths in ascending order, each as often as it is given. -/
theorem sortPaths_sorted (files : List String) :
    (sortPaths files).Sorted (· ≤ ·) ∧ (sortPaths files).Perm files := by
  have hle : ∀ a b : String, (!Value.strLt b.data a.data) = true ↔ a ≤ b := fun a b => by
    rw [← not_lt, ← strLt_iff]
    simp
  let r : String → String → Prop := fun a b => (!Value.strLt b.data a.data) = true
  have : IsTotal String r := ⟨fun a b => by simpa only [r, hle] using le_total a b⟩
  have : IsTrans String r := ⟨fun a b c => by simpa only [r, hle] using le_trans⟩
  exact ⟨(List.sorted_insertionSort r files).imp fun h => (hle _ _).1 h,
    List.perm_insertionSort r files⟩

theorem sortPaths_perm (files : List String) : (sortPaths files).Perm files :=
  List.perm_insertionSort _ files

/-- `main` on at least one path: the banner, the loop over the sorted paths, the footer. -/
theorem main_eq (fs : FileSystem) {argv : List String} (hargs : 2 ≤ argv.length) :
    main fs argv = (⟨banner (argv.drop 1).length, .ok ()⟩ : Main Unit) >>= fun _ =>
      escape ((sortPaths (argv.drop 1)).forM (report fs)) >>= fun _ => ⟨footer, .ok ()⟩ := by
  have hlt : ¬argv.length < 2 := by omega
  simp only [main, hlt, if_false, pure_bind, forM_print]

/-- When no file raises, `main` prints the banner, each file's section in sorted order, and the
footer, and returns. -/
theorem main_of_ok (fs : FileSystem) {argv : List String} (hargs : 2 ≤ argv.length)
    (hall : ∀ f ∈ sortPaths (argv.drop 1), (report fs f).res = .ok ()) :
    main fs argv = ⟨banner (argv.drop 1).length ++
      ((sortPaths (argv.drop 1)).map fun f => (report fs f).out).flatten ++ footer, .ok ()⟩ := by
  rw [main_eq fs hargs, forM_of_ok hall]
  simp

/-- The first file that raises ends the run, after the sections of the files before it. -/
theorem main_of_error (fs : FileSystem) {argv : List String} (hargs : 2 ≤ argv.length)
    {pre post : List String} {f : String} {e : PyError}
    (hsplit : sortPaths (argv.drop 1) = pre ++ f :: post)
    (hpre : ∀ g ∈ pre, (report fs g).res = .ok ()) (hf : (report fs f).res = .error e) :
    main fs argv = ⟨banner (argv.drop 1).length ++
      (pre.map fun g => (report fs g).out).flatten ++ (report fs f).out, .error (.raise e)⟩ := by
  rw [main_eq fs hargs, hsplit, forM_of_error hpre hf]
  simp

/-- `main` exits with status 0 exactly when no file raises, and with 1 otherwise. -/
theorem exitStatus_main (fs : FileSystem) {argv : List String} (hargs : 2 ≤ argv.length) :
    exitStatus (main fs argv) = 0 ↔ ∀ f ∈ sortPaths (argv.drop 1), (report fs f).res = .ok () := by
  rcases forM_cases (sortPaths (argv.drop 1)) (report fs) with hall | ⟨pre, f, post, e, hsplit, hpre, hf⟩
  · rw [main_of_ok fs hargs hall, exitStatus_ok]
    exact ⟨fun _ => hall, fun _ => rfl⟩
  · rw [main_of_error fs hargs hsplit hpre hf, exitStatus_raise, hsplit]
    exact ⟨by omega, fun h => by simp [h f (by simp)] at hf⟩

end TomAnalysis.Stress
