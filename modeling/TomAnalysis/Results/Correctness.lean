import TomAnalysis.Results.Semantics
import TomAnalysis.Events.Correctness
import TomAnalysis.Python.Numeric

/-! # What `analyze-results.py` computes, and how a batch runs

On moderate events whose pings and reconnections carry numbers, `analyze_file` returns, and each
statistic it stores is the statistic of the numbers of its events. `print_single` renders a
result exactly when the values it formats with a fixed-point spec convert to `float`. The
collecting loop of `main` isolates the files from each other; the rendering loop after it does
not. -/

namespace TomAnalysis.Results

open Events Prog

/-! ## The statistics -/

/-- `s` holds the statistics of the samples `qs`: mean, median, nearest-rank 95th percentile,
and the least and the greatest sample. -/
def StatsOf (qs : List ℚ) (s : RttStats) : Prop :=
  s.mean.num? = some (Statistics.mean qs) ∧ s.median.num? = some (Statistics.median qs) ∧
    s.p95.num? = (Statistics.p95 qs).toOption ∧ s.min.num? = qs.min? ∧ s.max.num? = qs.max?

theorem eq_nil_of_map_num {vs : List Value} {qs : List ℚ} (h : vs.map Value.num? = qs.map some) :
    vs = [] ↔ qs = [] := by
  rw [← List.map_eq_nil_iff, h, List.map_eq_nil_iff]

/-- A block `if xs:` of `analyze_file` over values `vs` with samples `qs`: nothing when there is no
sample, and otherwise what its body computes. -/
theorem ifSamples {β : Type} {vs : List Value} {qs : List ℚ} (hvq : vs = [] ↔ qs = [])
    {x : Except PyError (Option β)} {P : β → Prop} (hx : qs ≠ [] → ∃ b, x = .ok (some b) ∧ P b) :
    ∃ o, (if vs.isEmpty then pure Option.none else x) = .ok o ∧ (o = Option.none ↔ qs = []) ∧
      ∀ b ∈ o, P b := by
  by_cases hne : qs = []
  · obtain rfl := hvq.2 hne
    exact ⟨Option.none, rfl, by simp [hne], by simp⟩
  · obtain ⟨b, hb, hP⟩ := hx hne
    have hvs : vs.isEmpty = false := List.isEmpty_eq_false_iff_exists_mem.2
      (List.exists_mem_of_ne_nil _ (hvq.not.2 hne))
    exact ⟨some b, by simp [hvs, hb], by simp [hne], fun _ hb' => Option.mem_some_iff.1 hb' ▸ hP⟩

section Samples

variable {vs : List Value} {qs : List ℚ} (h : vs.map Value.num? = qs.map some)
  (hb : ∀ x ∈ qs, |x| ≤ 10 ^ 150)
include h hb

theorem meanOf_moderate (hne : qs ≠ []) :
    ∃ w, Statistics.meanOf vs = .ok w ∧ w.num? = some (Statistics.mean qs) :=
  Statistics.meanOf_num h hne
    (Value.abs_lt_of_le_moderate (Statistics.abs_mean_le (List.length_pos.2 hne) hb))

theorem rttStats_num :
    ∃ o, rttStats vs = .ok o ∧ (o = Option.none ↔ qs = []) ∧ ∀ s ∈ o, StatsOf qs s :=
  ifSamples (eq_nil_of_map_num h) fun hne => by
    obtain ⟨mean, hmean, hmq⟩ := meanOf_moderate h hb hne
    obtain ⟨med, hmed, hmedq⟩ := Statistics.medianOf_num h hne hb
    obtain ⟨w, p, hw, hp, hwp⟩ := Statistics.p95Of_num h hne
    obtain ⟨lo, hmin, hlo⟩ := Builtin.min_num h hne
    obtain ⟨hi, hmax, hhi⟩ := Builtin.max_num h hne
    exact ⟨⟨mean, med, w, lo, hi⟩, by simp [hmean, hmed, hw, hmin, hmax], hmq, hmedq,
      by rw [hp, hwp]; rfl, hlo, hhi⟩

theorem directStats_num :
    ∃ o, directStats vs = .ok o ∧ (o = Option.none ↔ qs = []) ∧
      ∀ d ∈ o, d.1.num? = some (Statistics.mean qs) ∧ d.2.num? = (Statistics.p95 qs).toOption :=
  ifSamples (eq_nil_of_map_num h) fun hne => by
    obtain ⟨mean, hmean, hmq⟩ := meanOf_moderate h hb hne
    obtain ⟨w, p, hw, hp, hwp⟩ := Statistics.p95Of_num h hne
    exact ⟨(mean, w), by simp [hmean, hw], hmq, by rw [hp, hwp]; rfl⟩

theorem relayStats_num :
    ∃ o, relayStats vs = .ok o ∧ (o = Option.none ↔ qs = []) ∧
      ∀ m ∈ o, m.num? = some (Statistics.mean qs) :=
  ifSamples (eq_nil_of_map_num h) fun hne => by
    obtain ⟨mean, hmean, hmq⟩ := meanOf_moderate h hb hne
    exact ⟨mean, by simp [hmean], hmq⟩

end Samples

theorem reconnectStats_typed {rs : List Value}
    (h : ∀ r ∈ rs, (numericField "reconnect_time_ms" r).isSome) (hm : ∀ r ∈ rs, r.moderateFields) :
    ∃ o, reconnectStats rs = .ok o ∧
      (o = Option.none ↔ rs.filterMap (numericField "reconnect_time_ms") = []) ∧
      ∀ m ∈ o, m.1.num? = some (Statistics.mean (rs.filterMap (numericField "reconnect_time_ms"))) ∧
        m.2.num? = (rs.filterMap (numericField "reconnect_time_ms")).max? := by
  obtain ⟨times, htimes, hnum⟩ := mapM_getItem h
  refine ifSamples (filterMap_numericField_eq_nil h).symm fun hts => ?_
  obtain ⟨mean, hmean, hmq⟩ := meanOf_moderate hnum (fun _ hx => abs_le_of_mem_filterMap hm hx) hts
  obtain ⟨hi, hmax, hhi⟩ := Builtin.max_num hnum hts
  exact ⟨(mean, hi), by simp only [htimes, hmean, hmax, except_ok_bind]; rfl, hmq, hhi⟩

/-! ## Rendering -/

/-- The values `print_single` formats with a fixed-point spec convert to `float`. -/
structure Renderable (r : FileResult) : Prop where
  duration : ∀ t ∈ r.durationS, t.formatsFixed
  rtt : ∀ s ∈ r.rtt, s.mean.formatsFixed ∧ s.median.formatsFixed ∧ s.p95.formatsFixed ∧
    s.min.formatsFixed ∧ s.max.formatsFixed
  direct : ∀ d ∈ r.directRtt, d.1.formatsFixed ∧ d.2.formatsFixed
  relay : ∀ m ∈ r.relayRttMean, m.formatsFixed
  holePunch : ∀ t ∈ r.holePunchTimeS, t.formatsFixed
  reconnect : ∀ m ∈ r.reconnect, m.1.formatsFixed ∧ m.2.formatsFixed
  downtime : ∀ t ∈ r.totalDisconnectedS, t.formatsFixed

section Blocks

variable {r : FileResult}

theorem durationLine_res_iff :
    (durationLine r).res = .ok () ↔ ∀ t ∈ r.durationS, t.formatsFixed := by
  have hdur : (∀ t ∈ r.durationS, t.formatsFixed) ↔ (r.durationS.getD (.int 0)).formatsFixed := by
    cases r.durationS <;> simp
  rw [hdur]
  refine ⟨fun h => ?_, fun h => ?_⟩
  · simp only [durationLine, fixed, bind_res_eq_ok, lift_res] at h
    obtain ⟨p, hp, -⟩ := h
    exact Value.format_fixed_ok_iff.1 ⟨p, hp⟩
  · obtain ⟨y, hy⟩ := Value.trueDiv_int_of_formatsFixed h (n := 60) (by decide)
      (by norm_num [Value.floatLimit])
    obtain ⟨p, hp⟩ := (Value.format_fixed_ok_iff (s := ".0f")).2 h
    simp [durationLine, fixed, hp, hy]

theorem rttLine_res_iff :
    (rttLine r).res = .ok () ↔ ∀ s ∈ r.rtt, s.mean.formatsFixed ∧ s.median.formatsFixed ∧
      s.p95.formatsFixed ∧ s.min.formatsFixed ∧ s.max.formatsFixed := by
  unfold rttLine
  split <;> simp_all [fixed, except_bind_eq_ok]

theorem directLine_res_iff :
    (directLine r).res = .ok () ↔ ∀ d ∈ r.directRtt, d.1.formatsFixed ∧ d.2.formatsFixed := by
  unfold directLine
  split <;> simp_all [fixed, except_bind_eq_ok]

theorem relayLine_res_iff : (relayLine r).res = .ok () ↔ ∀ m ∈ r.relayRttMean, m.formatsFixed := by
  unfold relayLine
  split <;> simp_all [fixed, except_bind_eq_ok]

theorem holePunchLine_res_iff :
    (holePunchLine r).res = .ok () ↔ ∀ t ∈ r.holePunchTimeS, t.formatsFixed := by
  unfold holePunchLine
  split <;> simp_all [fixed, except_bind_eq_ok]

theorem reconnectLine_res_iff :
    (reconnectLine r).res = .ok () ↔ ∀ m ∈ r.reconnect, m.1.formatsFixed ∧ m.2.formatsFixed := by
  unfold reconnectLine
  split <;> simp_all [fixed, except_bind_eq_ok]

theorem downtimeLine_res_iff :
    (downtimeLine r).res = .ok () ↔ ∀ t ∈ r.totalDisconnectedS, t.formatsFixed := by
  unfold downtimeLine
  split <;> simp_all [fixed, except_bind_eq_ok]

end Blocks

/-- `print_single` returns exactly when the values it formats with a fixed-point spec convert to
`float`. -/
theorem printSingle_res_iff (r : FileResult) : (printSingle r).res = .ok () ↔ Renderable r := by
  refine ⟨fun h => ?_, fun h => ?_⟩
  · simp only [printSingle, bind_res, print_res, except_ok_bind, except_bind_eq_ok] at h
    obtain ⟨⟨⟩, hd, ⟨⟩, hr, ⟨⟩, hdi, ⟨⟩, hre, ⟨⟩, hp, ⟨⟩, hc, ⟨⟩, hdn, -⟩ := h
    exact ⟨durationLine_res_iff.1 hd, rttLine_res_iff.1 hr, directLine_res_iff.1 hdi,
      relayLine_res_iff.1 hre, holePunchLine_res_iff.1 hp, reconnectLine_res_iff.1 hc,
      downtimeLine_res_iff.1 hdn⟩
  · simp [printSingle, durationLine_res_iff.2 h.duration, rttLine_res_iff.2 h.rtt,
      directLine_res_iff.2 h.direct, relayLine_res_iff.2 h.relay,
      holePunchLine_res_iff.2 h.holePunch, reconnectLine_res_iff.2 h.reconnect,
      downtimeLine_res_iff.2 h.downtime]

theorem printSingle_res {r : FileResult} (h : Renderable r) : (printSingle r).res = .ok () :=
  (printSingle_res_iff r).2 h

theorem optionalCell_ok {v : Option Value} (h : ∀ t ∈ v, t.formatsFixed) (spec : String) :
    ∃ ps, optionalCell v spec = .ok ps := by
  cases v with
  | none => exact ⟨_, rfl⟩
  | some t =>
    obtain ⟨p, hp⟩ := (Value.format_fixed_ok_iff (s := spec)).2 (h t rfl)
    exact ⟨_, by simp [optionalCell, hp]; rfl⟩

/-- The RTT column shows the direct mean, or else the mean of all RTTs, or else `0`. -/
theorem formatsFixed_rttColumn {r : FileResult} (h : Renderable r) :
    Value.formatsFixed ((r.directRtt.map (·.1)).getD ((r.rtt.map (·.mean)).getD (.int 0))) := by
  cases hd : r.directRtt with
  | some d => exact (h.direct d hd).1
  | none =>
    cases hs : r.rtt with
    | some s => exact (h.rtt s hs).1
    | none => exact Value.formatsFixed_int_zero

theorem comparisonRow_res {r : FileResult} (h : Renderable r) : (comparisonRow r).res = .ok () := by
  obtain ⟨rtt, hrtt⟩ := (Value.format_fixed_ok_iff (s := ".1f")).2 (formatsFixed_rttColumn h)
  obtain ⟨punch, hpunch⟩ := optionalCell_ok h.holePunch ".2f"
  obtain ⟨down, hdown⟩ := optionalCell_ok h.downtime ".1f"
  simp [comparisonRow, fixed, hrtt, hpunch, hdown]

/-- The comparison table renders every list of renderable results but the empty one. -/
theorem printComparison_res {rs : List FileResult} (h : ∀ r ∈ rs, Renderable r) (hne : rs ≠ []) :
    (printComparison rs).res = .ok () := by
  have hmap : rs.map (·.directPct) ≠ [] := by simpa using hne
  obtain ⟨lo, hlo⟩ := Option.ne_none_iff_exists'.1 (List.min?_eq_none_iff.not.2 hmap)
  obtain ⟨hi, hhi⟩ := Option.ne_none_iff_exists'.1 (List.max?_eq_none_iff.not.2 hmap)
  simp [printComparison, forM_res_of_ok fun r hr => comparisonRow_res (h r hr), hlo, hhi]

/-- Below its header the comparison table has one row per result, in order, each from that result
alone, then the mean, least and greatest direct percentage and the totals of disconnections and
reconnections. -/
theorem printComparison_out {rs : List FileResult} (h : ∀ r ∈ rs, Renderable r) {lo hi : ℚ}
    (hlo : (rs.map (·.directPct)).min? = some lo) (hhi : (rs.map (·.directPct)).max? = some hi) :
    (printComparison rs).out.drop 6 = (rs.map fun r => (comparisonRow r).out).flatten ++
      [[], [.text "  Average direct: ", .fixed ".0f" (Statistics.mean (rs.map (·.directPct))),
          .text "%  Min: ", .fixed ".0f" lo, .text "%  Max: ", .fixed ".0f" hi, .text "%"],
        [.text "  Total disconnections: ", .field "" (.int (rs.map (·.disconnections)).sum),
          .text "  reconnections: ", .field "" (.int (rs.map (·.reconnections)).sum)], []] := by
  simp [printComparison, forM_of_ok fun r hr => comparisonRow_res (h r hr), hlo, hhi]

/-! ## The events of one file -/

/-- The numbers the events of one kind carry under `key`. -/
def samples (kind key : String) (events : List Value) : List ℚ :=
  (events.filter (fieldIs "event" kind)).filterMap (numericField key)

/-- The RTTs of the pings that went `via` the path `via`. -/
def pathSamples (via : String) (events : List Value) : List ℚ :=
  ((events.filter (fieldIs "event" "ping")).filter (fieldIs "via" via)).filterMap
    (numericField "rtt_ms")

/-- The events on which `analyze_file` returns: records, whose pings carry a numeric `rtt_ms` and
whose reconnections a numeric `reconnect_time_ms`. -/
structure Analysable (events : List Value) : Prop where
  records : ∀ e ∈ events, isRecord e
  ping : ∀ e ∈ events.filter (fieldIs "event" "ping"), (numericField "rtt_ms" e).isSome
  reconnected : ∀ e ∈ events.filter (fieldIs "event" "reconnected"),
    (numericField "reconnect_time_ms" e).isSome

/-- The fields `print_single` formats as numbers that `analyze_file` copies without reading them as
numbers: numbers, or absent. -/
structure Displayable (events : List Value) : Prop where
  elapsed : ∀ p ∈ (events.filter (fieldIs "event" "ping")).getLast?, numericOrAbsent "elapsed_s" p
  holePunch : ∀ e ∈ (events.filter (fieldIs "event" "hole_punch")).head?,
    numericOrAbsent "time_to_direct_s" e
  downtime : ∀ s ∈ (events.filter (fieldIs "event" "summary")).getLast?,
    numericOrAbsent "total_disconnected_s" s

/-- The statistics of a result are those of the numbers its events carry. -/
structure Summarises (events : List Value) (r : FileResult) : Prop where
  rtt_none : r.rtt = Option.none ↔ samples "ping" "rtt_ms" events = []
  rtt : ∀ s ∈ r.rtt, StatsOf (samples "ping" "rtt_ms" events) s
  direct_none : r.directRtt = Option.none ↔ pathSamples "DIRECT" events = []
  direct : ∀ d ∈ r.directRtt, d.1.num? = some (Statistics.mean (pathSamples "DIRECT" events)) ∧
    d.2.num? = (Statistics.p95 (pathSamples "DIRECT" events)).toOption
  relay_none : r.relayRttMean = Option.none ↔ pathSamples "RELAY" events = []
  relay : ∀ m ∈ r.relayRttMean, m.num? = some (Statistics.mean (pathSamples "RELAY" events))
  reconnect_none : r.reconnect = Option.none ↔ samples "reconnected" "reconnect_time_ms" events = []
  reconnect : ∀ m ∈ r.reconnect,
    m.1.num? = some (Statistics.mean (samples "reconnected" "reconnect_time_ms" events)) ∧
      m.2.num? = (samples "reconnected" "reconnect_time_ms" events).max?

/-- `e.get(key, 0)` of an optional record. -/
theorem getOf_records {e : Option Value} (he : ∀ x ∈ e, isRecord x) (key : String) :
    getOf e key = .ok (e.map (fieldOr key (.int 0))) := by
  cases e with
  | none => rfl
  | some x =>
    obtain ⟨kvs, rfl⟩ := exists_dict_of_isRecord (he x rfl)
    rfl

section Render

variable {qs : List ℚ} {v : Value} (hb : ∀ x ∈ qs, |x| ≤ 10 ^ 150) (hne : qs ≠ [])
include hb hne

theorem formatsFixed_of_mean (hv : v.num? = some (Statistics.mean qs)) : v.formatsFixed :=
  Value.formatsFixed_of_num hv (Statistics.abs_mean_le (List.length_pos.2 hne) hb)

theorem formatsFixed_of_p95 (hv : v.num? = (Statistics.p95 qs).toOption) : v.formatsFixed := by
  obtain ⟨p, hp⟩ := Statistics.p95_of_ne_nil hne
  rw [hp] at hv
  exact Value.formatsFixed_of_num hv (hb p (Statistics.mem_of_p95 hp))

theorem formatsFixed_of_min? (hv : v.num? = qs.min?) : v.formatsFixed := by
  obtain ⟨lo, hlo⟩ := Option.ne_none_iff_exists'.1 (List.min?_eq_none_iff.not.2 hne)
  exact Value.formatsFixed_of_num (hv.trans hlo)
    (hb lo (List.min?_mem (fun a b => min_choice a b) hlo))

theorem formatsFixed_of_max? (hv : v.num? = qs.max?) : v.formatsFixed := by
  obtain ⟨hi, hhi⟩ := Option.ne_none_iff_exists'.1 (List.max?_eq_none_iff.not.2 hne)
  exact Value.formatsFixed_of_num (hv.trans hhi)
    (hb hi (List.max?_mem (fun a b => max_choice a b) hhi))

end Render

/-- `r.get(key, 0)` of a moderate optional record converts to `float` exactly when the record
holds a number under `key`, or nothing. -/
theorem forall_fieldOr_formatsFixed_iff {e : Option Value} (he : ∀ x ∈ e, isRecord x)
    (hme : ∀ x ∈ e, x.moderateFields) (key : String) :
    (∀ t ∈ e.map (fieldOr key (.int 0)), t.formatsFixed) ↔ ∀ x ∈ e, numericOrAbsent key x := by
  rw [← forall_fieldOr_num_iff he key]
  cases e with
  | none => simp
  | some x =>
    obtain ⟨kvs, rfl⟩ := exists_dict_of_isRecord (he _ rfl)
    simp only [Option.map_some', Option.mem_def, Option.some.injEq, forall_eq', fieldOr]
    rw [Value.formatsFixed_of_moderate (Value.moderate_getD (hme _ rfl) key Value.moderate_int_zero)]

section Analysable

variable {events : List Value} (ha : Analysable events) (hm : ∀ e ∈ events, e.moderateFields)
include ha hm

/-- On moderate analysable events `analyze_file` returns. Its statistics are those of the numbers
its events carry, and its optional fields are read from the first hole punch, the last ping and
the last summary. -/
theorem analyzeEvents_of_analysable (path : String) :
    ∃ r, analyzeEvents path events = .ok r ∧ Summarises events r ∧
      r.holePunchTimeS = (events.filter (fieldIs "event" "hole_punch")).head?.map
        (fieldOr "time_to_direct_s" (.int 0)) ∧
      r.durationS = (events.filter (fieldIs "event" "ping")).getLast?.map
        (fieldOr "elapsed_s" (.int 0)) ∧
      r.totalDisconnectedS = (events.filter (fieldIs "event" "summary")).getLast?.map
        (fieldOr "total_disconnected_s" (.int 0)) := by
  have hpings : ∀ e ∈ events.filter (fieldIs "event" "ping"), isRecord e :=
    fun _ he => isRecord_of_mem_filter ha.records he
  have hmp : ∀ e ∈ events.filter (fieldIs "event" "ping"), e.moderateFields :=
    fun e he => hm e (List.mem_of_mem_filter he)
  have hvia : ∀ via, ∀ e ∈ (events.filter (fieldIs "event" "ping")).filter
      (fieldIs "via" via), (numericField "rtt_ms" e).isSome :=
    fun _ e he => ha.ping e (List.mem_of_mem_filter he)
  have hbvia : ∀ via, ∀ x ∈ pathSamples via events, |x| ≤ 10 ^ 150 :=
    fun _ _ hx => abs_le_of_mem_filterMap (fun e he => hmp e (List.mem_of_mem_filter he)) hx
  obtain ⟨dvs, hdvs, hdnum⟩ := mapM_getItem (hvia "DIRECT")
  obtain ⟨rvs, hrvs, hrnum⟩ := mapM_getItem (hvia "RELAY")
  obtain ⟨avs, havs, hanum⟩ := mapM_getItem ha.ping
  obtain ⟨o1, h1, h1none, h1s⟩ := rttStats_num hanum fun _ hx => abs_le_of_mem_filterMap hmp hx
  obtain ⟨o2, h2, h2none, h2s⟩ := directStats_num hdnum (hbvia "DIRECT")
  obtain ⟨o3, h3, h3none, h3s⟩ := relayStats_num hrnum (hbvia "RELAY")
  obtain ⟨o4, h4, h4none, h4s⟩ := reconnectStats_typed ha.reconnected
    fun e he => hm e (List.mem_of_mem_filter he)
  simp only [analyzeEvents, except_ok_bind, ofKind_of_records ha.records,
    select_of_records hpings, rttsOf, hdvs, hrvs, havs, h1, h2, h3, h4,
    getOf_records (head?_records ha.records _), getOf_records (getLast?_records ha.records _)]
  exact ⟨_, rfl, ⟨h1none, h1s, h2none, h2s, h3none, h3s, h4none, h4s⟩, rfl, rfl, rfl⟩

omit ha in
/-- The statistics of a moderate result convert to `float`: each is a sample, or lies between
the least and the greatest sample. -/
theorem Summarises.renders {r : FileResult} (hs : Summarises events r) :
    (∀ s ∈ r.rtt, s.mean.formatsFixed ∧ s.median.formatsFixed ∧ s.p95.formatsFixed ∧
      s.min.formatsFixed ∧ s.max.formatsFixed) ∧
    (∀ d ∈ r.directRtt, d.1.formatsFixed ∧ d.2.formatsFixed) ∧
    (∀ m ∈ r.relayRttMean, m.formatsFixed) ∧
    (∀ m ∈ r.reconnect, m.1.formatsFixed ∧ m.2.formatsFixed) := by
  have hb : ∀ {kind key : String}, ∀ x ∈ (events.filter (fieldIs "event" kind)).filterMap
      (numericField key), |x| ≤ 10 ^ 150 :=
    fun _ hx => abs_le_of_mem_filterMap (fun e he => hm e (List.mem_of_mem_filter he)) hx
  have hbvia : ∀ via, ∀ x ∈ pathSamples via events, |x| ≤ 10 ^ 150 := fun _ _ hx =>
    abs_le_of_mem_filterMap (fun e he => hm e (List.mem_of_mem_filter (List.mem_of_mem_filter he)))
      hx
  refine ⟨fun s hsr => ?_, fun d hd => ?_, fun m hmr => ?_, fun m hmr => ?_⟩
  · have hne : samples "ping" "rtt_ms" events ≠ [] := fun h => by simp [hs.rtt_none.2 h] at hsr
    obtain ⟨h1, h2, h3, h4, h5⟩ := hs.rtt s hsr
    exact ⟨formatsFixed_of_mean hb hne h1, Value.formatsFixed_of_num h2
      (Statistics.abs_median_le (List.length_pos.2 hne) hb), formatsFixed_of_p95 hb hne h3,
      formatsFixed_of_min? hb hne h4, formatsFixed_of_max? hb hne h5⟩
  · have hne : pathSamples "DIRECT" events ≠ [] := fun h => by simp [hs.direct_none.2 h] at hd
    exact ⟨formatsFixed_of_mean (hbvia _) hne (hs.direct d hd).1,
      formatsFixed_of_p95 (hbvia _) hne (hs.direct d hd).2⟩
  · have hne : pathSamples "RELAY" events ≠ [] := fun h => by simp [hs.relay_none.2 h] at hmr
    exact formatsFixed_of_mean (hbvia _) hne (hs.relay m hmr)
  · have hne : samples "reconnected" "reconnect_time_ms" events ≠ [] :=
      fun h => by simp [hs.reconnect_none.2 h] at hmr
    exact ⟨formatsFixed_of_mean hb hne (hs.reconnect m hmr).1,
      formatsFixed_of_max? hb hne (hs.reconnect m hmr).2⟩

/-- The result of moderate analysable events renders exactly when they are displayable: the
statistics convert to `float` already. -/
theorem renderable_iff {path : String} {r : FileResult} (hr : analyzeEvents path events = .ok r) :
    Renderable r ↔ Displayable events := by
  obtain ⟨r', hr', hsum, hpunch, hdur, hdown⟩ := analyzeEvents_of_analysable ha hm path
  obtain rfl : r = r' := Except.ok.inj (hr.symm.trans hr')
  obtain ⟨hrtt, hdirect, hrelay, hrec⟩ := hsum.renders hm
  have hmo : ∀ (p : Value → Bool), ∀ x ∈ (events.filter p).getLast?, x.moderateFields :=
    fun _ x hx => hm x (List.mem_of_mem_filter (List.mem_of_getLast?_eq_some hx))
  have hd := forall_fieldOr_formatsFixed_iff (getLast?_records ha.records (fieldIs "event" "ping"))
    (hmo _) "elapsed_s"
  have hp := forall_fieldOr_formatsFixed_iff (head?_records ha.records (fieldIs "event" "hole_punch"))
    (fun x hx => hm x (List.mem_of_mem_filter (List.mem_of_mem_head? hx))) "time_to_direct_s"
  have hdn := forall_fieldOr_formatsFixed_iff
    (getLast?_records ha.records (fieldIs "event" "summary")) (hmo _) "total_disconnected_s"
  rw [← hdur] at hd
  rw [← hpunch] at hp
  rw [← hdown] at hdn
  exact ⟨fun h => ⟨hd.1 h.duration, hp.1 h.holePunch, hdn.1 h.downtime⟩,
    fun h => ⟨hd.2 h.elapsed, hrtt, hdirect, hrelay, hp.2 h.holePunch, hrec, hdn.2 h.downtime⟩⟩

end Analysable

/-- A result of `analyze_file` comes from records. -/
theorem records_of_analyzeEvents {path : String} {events : List Value} {r : FileResult}
    (h : analyzeEvents path events = .ok r) : ∀ e ∈ events, isRecord e := by
  obtain ⟨pings, hpings, -⟩ := except_bind_eq_ok.1 h
  exact (select_eq_ok hpings).1

/-- Whatever the events, the hole-punch time of a result of `analyze_file` is read from the first
hole punch, later ones ignored; its duration from the last ping; and its downtime from the last
summary, never derived from the disconnections. -/
theorem analyzeEvents_first_and_last {path : String} {events : List Value} {r : FileResult}
    (h : analyzeEvents path events = .ok r) :
    r.holePunchTimeS = (events.filter (fieldIs "event" "hole_punch")).head?.map
        (fieldOr "time_to_direct_s" (.int 0)) ∧
      r.durationS = (events.filter (fieldIs "event" "ping")).getLast?.map
        (fieldOr "elapsed_s" (.int 0)) ∧
      r.totalDisconnectedS = (events.filter (fieldIs "event" "summary")).getLast?.map
        (fieldOr "total_disconnected_s" (.int 0)) := by
  have hrec := records_of_analyzeEvents h
  have hget : ∀ {e : Option Value} {key : String} {w : Option Value}, (∀ x ∈ e, isRecord x) →
      getOf e key = .ok w → w = e.map (fieldOr key (.int 0)) :=
    fun he hw => (Except.ok.inj ((getOf_records he _).symm.trans hw)).symm
  simp only [analyzeEvents, except_ok_bind, ofKind_of_records hrec,
    select_of_records fun _ he => isRecord_of_mem_filter hrec he, except_bind_eq_ok] at h
  obtain ⟨_, -, _, -, _, -, _, -, _, -, _, -, w1, hw1, _, -, w2, hw2, w3, hw3, h⟩ := h
  cases h
  exact ⟨hget (head?_records hrec _) hw1, hget (getLast?_records hrec _) hw2,
    hget (getLast?_records hrec _) hw3⟩

/-! ## The run over all files -/

/-- A file's result depends on that file alone. -/
theorem analyzeFile_frame {fs fs' : FileSystem} {path : String} (h : fs' path = fs path) :
    analyzeFile fs' path = analyzeFile fs path := by
  simp only [analyzeFile, load, h]

/-- What the collecting loop prints for a file: nothing when it is analysed, `SKIP` when it is
missing, and `ERROR` with the message of any other exception. -/
def collectLines (fs : FileSystem) (f : String) : List Line :=
  match analyzeFile fs f with
  | .ok _ => []
  | .error (.fileNotFound _) => [[.text "  [SKIP] ", .text f, .text ": not found"]]
  | .error e => [[.text "  [ERROR] ", .text f, .text ": ", .message e]]

/-- The results the collecting loop keeps: those of the files analysed without an exception, in
the order of the arguments. -/
def collected (fs : FileSystem) (files : List String) : List FileResult :=
  files.filterMap fun f => (analyzeFile fs f).toOption

/-- One iteration of the collecting loop never raises: it prints the file's line and keeps the
file's result, if any. -/
theorem collect_eq (fs : FileSystem) (results : List FileResult) (f : String) :
    collect fs results f = ⟨collectLines fs f, .ok (results ++ (analyzeFile fs f).toOption.toList)⟩ := by
  unfold collect collectLines
  rcases analyzeFile fs f with e | r
  · rw [show (Except.error e : Except PyError FileResult).toOption.toList = [] from rfl,
      List.append_nil]
    cases e <;> rfl
  · rfl

/-- The collecting loop prints each file's line in argument order and keeps the results of the
files analysed without an exception. -/
theorem foldlM_collect (fs : FileSystem) (files : List String) (results : List FileResult) :
    files.foldlM (collect fs) results =
      ⟨files.flatMap (collectLines fs), .ok (results ++ collected fs files)⟩ := by
  induction files generalizing results with
  | nil => simp [collected]; rfl
  | cons f files ih =>
    rw [List.foldlM_cons, collect_eq, mk_ok_bind, ih]
    cases h : analyzeFile fs f <;> simp [collected, List.filterMap_cons, h, Except.toOption]

/-- The rendering after the collecting loop: every `print_single`, then the comparison table for
more than one result. -/
def render (results : List FileResult) : Py Unit := do
  results.forM printSingle
  if results.length > 1 then printComparison results

/-- `main` on at least one path: the collecting loop, then the note and exit 1 when it kept no
result, and otherwise the rendering, whose exceptions escape `main`. -/
theorem main_eq (fs : FileSystem) {argv : List String} (hargs : 2 ≤ argv.length) :
    main fs argv = if (collected fs (argv.drop 1)).isEmpty then
        ⟨(argv.drop 1).flatMap (collectLines fs) ++ [[.text "No valid results to analyze."]],
          .error (.exit 1)⟩
      else ⟨(argv.drop 1).flatMap (collectLines fs) ++ (render (collected fs (argv.drop 1))).out,
        (escape (render (collected fs (argv.drop 1)))).res⟩ := by
  have hlt : ¬argv.length < 2 := by omega
  simp only [main, hlt, if_false, Prog.pure_bind, foldlM_collect, List.nil_append, escape_ok,
    mk_ok_bind]
  split
  · rfl
  · rw [← escape_out (render _), render, ← escape_bind, ite_escape]

/-- When every result renders, `main` prints the collecting loop's lines, each result's section
and, for more than one result, the comparison table. -/
theorem render_of_ok {results : List FileResult}
    (hall : ∀ r ∈ results, (printSingle r).res = .ok ()) :
    render results = ⟨(results.map fun r => (printSingle r).out).flatten ++
      if 1 < results.length then (printComparison results).out else [],
      if 1 < results.length then (printComparison results).res else .ok ()⟩ := by
  rw [render, forM_of_ok hall]
  simp only [gt_iff_lt, mk_ok_bind]
  split <;> simp

/-- The first result that does not render ends the run, after the sections before it. -/
theorem render_of_error {pre post : List FileResult} {r : FileResult} {e : PyError}
    (hpre : ∀ s ∈ pre, (printSingle s).res = .ok ()) (hr : (printSingle r).res = .error e) :
    render (pre ++ r :: post) = ⟨(pre.map fun s => (printSingle s).out).flatten ++
      (printSingle r).out, .error e⟩ := by
  rw [render, forM_of_error hpre hr]
  rfl

/-- `main` exits with status 0 exactly when the collecting loop kept a result and the rendering
of the results raised nothing. -/
theorem exitStatus_main (fs : FileSystem) {argv : List String} (hargs : 2 ≤ argv.length) :
    exitStatus (main fs argv) = 0 ↔ collected fs (argv.drop 1) ≠ [] ∧
      (∀ r ∈ collected fs (argv.drop 1), (printSingle r).res = .ok ()) ∧
      (1 < (collected fs (argv.drop 1)).length →
        (printComparison (collected fs (argv.drop 1))).res = .ok ()) := by
  rw [main_eq fs hargs]
  split
  · simp_all [List.isEmpty_iff]
  · rename_i hne
    simp only [← List.isEmpty_iff, hne, Bool.false_eq_true, ne_eq, not_false_eq_true, true_and, exitStatus_escape, render, bind_res_eq_ok,
      forM_res_eq_ok, gt_iff_lt]
    refine ⟨fun ⟨⟨⟩, hall, hcmp⟩ => ⟨forM_res_eq_ok.1 hall, fun hc => ?_⟩,
      fun ⟨hall, hcmp⟩ => ⟨(), forM_res_eq_ok.2 hall, ?_⟩⟩
    · rwa [if_pos hc] at hcmp
    · split
      · exact hcmp ‹_›
      · rfl

end TomAnalysis.Results
