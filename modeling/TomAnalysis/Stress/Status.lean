import TomAnalysis.Stress.Correctness

/-! # Exactly when the stress analysers return

`Typed` is enough for the four analysers to return on moderate records; `Runs` is exactly what
they need. The two differ only in the ping section, which reads the last summary only when there
are pings. On moderate records the analysers return exactly when the records satisfy `Runs`. -/

namespace TomAnalysis.Stress

open Events Prog

/-- The events on which the four analysers return, kind by kind. -/
structure Runs (events : List Value) : Prop where
  records : ∀ e ∈ events, isRecord e
  ping : ∀ e ∈ events.filter (fieldIs "event" "ping"), (numericField "rtt_ms" e).isSome
  summary : events.filter (fieldIs "event" "ping") ≠ [] →
    ∀ s ∈ (events.filter (fieldIs "event" "summary")).getLast?, rateOperands s
  burst : ∀ e ∈ events.filter (fieldIs "event" "burst_result"), ∀ key ∈ burstNumbers,
    numericOrAbsent key e
  ladder : ∀ e ∈ events.filter (fieldIs "event" "ladder_result"), ladderTyped e
  fanout : ∀ e ∈ events.filter (fieldIs "event" "fanout_result"), ∀ key ∈ fanoutNumbers,
    numericOrAbsent key e

/-! ## Each section -/

/-- The ping section selects by kind before anything else, so it raises on a value that is not a
record. -/
theorem records_of_analyzePings {events : List Value} {label : String}
    (h : (analyzePings events label).res = .ok ()) : ∀ e ∈ events, isRecord e := by
  simp only [analyzePings, bind_res_eq_ok, lift_res] at h
  obtain ⟨_, hp, -⟩ := h
  exact (select_eq_ok hp).1

/-- A section over the events of one kind returns exactly when each event's lines return. -/
theorem section_res_iff {events : List Value} (hrec : ∀ e ∈ events, isRecord e)
    {kind title : String} (body : Value → Py Unit) (label : String) :
    (do
      let results ← lift (ofKind kind events)
      if results.isEmpty then pure () else do
      header title label
      results.forM body : Py Unit).res = .ok () ↔
      ∀ e ∈ events.filter (fieldIs "event" kind), (body e).res = .ok () := by
  rw [ofKind_of_records hrec]
  simp only [lift_ok_bind]
  split
  · simp_all [List.isEmpty_iff]
  · simp [header, forM_res_eq_ok]

section Records

variable {events : List Value} (hrec : ∀ e ∈ events, isRecord e)
  (hm : ∀ e ∈ events, e.moderateFields)
include hrec hm

/-- On moderate records the ping section returns exactly when every ping holds a numeric
`rtt_ms` and, when there are pings, the last summary's success rate can be computed. -/
theorem analyzePings_res_iff (label : String) :
    (analyzePings events label).res = .ok () ↔
      (∀ e ∈ events.filter (fieldIs "event" "ping"), (numericField "rtt_ms" e).isSome) ∧
      (events.filter (fieldIs "event" "ping") ≠ [] →
        ∀ s ∈ (events.filter (fieldIs "event" "summary")).getLast?, rateOperands s) := by
  by_cases hne : events.filter (fieldIs "event" "ping") = []
  · simp [analyzePings, ofKind_of_records hrec, hne]
  refine ⟨fun h => ?_, fun ⟨hping, hsum⟩ => by
    rw [analyzePings_eq hrec hm hping (hsum hne) label hne]⟩
  simp only [analyzePings, ofKind_of_records hrec, lift_ok_bind, List.isEmpty_iff, hne, if_false,
    header, bind_assoc, print_bind, bind_res_eq_ok, lift_res] at h
  obtain ⟨rtts, hrtts, _, -, ⟨⟩, hrtt, hrest⟩ := h
  refine ⟨numericField_of_mapM_getItem hrtts (num?_isSome_of_rttLines hrtt), fun _ s hs => ?_⟩
  simp only [Option.mem_def.1 hs, bind_res_eq_ok] at hrest
  obtain ⟨_, hs', -⟩ := hrest
  have hsmem := List.mem_of_getLast?_eq_some hs
  exact (summaryLines_res_iff (isRecord_of_mem_filter hrec hsmem)
    (hm s (List.mem_of_mem_filter hsmem))).1 hs'

theorem analyzeBurst_res_iff (label : String) :
    (analyzeBurst events label).res = .ok () ↔
      ∀ e ∈ events.filter (fieldIs "event" "burst_result"), ∀ key ∈ burstNumbers,
        numericOrAbsent key e :=
  (section_res_iff hrec burstRound label).trans (forall₂_congr fun _ he =>
    burstRound_res_iff (isRecord_of_mem_filter hrec he) (hm _ (List.mem_of_mem_filter he)))

theorem analyzeLadder_res_iff (label : String) :
    (analyzeLadder events label).res = .ok () ↔
      ∀ e ∈ events.filter (fieldIs "event" "ladder_result"), ladderTyped e := by
  rw [analyzeLadder, ofKind_of_records hrec]
  simp only [lift_ok_bind]
  split
  · simp_all [List.isEmpty_iff]
  · simp only [header, bind_res, print_res, except_ok_bind, forM_res_eq_ok]
    exact forall₂_congr fun _ he =>
      ladderRow_res_iff (isRecord_of_mem_filter hrec he) (hm _ (List.mem_of_mem_filter he))

theorem analyzeFanout_res_iff (label : String) :
    (analyzeFanout events label).res = .ok () ↔
      ∀ e ∈ events.filter (fieldIs "event" "fanout_result"), ∀ key ∈ fanoutNumbers,
        numericOrAbsent key e :=
  (section_res_iff hrec fanoutTrial label).trans (forall₂_congr fun _ he =>
    fanoutTrial_res_iff (isRecord_of_mem_filter hrec he) (hm _ (List.mem_of_mem_filter he)))

end Records

/-! ## The four analysers -/

/-- On moderate values the four analysers return exactly on the events that satisfy `Runs`. -/
theorem analyzeEvents_res_iff {events : List Value} (hm : ∀ e ∈ events, e.moderateFields)
    (label : String) : (analyzeEvents events label).res = .ok () ↔ Runs events := by
  refine ⟨fun h => ?_, fun h => ?_⟩
  · simp only [analyzeEvents, bind_res_eq_ok] at h
    obtain ⟨⟨⟩, hp, ⟨⟩, hb, ⟨⟩, hl, hf⟩ := h
    have hrec := records_of_analyzePings hp
    obtain ⟨hping, hsum⟩ := (analyzePings_res_iff hrec hm label).1 hp
    exact ⟨hrec, hping, hsum, (analyzeBurst_res_iff hrec hm label).1 hb,
      (analyzeLadder_res_iff hrec hm label).1 hl, (analyzeFanout_res_iff hrec hm label).1 hf⟩
  · rw [analyzeEvents, bind_of_ok ((analyzePings_res_iff h.records hm label).2 ⟨h.ping, h.summary⟩),
      bind_of_ok ((analyzeBurst_res_iff h.records hm label).2 h.burst),
      bind_of_ok ((analyzeLadder_res_iff h.records hm label).2 h.ladder)]
    exact (analyzeFanout_res_iff h.records hm label).2 h.fanout

end TomAnalysis.Stress
