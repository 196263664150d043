import TomAnalysis.Results.Correctness

/-! # Exactly when the metrics of a file's events are computed and rendered

`analyze_file` returns on a file's events exactly when they are analysable, and `print_single`
renders its result exactly when they are displayable as well, as long as every top-level number
of the events is moderate, so that no conversion to `float` overflows. -/

namespace TomAnalysis.Results

open Events Prog

/-! ## What a returning `analyze_file` has read -/

/-- `statistics.mean` converts every data point. -/
theorem num?_isSome_of_meanOf {vs : List Value} {m : Value} (h : Statistics.meanOf vs = .ok m) :
    ∀ v ∈ vs, v.num?.isSome := by
  unfold Statistics.meanOf at h
  obtain ⟨qs, hqs, -⟩ := except_bind_eq_ok.1 h
  exact Statistics.num?_isSome_of_numbers hqs

/-- The block `if all_rtts:` converts every RTT. -/
theorem num?_isSome_of_rttStats {vs : List Value} {o : Option RttStats} (h : rttStats vs = .ok o) :
    ∀ v ∈ vs, v.num?.isSome := by
  unfold rttStats at h
  split at h
  · simp [List.isEmpty_iff.1 ‹_›]
  · obtain ⟨m, hm, -⟩ := except_bind_eq_ok.1 h
    exact num?_isSome_of_meanOf hm

/-- The block `if reconnects:` subscripts and converts every `reconnect_time_ms`. -/
theorem numericField_of_reconnectStats {rs : List Value} {o : Option (Value × Value)}
    (h : reconnectStats rs = .ok o) : ∀ r ∈ rs, (numericField "reconnect_time_ms" r).isSome := by
  unfold reconnectStats at h
  split at h
  · simp [List.isEmpty_iff.1 ‹_›]
  · obtain ⟨times, htimes, h⟩ := except_bind_eq_ok.1 h
    obtain ⟨m, hm, -⟩ := except_bind_eq_ok.1 h
    exact numericField_of_mapM_getItem htimes (num?_isSome_of_meanOf hm)

/-- Events on which `analyze_file` returns are analysable. -/
theorem analysable_of_analyzeEvents {path : String} {events : List Value} {r : FileResult}
    (h : analyzeEvents path events = .ok r) : Analysable events := by
  have hrec := records_of_analyzeEvents h
  simp only [analyzeEvents, except_ok_bind, ofKind_of_records hrec,
    select_of_records fun _ he => isRecord_of_mem_filter hrec he, except_bind_eq_ok] at h
  obtain ⟨_, -, _, -, avs, havs, _, h1, _, -, _, -, _, -, _, h4, -⟩ := h
  exact ⟨hrec, numericField_of_mapM_getItem havs (num?_isSome_of_rttStats h1),
    numericField_of_reconnectStats h4⟩

/-! ## One file's events -/

section Moderate

variable {events : List Value} (hm : ∀ e ∈ events, e.moderateFields)
include hm

/-- On moderate events `analyze_file` returns exactly when they are analysable. -/
theorem exists_analyzeEvents_iff (path : String) :
    (∃ r, analyzeEvents path events = .ok r) ↔ Analysable events := by
  refine ⟨fun ⟨_, h⟩ => analysable_of_analyzeEvents h, fun ha => ?_⟩
  obtain ⟨r, hr, -⟩ := analyzeEvents_of_analysable ha hm path
  exact ⟨r, hr⟩

/-- The result of `analyze_file` on moderate events renders exactly when they are displayable. -/
theorem printSingle_analyzeEvents_iff {path : String} {r : FileResult}
    (hr : analyzeEvents path events = .ok r) :
    (printSingle r).res = .ok () ↔ Displayable events :=
  (printSingle_res_iff r).trans (renderable_iff (analysable_of_analyzeEvents hr) hm hr)

end Moderate

/-! ## The run over all files -/

theorem mem_collected {fs : FileSystem} {files : List String} {r : FileResult} :
    r ∈ collected fs files ↔ ∃ f ∈ files, analyzeFile fs f = .ok r := by
  simp only [collected, List.mem_filterMap]
  refine exists_congr fun f => and_congr_right fun _ => ?_
  cases analyzeFile fs f <;> simp [Except.toOption]

/-- Every kept result renders exactly when the events of every file analysed without an
exception are displayable, for files of moderate events. -/
theorem collected_render_iff {fs : FileSystem} {files : List String}
    (hm : ∀ f ∈ files, ∀ events, load fs f = .ok events → ∀ e ∈ events, e.moderateFields) :
    (∀ r ∈ collected fs files, (printSingle r).res = .ok ()) ↔
      ∀ f ∈ files, ∀ events, load fs f = .ok events → Analysable events → Displayable events := by
  constructor
  · intro h f hf events hload ha
    obtain ⟨r, hr, -⟩ := analyzeEvents_of_analysable ha (hm f hf events hload) f
    have hfile : analyzeFile fs f = .ok r := by rw [analyzeFile, hload, except_ok_bind, hr]
    exact (printSingle_analyzeEvents_iff (hm f hf events hload) hr).1
      (h r (mem_collected.2 ⟨f, hf, hfile⟩))
  · intro h r hr
    obtain ⟨f, hf, hfr⟩ := mem_collected.1 hr
    obtain ⟨events, hload, hev⟩ := except_bind_eq_ok.1 hfr
    exact (printSingle_analyzeEvents_iff (hm f hf events hload) hev).2
      (h f hf events hload (analysable_of_analyzeEvents hev))

end TomAnalysis.Results
