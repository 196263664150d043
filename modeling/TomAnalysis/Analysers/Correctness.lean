import TomAnalysis.Stress.Correctness
import TomAnalysis.Results.Correctness

/-! # The per-file and per-batch contracts of the two analysers

What loading drops, which record shapes the analysers accept, and how a batch of files runs, for
`analyze-stress.py` and `analyze-results.py` side by side. -/

namespace TomAnalysis.Analysers

open Events Prog

/-- The line `{"event": "ping", "rtt_ms": 7}`. -/
def pingLine : String :=
  "\x7b\"event\": \"ping\", \"rtt_ms\": 7\x7d"

/-- The record `pingLine` decodes to. -/
def pingRecord : Value :=
  .dict [("event", .str "ping"), ("rtt_ms", .int 7)]

/-- A run directory holding only `run/b.jsonl`, whose one line is `pingLine`. -/
def onlyB : FileSystem :=
  fun p => if p = "run/b.jsonl" then some [pingLine] else Option.none

/-! ## Lines that are not records -/

/-- A line that decodes to nothing, wherever it is, changes neither analysis of its file. -/
theorem undecodable_line_dropped {fs fs' : FileSystem} {path line : String}
    {pre post : List String} (hfs : fs path = some (pre ++ post))
    (hfs' : fs' path = some (pre ++ line :: post)) (hline : decodeLine line = Option.none) :
    Stress.report fs' path = Stress.report fs path ∧
      Results.analyzeFile fs' path = Results.analyzeFile fs path := by
  have hload : load fs' path = load fs path := by
    simp only [load, hfs, hfs', decodeLines_drop hline]
  exact ⟨by simp only [Stress.report, hload], by simp only [Results.analyzeFile, hload]⟩

/-- A line that decodes to a JSON value other than an object is kept, and then makes both
analyses of its file raise `AttributeError` at the first selection by kind, wherever it is. -/
theorem nonRecord_line_raises {fs : FileSystem} {path line : String} {pre post : List String}
    {v : Value} (hfs : fs path = some (pre ++ line :: post)) (hline : decodeLine line = some v)
    (hv : isRecord v = false) :
    (∃ t, (Stress.report fs path).res = .error (.attribute t "get")) ∧
      ∃ t, Results.analyzeFile fs path = .error (.attribute t "get") := by
  have hmem : v ∈ decodeLines (pre ++ line :: post) := by
    simp only [decodeLines, List.filterMap_append, List.filterMap_cons, hline]
    exact List.mem_append_right _ (List.mem_cons_self _ _)
  obtain ⟨t, ht⟩ := select_eq_error hmem hv "event" "ping"
  have hload : load fs path = .ok (decodeLines (pre ++ line :: post)) := by
    simp only [load, hfs]
  have hne : (decodeLines (pre ++ line :: post)).isEmpty = false :=
    List.isEmpty_eq_false_iff_exists_mem.2 ⟨v, hmem⟩
  refine ⟨⟨t, ?_⟩, ⟨t, ?_⟩⟩
  · simp only [Stress.report, hload, lift_ok_bind, hne, Bool.false_eq_true, if_false,
      Stress.analyzeEvents, Stress.analyzePings, ofKind, ht, bind_res, lift_res]
    rfl
  · simp only [Results.analyzeFile, hload, except_ok_bind, Results.analyzeEvents, ofKind, ht]
    rfl

/-- The line `42` alone: both analyses raise, where the file without it is analysed. -/
theorem nonRecord_line_raises_42 :
    (∃ t, (Stress.report (fun _ => some ["42"]) "run/ping.jsonl").res =
        .error (.attribute t "get")) ∧
      (∃ t, Results.analyzeFile (fun _ => some ["42"]) "run/ping.jsonl" =
        .error (.attribute t "get")) ∧
      (Stress.report (fun _ => some []) "run/ping.jsonl").res = .ok () ∧
      (Results.analyzeFile (fun _ => some []) "run/ping.jsonl").toOption.isSome :=
  have h := @nonRecord_line_raises (fun _ => some ["42"]) "run/ping.jsonl" "42" [] [] (.int 42)
    rfl rfl rfl
  ⟨h.1, h.2, rfl, rfl⟩

/-! ## Record shapes -/

/-- A ping record without `rtt_ms`: both analyses raise `KeyError`. -/
theorem ping_without_rtt_raises :
    (Stress.analyzeEvents [.dict [("event", .str "ping")]] "run/ping.jsonl").res =
        .error (.key "rtt_ms") ∧
      Results.analyzeFile (fun _ => some ["\x7b\"event\": \"ping\"\x7d"]) "run/ping.jsonl" =
        .error (.key "rtt_ms") :=
  ⟨rfl, rfl⟩

/-- On moderate records whose fields hold what the code reads them as, both analyses of a file's
events and the rendering of its result run to the end, and each statistic is that of the numbers
the records of its kind carry. -/
theorem typed_records_analysed {events : List Value} (hm : ∀ e ∈ events, e.moderateFields)
    (label path : String) :
    (Stress.Typed events →
      (Stress.analyzeEvents events label).res = .ok () ∧
        (events.filter (fieldIs "event" "ping") ≠ [] →
          List.IsInfix (Stress.rttBlock (Results.samples "ping" "rtt_ms" events))
            (Stress.analyzeEvents events label).out)) ∧
    (Results.Analysable events → Results.Displayable events →
      ∃ r, Results.analyzeEvents path events = .ok r ∧ (Results.printSingle r).res = .ok () ∧
        Results.Summarises events r) := by
  refine ⟨fun ht => Stress.analyzeEvents_typed ht hm label, fun ha hd => ?_⟩
  obtain ⟨r, hr, hsum, -⟩ := Results.analyzeEvents_of_analysable ha hm path
  exact ⟨r, hr, (Results.printSingle_res_iff r).2 ((Results.renderable_iff ha hm hr).2 hd), hsum⟩

/-- One ping with a numeric `rtt_ms`. -/
theorem typed_records_analysed_ping :
    (∀ e ∈ [pingRecord], e.moderateFields) ∧ Stress.Typed [pingRecord] ∧
      Results.Analysable [pingRecord] ∧ Results.Displayable [pingRecord] ∧
      (Stress.analyzeEvents [pingRecord] "run/ping.jsonl").res = .ok () ∧
      ∃ r, Results.analyzeEvents "run/ping.jsonl" [pingRecord] = .ok r ∧
        (Results.printSingle r).res = .ok () := by
  have hm : ∀ e ∈ [pingRecord], e.moderateFields := by decide
  have hs : Stress.Typed [pingRecord] := by constructor <;> decide
  have ha : Results.Analysable [pingRecord] := by constructor <;> decide
  have hd : Results.Displayable [pingRecord] := by constructor <;> decide
  obtain ⟨hstress, hresults⟩ := typed_records_analysed hm "run/ping.jsonl" "run/ping.jsonl"
  obtain ⟨r, hr, hrender, -⟩ := hresults ha hd
  exact ⟨hm, hs, ha, hd, (hstress hs).1, r, hr, hrender⟩

/-! ## A batch of files -/

/-- A missing first path and a second file with a ping: `analyze-stress.py` stops at the missing
file with status 1 after its banner, and never prints the second file's section, which is not
empty. -/
theorem missing_file_stops_stress_run :
    exitStatus (Stress.main onlyB ["analyze-stress.py", "run/a.jsonl", "run/b.jsonl"]) = 1 ∧
      (Stress.main onlyB ["analyze-stress.py", "run/a.jsonl", "run/b.jsonl"]).out =
        Stress.banner 2 ∧
      (Stress.report onlyB "run/b.jsonl").res = .ok () ∧
      (Stress.report onlyB "run/b.jsonl").out.isEmpty = false := by
  have ht : Stress.Typed [pingRecord] := by constructor <;> decide
  have hrep : Stress.report onlyB "run/b.jsonl" =
      Stress.analyzeEvents [pingRecord] (Stress.label "run/b.jsonl") := by
    simp only [Stress.report, show load onlyB "run/b.jsonl" = .ok [pingRecord] from rfl,
      lift_ok_bind, List.isEmpty_cons, Bool.false_eq_true, if_false]
  obtain ⟨hres, hblock⟩ := Stress.analyzeEvents_typed ht (by decide) (Stress.label "run/b.jsonl")
  obtain ⟨pre, post, hout⟩ := hblock (List.cons_ne_nil pingRecord [])
  refine ⟨rfl, rfl, hrep ▸ hres, ?_⟩
  rw [hrep, ← hout]
  cases pre <;> rfl

/-- How a batch runs. Each file's section and result depend on that file alone. In
`analyze-stress.py` the files run in sorted order and the first exception ends the run with
status 1; with none it exits 0. In `analyze-results.py` the collecting loop prints only each
file's own line; with no result `main` exits 1, and otherwise it renders the results outside any
handler: every section, then the comparison table for more than one result, up to the first
exception, which ends the run. -/
theorem batch_runs (fs : FileSystem) {argv : List String} (hargs : 2 ≤ argv.length) :
    (∀ (fs' : FileSystem) (f : String), fs' f = fs f →
      Stress.report fs' f = Stress.report fs f ∧
        Results.analyzeFile fs' f = Results.analyzeFile fs f) ∧
    (exitStatus (Stress.main fs argv) = 0 ↔
      ∀ f ∈ Stress.sortPaths (argv.drop 1), (Stress.report fs f).res = .ok ()) ∧
    ((∀ f ∈ Stress.sortPaths (argv.drop 1), (Stress.report fs f).res = .ok ()) →
      (Stress.main fs argv).out = Stress.banner (argv.drop 1).length ++
        ((Stress.sortPaths (argv.drop 1)).map fun f => (Stress.report fs f).out).flatten ++
        Stress.footer) ∧
    (∀ pre f post e, Stress.sortPaths (argv.drop 1) = pre ++ f :: post →
      (∀ g ∈ pre, (Stress.report fs g).res = .ok ()) → (Stress.report fs f).res = .error e →
      Stress.main fs argv = ⟨Stress.banner (argv.drop 1).length ++
        (pre.map fun g => (Stress.report fs g).out).flatten ++ (Stress.report fs f).out,
        .error (.raise e)⟩) ∧
    Results.main fs argv = (if (Results.collected fs (argv.drop 1)).isEmpty then
        ⟨(argv.drop 1).flatMap (Results.collectLines fs) ++
          [[.text "No valid results to analyze."]], .error (.exit 1)⟩
      else ⟨(argv.drop 1).flatMap (Results.collectLines fs) ++
          (Results.render (Results.collected fs (argv.drop 1))).out,
        (escape (Results.render (Results.collected fs (argv.drop 1)))).res⟩) ∧
    (∀ results : List Results.FileResult,
      (∀ r ∈ results, (Results.printSingle r).res = .ok ()) →
      Results.render results = ⟨(results.map fun r => (Results.printSingle r).out).flatten ++
        (if 1 < results.length then (Results.printComparison results).out else []),
        if 1 < results.length then (Results.printComparison results).res else .ok ()⟩) ∧
    (∀ pre r post e, (∀ s ∈ pre, (Results.printSingle s).res = .ok ()) →
      (Results.printSingle r).res = .error e →
      Results.render (pre ++ r :: post) = ⟨(pre.map fun s => (Results.printSingle s).out).flatten ++
        (Results.printSingle r).out, .error e⟩) ∧
    (exitStatus (Results.main fs argv) = 0 ↔ Results.collected fs (argv.drop 1) ≠ [] ∧
      (∀ r ∈ Results.collected fs (argv.drop 1), (Results.printSingle r).res = .ok ()) ∧
      (1 < (Results.collected fs (argv.drop 1)).length →
        (Results.printComparison (Results.collected fs (argv.drop 1))).res = .ok ())) :=
  ⟨fun _ _ h => ⟨Stress.report_frame h, Results.analyzeFile_frame h⟩,
    Stress.exitStatus_main fs hargs, fun hall => by rw [Stress.main_of_ok fs hargs hall],
    fun _ _ _ _ hsplit hpre hf => Stress.main_of_error fs hargs hsplit hpre hf,
    Results.main_eq fs hargs, fun _ => Results.render_of_ok,
    fun _ _ _ _ => Results.render_of_error, Results.exitStatus_main fs hargs⟩

/-- Two paths, the first missing: the status of `analyze-results.py`. -/
theorem batch_runs_two_paths :
    2 ≤ ["analyze-results.py", "run/a.jsonl", "run/b.jsonl"].length ∧
      (exitStatus (Results.main onlyB ["analyze-results.py", "run/a.jsonl", "run/b.jsonl"]) = 0 ↔
        Results.collected onlyB ["run/a.jsonl", "run/b.jsonl"] ≠ [] ∧
          (∀ r ∈ Results.collected onlyB ["run/a.jsonl", "run/b.jsonl"],
            (Results.printSingle r).res = .ok ()) ∧
          (1 < (Results.collected onlyB ["run/a.jsonl", "run/b.jsonl"]).length →
            (Results.printComparison (Results.collected onlyB ["run/a.jsonl", "run/b.jsonl"])).res =
              .ok ())) :=
  ⟨by decide, (batch_runs _ (by decide)).2.2.2.2.2.2.2⟩

end TomAnalysis.Analysers
