import TomAnalysis.Events.Semantics
import TomAnalysis.Python.Output
import TomAnalysis.Python.Builtins

/-! # `analyze-results.py`

`analyze_file` loads one file and returns a dictionary of metrics; its keys are fixed, and the
optional ones are present exactly when the events they summarise are, so the dictionary is a
structure with `Option` fields. `main` collects the results under a handler, one file at a
time, and only then renders them, outside any handler. -/

namespace TomAnalysis.Results

open Prog (print lift escape)

/-- The keys `rtt_mean`, `rtt_median`, `rtt_p95`, `rtt_min` and `rtt_max`, set together. -/
structure RttStats where
  mean : Value
  median : Value
  p95 : Value
  min : Value
  max : Value

/-- The dictionary `analyze_file` returns; `directRtt` holds `direct_rtt_mean` and
`direct_rtt_p95`, and `reconnect` holds `reconnect_mean_ms` and `reconnect_max_ms`. -/
structure FileResult where
  file : String
  totalPings : Nat
  directPings : Nat
  relayPings : Nat
  directPct : ℚ
  pathChanges : Nat
  holePunches : Nat
  disconnections : Nat
  reconnections : Nat
  rtt : Option RttStats
  directRtt : Option (Value × Value)
  relayRttMean : Option Value
  holePunchTimeS : Option Value
  reconnect : Option (Value × Value)
  durationS : Option Value
  totalDisconnectedS : Option Value

/-- `[p["rtt_ms"] for p in pings]`. -/
def rttsOf (pings : List Value) : Except PyError (List Value) :=
  pings.mapM (·.getItem "rtt_ms")

/-- The block `if all_rtts:`: mean, median, p95, min and max, in this order. -/
def rttStats (rtts : List Value) : Except PyError (Option RttStats) :=
  if rtts.isEmpty then pure Option.none else do
  let mean ← Statistics.meanOf rtts
  let median ← Statistics.medianOf rtts
  let p95 ← Statistics.p95Of rtts
  let lo ← Builtin.min rtts
  let hi ← Builtin.max rtts
  pure (some ⟨mean, median, p95, lo, hi⟩)

/-- The block `if direct_rtts:`. -/
def directStats (rtts : List Value) : Except PyError (Option (Value × Value)) :=
  if rtts.isEmpty then pure Option.none else do
  let mean ← Statistics.meanOf rtts
  let p95 ← Statistics.p95Of rtts
  pure (some (mean, p95))

/-- The block `if relay_rtts:`. -/
def relayStats (rtts : List Value) : Except PyError (Option Value) :=
  if rtts.isEmpty then pure Option.none else some <$> Statistics.meanOf rtts

/-- The block `if reconnects:`. -/
def reconnectStats (reconnects : List Value) : Except PyError (Option (Value × Value)) :=
  if reconnects.isEmpty then pure Option.none else do
  let times ← reconnects.mapM (·.getItem "reconnect_time_ms")
  let mean ← Statistics.meanOf times
  let hi ← Builtin.max times
  pure (some (mean, hi))

/-- `e.get(key, 0)` of the event `e`, when there is one. -/
def getOf (e : Option Value) (key : String) : Except PyError (Option Value) :=
  match e with
  | some e => some <$> e.get key (.int 0)
  | Option.none => pure Option.none

/-- `analyze_file(filepath)` after its loading loop, on the events it loaded. -/
def analyzeEvents (filepath : String) (events : List Value) : Except PyError FileResult := do
  let pings ← Events.ofKind "ping" events
  let pathChanges ← Events.ofKind "path_change" events
  let holePunches ← Events.ofKind "hole_punch" events
  let disconnects ← Events.ofKind "disconnected" events
  let reconnects ← Events.ofKind "reconnected" events
  let summaries ← Events.ofKind "summary" events
  let directPings ← Events.select "via" "DIRECT" pings
  let relayPings ← Events.select "via" "RELAY" pings
  let directRtts ← rttsOf directPings
  let relayRtts ← rttsOf relayPings
  let allRtts ← rttsOf pings
  let rtt ← rttStats allRtts
  let directRtt ← directStats directRtts
  let relayRttMean ← relayStats relayRtts
  let holePunchTimeS ← getOf holePunches.head? "time_to_direct_s"
  let reconnect ← reconnectStats reconnects
  let durationS ← getOf pings.getLast? "elapsed_s"
  let totalDisconnectedS ← getOf summaries.getLast? "total_disconnected_s"
  pure {
    file := Events.pathName filepath
    totalPings := pings.length
    directPings := directPings.length
    relayPings := relayPings.length
    directPct := if pings.isEmpty then 0 else directPings.length / pings.length * 100
    pathChanges := pathChanges.length
    holePunches := holePunches.length
    disconnections := disconnects.length
    reconnections := reconnects.length
    rtt, directRtt, relayRttMean, holePunchTimeS, reconnect, durationS, totalDisconnectedS }

/-- `analyze_file(filepath)`: the loading loop, then the metrics of the events. -/
def analyzeFile (fs : FileSystem) (filepath : String) : Except PyError FileResult :=
  Events.load fs filepath >>= analyzeEvents filepath

/-- `'=' * n`. -/
def rule (n : Nat) : String :=
  ⟨List.replicate n '='⟩

/-- `f"{v:spec}"` for a fixed-point `spec`. -/
def fixed (v : Value) (spec : String) : Py Piece :=
  lift (v.format (.fixed spec))

/-- The duration line of `print_single`: `duration_s`, `0` when absent, in seconds and in
minutes. -/
def durationLine (r : FileResult) : Py Unit := do
  let dur := r.durationS.getD (.int 0)
  let durP ← fixed dur ".0f"
  let minutes ← lift (dur.trueDiv (.int 60) >>= Value.format (.fixed ".1f"))
  print [.text "  Duration:        ", durP, .text "s (", minutes, .text " min)"]

/-- The block `if "rtt_mean" in r:` of `print_single`. -/
def rttLine (r : FileResult) : Py Unit :=
  if let some s := r.rtt then do
    let mean ← fixed s.mean ".1f"
    let median ← fixed s.median ".1f"
    let p95 ← fixed s.p95 ".1f"
    let lo ← fixed s.min ".1f"
    let hi ← fixed s.max ".1f"
    print [.text "  RTT (all):       mean=", mean, .text "ms  median=", median, .text "ms  p95=",
      p95, .text "ms  min=", lo, .text "ms  max=", hi, .text "ms"]
  else pure ()

/-- The block `if "direct_rtt_mean" in r:` of `print_single`. -/
def directLine (r : FileResult) : Py Unit :=
  if let some (mean, p95) := r.directRtt then do
    let meanP ← fixed mean ".1f"
    let p95P ← fixed p95 ".1f"
    print [.text "  RTT (direct):    mean=", meanP, .text "ms  p95=", p95P, .text "ms"]
  else pure ()

/-- The block `if "relay_rtt_mean" in r:` of `print_single`. -/
def relayLine (r : FileResult) : Py Unit :=
  if let some mean := r.relayRttMean then do
    let meanP ← fixed mean ".1f"
    print [.text "  RTT (relay):     mean=", meanP, .text "ms"]
  else pure ()

/-- The block `if "hole_punch_time_s" in r:` of `print_single`. -/
def holePunchLine (r : FileResult) : Py Unit :=
  if let some t := r.holePunchTimeS then do
    let tP ← fixed t ".2f"
    print [.text "  Hole punch:      ", tP, .text "s"]
  else pure ()

/-- The block `if "reconnect_mean_ms" in r:` of `print_single`. -/
def reconnectLine (r : FileResult) : Py Unit :=
  if let some (mean, hi) := r.reconnect then do
    let meanP ← fixed mean ".0f"
    let hiP ← fixed hi ".0f"
    print [.text "  Reconnect time:  mean=", meanP, .text "ms  max=", hiP, .text "ms"]
  else pure ()

/-- The block `if "total_disconnected_s" in r:` of `print_single`. -/
def downtimeLine (r : FileResult) : Py Unit :=
  if let some t := r.totalDisconnectedS then do
    let tP ← fixed t ".1f"
    print [.text "  Total downtime:  ", tP, .text "s"]
  else pure ()

/-- `print_single(r)`. -/
def printSingle (r : FileResult) : Py Unit := do
  print [.text ("\n" ++ rule 60)]
  print [.text "  ", .text r.file]
  print [.text (rule 60)]
  print []
  durationLine r
  print [.text "  Total pings:     ", .field "" (.int r.totalPings)]
  print [.text "  Direct:          ", .field "" (.int r.directPings), .text " (",
    .fixed ".0f" r.directPct, .text "%)"]
  print [.text "  Relay:           ", .field "" (.int r.relayPings)]
  print []
  rttLine r
  directLine r
  relayLine r
  print []
  holePunchLine r
  print [.text "  Path changes:    ", .field "" (.int r.pathChanges)]
  print [.text "  Disconnections:  ", .field "" (.int r.disconnections)]
  print [.text "  Reconnections:   ", .field "" (.int r.reconnections)]
  reconnectLine r
  downtimeLine r
  print []

/-- `f"{v:spec}"` for an optional key, and `"-"` when it is absent. -/
def optionalCell (v : Option Value) (spec : String) : Except PyError (List Piece) :=
  match v with
  | some v => do pure [← v.format (.fixed spec)]
  | Option.none => pure [.text "-"]

/-- One row of the comparison table. -/
def comparisonRow (r : FileResult) : Py Unit := do
  let name := (r.file.replace ".jsonl" "").take 29
  let rtt ← fixed ((r.directRtt.map (·.1)).getD ((r.rtt.map (·.mean)).getD (.int 0))) ".1f"
  let punch ← lift (optionalCell r.holePunchTimeS ".2f")
  let down ← lift (optionalCell r.totalDisconnectedS ".1f")
  print [.field "<30" (.str name), .text " ", .field ">6" (.int r.totalPings), .text " ",
    .fixed ">7.0f" r.directPct, .text "% ", .nested ">8" [rtt], .text " ",
    .nested ">8" punch, .text " ", .field ">7" (.int r.disconnections), .text " ",
    .field ">7" (.int r.reconnections), .text " ", .nested ">8" down]

/-- `print_comparison(results)`. -/
def printComparison (results : List FileResult) : Py Unit := do
  print [.text ("\n" ++ rule 100)]
  print [.text "  COMPARISON TABLE"]
  print [.text (rule 100)]
  print []
  print [.field "<30" (.str "Scenario"), .text " ", .field ">6" (.str "Pings"), .text " ",
    .field ">8" (.str "Direct%"), .text " ", .field ">8" (.str "RTT ms"), .text " ",
    .field ">8" (.str "Punch s"), .text " ", .field ">7" (.str "Discon"), .text " ",
    .field ">7" (.str "Recon"), .text " ", .field ">8" (.str "Down s")]
  print [.text ⟨List.replicate 100 '-'⟩]
  results.forM comparisonRow
  print []
  let allDirect := results.map (·.directPct)
  match allDirect.min?, allDirect.max? with
  | some lo, some hi =>
    print [.text "  Average direct: ", .fixed ".0f" (Statistics.mean allDirect), .text "%  Min: ",
      .fixed ".0f" lo, .text "%  Max: ", .fixed ".0f" hi, .text "%"]
  | _, _ => throw (.statistics "mean requires at least one data point")
  print [.text "  Total disconnections: ", .field "" (.int (results.map (·.disconnections)).sum),
    .text "  reconnections: ", .field "" (.int (results.map (·.reconnections)).sum)]
  print []

/-- One iteration of `main`'s first loop: `results.append(analyze_file(f))` under its two
handlers. -/
def collect (fs : FileSystem) (results : List FileResult) (f : String) : Py (List FileResult) :=
  tryCatch (do pure (results ++ [← lift (analyzeFile fs f)])) fun
    | .fileNotFound _ => do
      print [.text "  [SKIP] ", .text f, .text ": not found"]
      pure results
    | e => do
      print [.text "  [ERROR] ", .text f, .text ": ", .message e]
      pure results

/-- `main()`, with `argv` as `sys.argv`. -/
def main (fs : FileSystem) (argv : List String) : Main Unit := do
  if argv.length < 2 then
    print [.text "Usage: python3 analyze-results.py <file.jsonl> [file2.jsonl ...]"]
    throw (Stop.exit 1)
  let files := argv.drop 1
  let results ← escape (files.foldlM (collect fs) [])
  if results.isEmpty then
    print [.text "No valid results to analyze."]
    throw (Stop.exit 1)
  escape (results.forM printSingle)
  if results.length > 1 then escape (printComparison results)

end TomAnalysis.Results
