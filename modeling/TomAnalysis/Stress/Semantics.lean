import TomAnalysis.Events.Semantics
import TomAnalysis.Python.Output
import TomAnalysis.Python.Builtins

/-! # `analyze-stress.py`

Each analyser picks its events, returns at once when there are none, and otherwise prints a
section; `main` runs the four analysers on every path in sorted order. Nothing in this script
catches an exception: a missing file or an ill-typed field ends the whole run. -/

namespace TomAnalysis.Stress

open Prog (print lift escape)

/-- `'─' * 50`. -/
def rule : String :=
  ⟨List.replicate 50 '─'⟩

/-- The three lines that open each section. -/
def header (title label : String) : Py Unit := do
  print [.text ("\n  " ++ rule)]
  print [.text ("  " ++ title ++ " — "), .text label]
  print [.text ("  " ++ rule)]

/-- `r.get(key, default)` formatted with `spec`. -/
def getFormat (r : Value) (key : String) (default : Value) (spec : Spec) : Py Piece :=
  lift (r.get key default >>= Value.format spec)

/-- The RTT lines of `analyze_pings`: `min`, `max` and `statistics.mean` of the samples, and for
more than one sample their median, standard deviation and nearest-rank 95th percentile. -/
def rttLines (rtts : List Value) : Py Unit := do
  let lo ← lift (Builtin.min rtts >>= Value.format (.fixed ".1f"))
  print [.text "  RTT min:        ", lo, .text " ms"]
  let hi ← lift (Builtin.max rtts >>= Value.format (.fixed ".1f"))
  print [.text "  RTT max:        ", hi, .text " ms"]
  let avg ← lift (Statistics.meanOf rtts >>= Value.format (.fixed ".1f"))
  print [.text "  RTT avg:        ", avg, .text " ms"]
  if rtts.length > 1 then
    let median ← lift (Statistics.medianOf rtts >>= Value.format (.fixed ".1f"))
    print [.text "  RTT median:     ", median, .text " ms"]
    let variance ← lift (Statistics.stdevOf rtts)
    print [.text "  RTT stddev:     ", .fixedSqrt ".1f" variance, .text " ms"]
    let p95 ← lift (Statistics.p95Of rtts >>= Value.format (.fixed ".1f"))
    print [.text "  RTT p95:        ", p95, .text " ms"]

/-- The block `if summaries:` of `analyze_pings`, on the last summary `s`. -/
def summaryLines (s : Value) : Py Unit := do
  let total ← lift (s.get "total_pings" (.int 0))
  let ok ← lift (s.get "successful" (.int 0))
  let _fail ← lift (s.get "failed" (.int 0))
  let reconn ← lift (s.get "reconnections" (.int 0))
  if total.truthy then
    let rate ← lift (Value.mulInt 100 ok >>= (·.trueDiv total) >>= Value.format (.fixed ".0f"))
    print [.text "  Success rate:   ", .field "" ok, .text "/", .field "" total, .text " (", rate,
      .text "%)"]
  else
    print [.text ""]
  print [.text "  Reconnections:  ", .field "" reconn]

/-- The block `if path_changes:` of `analyze_pings`. -/
def pathChangeLine (pathChanges : List Value) : Py Unit := do
  let direct ← lift (Events.select "kind" "direct" pathChanges)
  let relay ← lift (Events.select "kind" "relay" pathChanges)
  print [.text "  Path changes:   ", .field "" (.int pathChanges.length), .text " (",
    .field "" (.int direct.length), .text " direct, ", .field "" (.int relay.length),
    .text " relay)"]

/-- `analyze_pings(events, label)`. -/
def analyzePings (events : List Value) (label : String) : Py Unit := do
  let pings ← lift (Events.ofKind "ping" events)
  if pings.isEmpty then pure () else do
  let rtts ← lift (pings.mapM (·.getItem "rtt_ms"))
  let summaries ← lift (Events.ofKind "summary" events)
  let pathChanges ← lift (Events.ofKind "path_change" events)
  header "PING" label
  print [.text "  Total pings:    ", .field "" (.int pings.length)]
  rttLines rtts
  if let some s := summaries.getLast? then summaryLines s
  if pathChanges.isEmpty then pure () else pathChangeLine pathChanges

/-- One round of `analyze_burst`. -/
def burstRound (r : Value) : Py Unit := do
  let sent ← lift (r.get "messages_sent" (.int 0))
  let acked ← lift (r.get "messages_acked" (.int 0))
  let lost ← lift (r.get "lost" (.int 0))
  let size ← lift (r.get "payload_size" (.int 0))
  let mps ← lift (r.get "messages_per_sec" (.int 0))
  let bps ← lift (r.get "bytes_per_sec" (.int 0))
  let elapsed ← lift (r.get "elapsed_ms" (.int 0))
  let round ← lift (r.get "round" (.str "?"))
  print [.text "  Round ", .field "" round, .text ":"]
  print [.text "    Sent/Acked:   ", .field "" sent, .text "/", .field "" acked, .text " (lost: ",
    .field "" lost, .text ")"]
  print [.text "    Payload:      ", .field "" size, .text " bytes"]
  let mpsP ← lift (mps.format (.fixed ".0f"))
  let kbps ← lift (bps.trueDiv (.int 1024) >>= Value.format (.fixed ".1f"))
  print [.text "    Throughput:   ", mpsP, .text " msg/s, ", kbps, .text " KB/s"]
  let elapsedP ← lift (elapsed.format (.fixed ".0f"))
  print [.text "    Duration:     ", elapsedP, .text " ms"]
  let rmin ← getFormat r "rtt_min_ms" (.int 0) (.fixed ".1f")
  let ravg ← getFormat r "rtt_avg_ms" (.int 0) (.fixed ".1f")
  let rmax ← getFormat r "rtt_max_ms" (.int 0) (.fixed ".1f")
  print [.text "    RTT:          ", rmin, .text " / ", ravg, .text " / ", rmax,
    .text " ms (min/avg/max)"]

/-- `analyze_burst(events, label)`: every round verbatim, with no total across rounds. -/
def analyzeBurst (events : List Value) (label : String) : Py Unit := do
  let results ← lift (Events.ofKind "burst_result" events)
  if results.isEmpty then pure () else do
  header "BURST" label
  results.forM burstRound

/-- `size_str`: kilobytes from 1024 bytes on, bytes below. -/
def sizeStr (size : Value) : Except PyError (List Piece) := do
  if ← Value.compare .ge size (.int 1024) then
    let kb ← size.floorDiv (.int 1024)
    pure [.field "" kb, .text "KB"]
  else
    pure [.field "" size, .text "B"]

/-- One row of `analyze_ladder`. -/
def ladderRow (r : Value) : Py Unit := do
  let size ← lift (r.get "size" (.int 0))
  let ok ← lift (r.get "successful" (.int 0))
  let fail ← lift (r.get "failed" (.int 0))
  let rmin := (← lift (r.get "rtt_min_ms" .null)).orElse (.int 0)
  let ravg := (← lift (r.get "rtt_avg_ms" .null)).orElse (.int 0)
  let rmax := (← lift (r.get "rtt_max_ms" .null)).orElse (.int 0)
  let size ← lift (sizeStr size)
  let okP ← lift (ok.format (.width ">4"))
  let failP ← lift (fail.format (.width ">4"))
  let rminP ← lift (rmin.format (.fixed ">9.1f"))
  let ravgP ← lift (ravg.format (.fixed ">9.1f"))
  let rmaxP ← lift (rmax.format (.fixed ">9.1f"))
  print [.text "  ", .nested ">10" size, .text "  ", okP, .text "  ", failP, .text "  ", rminP,
    .text "ms  ", ravgP, .text "ms  ", rmaxP, .text "ms"]

/-- The column titles of the ladder table. -/
def ladderColumns : Line :=
  [.text "  ", .field ">10" (.str "Size"), .text "  ", .field ">4" (.str "OK"), .text "  ",
    .field ">4" (.str "Fail"), .text "  ", .field ">10" (.str "RTT min"), .text "  ",
    .field ">10" (.str "RTT avg"), .text "  ", .field ">10" (.str "RTT max")]

/-- `analyze_ladder(events, label)`: one row per result, in input order. -/
def analyzeLadder (events : List Value) (label : String) : Py Unit := do
  let results ← lift (Events.ofKind "ladder_result" events)
  if results.isEmpty then pure () else do
  header "LADDER" label
  print ladderColumns
  results.forM ladderRow

/-- One trial of `analyze_fanout`. -/
def fanoutTrial (r : Value) : Py Unit := do
  let targets ← lift (r.get "target_count" (.str "?"))
  print [.text "  Targets:       ", .field "" targets]
  let sent ← lift (r.get "total_sent" (.int 0))
  let delivered ← lift (r.get "total_delivered" (.int 0))
  print [.text "  Sent/Delivered: ", .field "" sent, .text "/", .field "" delivered]
  let failed ← lift (r.get "total_failed" (.int 0))
  print [.text "  Failed:        ", .field "" failed]
  let avg ← getFormat r "avg_rtt_ms" (.int 0) (.fixed ".1f")
  print [.text "  Avg RTT:       ", avg, .text " ms"]
  let max ← getFormat r "max_rtt_ms" (.int 0) (.fixed ".1f")
  print [.text "  Max RTT:       ", max, .text " ms"]

/-- `analyze_fanout(events, label)`. -/
def analyzeFanout (events : List Value) (label : String) : Py Unit := do
  let results ← lift (Events.ofKind "fanout_result" events)
  if results.isEmpty then pure () else do
  header "FANOUT" label
  results.forM fanoutTrial

/-- The four analysers on one file's events. -/
def analyzeEvents (events : List Value) (label : String) : Py Unit := do
  analyzePings events label
  analyzeBurst events label
  analyzeLadder events label
  analyzeFanout events label

/-- `f"{p.parent.name}/{p.name}"`. -/
def label (path : String) : String :=
  Events.parentName path ++ "/" ++ Events.pathName path

/-- The body of `main`'s loop for one path: load, then an empty note or the four analysers. -/
def report (fs : FileSystem) (path : String) : Py Unit := do
  let events ← lift (Events.load fs path)
  if events.isEmpty then print [.text "\n  (empty: ", .text (label path), .text ")"]
  else analyzeEvents events (label path)

/-- `sorted(files)`: a stable sort by `<` on strings. -/
def sortPaths (files : List String) : List String :=
  files.insertionSort fun a b => !Value.strLt b.data a.data

/-- The banner `main` prints before the files. -/
def banner (count : Nat) : List Line :=
  [[.text "╔══════════════════════════════════════════════════════╗"],
    [.text "║          tom-stress results analysis                ║"],
    [.text "╚══════════════════════════════════════════════════════╝"],
    [.text "  Files: ", .field "" (.int count)]]

/-- The two lines `main` prints after the files. -/
def footer : List Line :=
  [[.text ("\n  " ++ ⟨List.replicate 50 '═'⟩)], [.text "  Done."]]

/-- `main()`, with `argv` as `sys.argv`: no handler anywhere, so the first exception of any file
ends the run. -/
def main (fs : FileSystem) (argv : List String) : Main Unit := do
  if argv.length < 2 then
    print [.text "Usage: analyze-stress.py <file1.jsonl> [file2.jsonl] ..."]
    throw (Stop.exit 1)
  let files := argv.drop 1
  (banner files.length).forM print
  escape ((sortPaths files).forM (report fs))
  footer.forM print

end TomAnalysis.Stress
