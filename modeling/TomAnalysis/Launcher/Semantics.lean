import TomAnalysis.Python.Json
import TomAnalysis.Python.Output

/-! # The test report of the E2E launcher

`generate_report` loads Playwright's `results.json` and walks its suites with the nested
function `count_specs`, which updates four counters through `nonlocal` and recurses into child
suites. The counters are threaded explicitly here. The launcher's process orchestration (servers,
browsers, signals) is not modelled. -/

namespace TomAnalysis.Launcher

/-- The counters `generate_report` declares and `count_specs` updates. -/
structure Counters where
  totalTests : Nat
  passed : Nat
  failed : Nat
  skipped : Nat
  deriving Repr, DecidableEq

/-- The body of the innermost loop: `total_tests += 1`, then the counter of the test's status. -/
def countTest (c : Counters) (test : Value) : Except PyError Counters := do
  let c := { c with totalTests := c.totalTests + 1 }
  let status ← test.get "status" .null
  pure <|
    if status.eqStr "passed" then { c with passed := c.passed + 1 }
    else if status.eqStr "failed" then { c with failed := c.failed + 1 }
    else if status.eqStr "skipped" then { c with skipped := c.skipped + 1 }
    else c

/-- `for test in spec.get("tests", []): ...`. -/
def countTests (c : Counters) : List Value → Except PyError Counters
  | [] => .ok c
  | test :: tests => do
    let c ← countTest c test
    countTests c tests

/-- `for spec in suite.get("specs", []): ...`. -/
def countSpecList (c : Counters) : List Value → Except PyError Counters
  | [] => .ok c
  | spec :: specs => do
    let tests ← (← spec.get "tests" (.list [])).iter
    let c ← countTests c tests
    countSpecList c specs

theorem sizeOf_add_two_le {α : Type} [SizeOf α] {a : α} {l : List α} (h : a ∈ l) :
    sizeOf a + 2 ≤ sizeOf l := by
  induction l with
  | nil => simp at h
  | cons b l ih =>
    rcases List.mem_cons.1 h with rfl | h
    · have : 1 ≤ sizeOf l := by cases l <;> simp; omega
      simp
      omega
    · have := ih h
      simp
      omega

/-- An item of `for x in v` is no larger than `v`. -/
theorem sizeOf_iter_le {v : Value} {items : List Value} (h : v.iter = .ok items) {x : Value}
    (hx : x ∈ items) : sizeOf x ≤ sizeOf v := by
  cases v with
  | list xs =>
    simp only [Value.iter, Except.ok.injEq] at h
    subst h
    have := List.sizeOf_lt_of_mem hx
    simp
    omega
  | dict kvs =>
    simp only [Value.iter, Except.ok.injEq] at h
    subst h
    obtain ⟨⟨k, w⟩, hm, rfl⟩ := List.mem_map.1 hx
    have := List.sizeOf_lt_of_mem hm
    simp at this ⊢
    omega
  | str s =>
    simp only [Value.iter, Except.ok.injEq] at h
    subst h
    obtain ⟨c, hc, rfl⟩ := List.mem_map.1 hx
    have := sizeOf_add_two_le hc
    obtain ⟨l⟩ := s
    simp [String.singleton, String.push] at this ⊢
    omega
  | _ => simp [Value.iter] at h

theorem sizeOf_lookup_lt {kvs : List (String × Value)} {k : String} {v : Value}
    (h : kvs.lookup k = some v) : sizeOf v < sizeOf (Value.dict kvs) := by
  obtain ⟨l₁, l₂, rfl, -⟩ := List.lookup_eq_some_iff.1 h
  have := List.sizeOf_lt_of_mem (List.mem_append_right l₁ (List.mem_cons_self (k, v) l₂))
  simp at this ⊢
  omega

/-- A child suite is smaller than its parent: the recursion of `count_specs` terminates. -/
theorem sizeOf_child_lt {kvs : List (String × Value)} {children : List Value}
    (h : ((kvs.lookup "suites").getD (.list [])).iter = .ok children) {child : Value}
    (hc : child ∈ children) : sizeOf child < sizeOf (Value.dict kvs) := by
  cases hl : kvs.lookup "suites" with
  | none =>
    simp only [hl, Option.getD_none, Value.iter, Except.ok.injEq] at h
    simp [← h] at hc
  | some v =>
    simp only [hl, Option.getD_some] at h
    exact lt_of_le_of_lt (sizeOf_iter_le h hc) (sizeOf_lookup_lt hl)

/-- `count_specs(suite)`: count the tests of every spec of `suite`, then recurse into each child
suite. -/
def countSpecs (suite : Value) (c : Counters) : Except PyError Counters :=
  match suite with
  | .dict kvs => do
    let specs ← ((kvs.lookup "specs").getD (.list [])).iter
    let c ← countSpecList c specs
    match h : ((kvs.lookup "suites").getD (.list [])).iter with
    | .ok children => children.attach.foldlM (fun c child => countSpecs child.1 c) c
    | .error e => .error e
  | v => .error (.attribute v.typeName "get")
termination_by sizeOf suite
decreasing_by exact sizeOf_child_lt h child.2

/-- `for suite in suites: count_specs(suite)` from zeroed counters, after
`suites = results.get("suites", [])`. -/
def reportCounts (results : Value) : Except PyError Counters := do
  let suites ← (← results.get "suites" (.list [])).iter
  suites.foldlM (fun c suite => countSpecs suite c) ⟨0, 0, 0, 0⟩

/-- `log(message, level)`: the time, the level, then the message. -/
def log (message : Line) (level : String) : Py Unit :=
  Prog.print ([.text "[", .clock, .text "] [", .text level, .text "] "] ++ message)

/-- `"=" * 50`. -/
def rule : String :=
  ⟨List.replicate 50 '='⟩

/-- `generate_report()`, given the contents of `results.json` if that file exists, and the
reports directory that the HTML report path is built from. -/
def generateReport (reportsDir : String) (resultsFile : Option String) : Py Unit :=
  match resultsFile with
  | none => log [.text "No results file found"] "WARN"
  | some contents => do
    let results ← Prog.lift (match Json.loads contents with
      | some v => .ok v
      | none => .error .decode)
    let c ← Prog.lift (reportCounts results)
    log [.text rule] "INFO"
    log [.text "TEST RESULTS SUMMARY"] "INFO"
    log [.text rule] "INFO"
    log [.text "Total:   ", .field "" (.int c.totalTests)] "INFO"
    log [.text "Passed:  ", .field "" (.int c.passed), .text " ✅"] "INFO"
    log [.text "Failed:  ", .field "" (.int c.failed), .text " ❌"] "INFO"
    log [.text "Skipped: ", .field "" (.int c.skipped), .text " ⏭️"] "INFO"
    log [.text rule] "INFO"
    if c.failed > 0 then
      log [.text "HTML Report: ", .text (reportsDir ++ "/html/index.html")] "WARN"

end TomAnalysis.Launcher
