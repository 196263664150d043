import TomAnalysis.Launcher.Semantics

/-! # The counters of the test report

For every results tree whose suites, specs and tests are given as lists of objects, the counters
that `count_specs` updates through `nonlocal` equal the number of tests in all specs of all
suites at every depth, and the numbers of those whose status is exactly `passed`, `failed` and
`skipped`. The tree is described by `Suite`, and `Encodes v t` says that the decoded JSON `v`
lays out the tree `t`, extra keys and any key order allowed. -/

namespace TomAnalysis.Launcher

/-- A results tree: the tests of each spec of a suite, and its child suites. -/
inductive Suite where
  | mk (specs : List (List Value)) (suites : List Suite)

mutual
/-- Every test of every spec of a suite and of its descendants. -/
def Suite.tests : Suite → List Value
  | .mk specs suites => specs.flatten ++ Suite.testsOf suites
/-- Every test of a list of suites. -/
def Suite.testsOf : List Suite → List Value
  | [] => []
  | s :: ss => s.tests ++ Suite.testsOf ss
end

/-- A spec is a dictionary whose `tests`, absent meaning none, lists dictionaries. -/
def SpecEncodes (spec : Value) (tests : List Value) : Prop :=
  ∃ kvs, spec = .dict kvs ∧ (kvs.lookup "tests").getD (.list []) = .list tests ∧
    ∀ test ∈ tests, ∃ d, test = .dict d

/-- A suite is a dictionary whose `specs` and `suites`, absent meaning none, list its specs and
its child suites. -/
inductive Encodes : Value → Suite → Prop
  | mk {kvs : List (String × Value)} {specs children : List Value} {tests : List (List Value)}
      {subs : List Suite}
      (hspecs : (kvs.lookup "specs").getD (.list []) = .list specs)
      (htests : List.Forall₂ SpecEncodes specs tests)
      (hsuites : (kvs.lookup "suites").getD (.list []) = .list children)
      (hsub : List.Forall₂ Encodes children subs) : Encodes (.dict kvs) (.mk tests subs)

/-- Whether a test's `status` is exactly the string `s`. -/
def statusIs (s : String) : Value → Bool
  | .dict kvs => ((kvs.lookup "status").getD .null).eqStr s
  | _ => false

/-- The counts the report should show for a list of tests. -/
def tally (tests : List Value) : Counters :=
  ⟨tests.length, tests.countP (statusIs "passed"), tests.countP (statusIs "failed"),
    tests.countP (statusIs "skipped")⟩

instance : Add Counters :=
  ⟨fun c d => ⟨c.totalTests + d.totalTests, c.passed + d.passed, c.failed + d.failed,
    c.skipped + d.skipped⟩⟩

theorem Counters.add_def (c d : Counters) :
    c + d = ⟨c.totalTests + d.totalTests, c.passed + d.passed, c.failed + d.failed,
      c.skipped + d.skipped⟩ := rfl

theorem Counters.add_assoc (c d e : Counters) : c + d + e = c + (d + e) := by
  simp only [Counters.add_def, Nat.add_assoc]

@[simp] theorem tally_nil : tally [] = ⟨0, 0, 0, 0⟩ := rfl

@[simp] theorem Counters.add_zero (c : Counters) : c + ⟨0, 0, 0, 0⟩ = c := rfl

@[simp] theorem Counters.zero_add (c : Counters) : ⟨0, 0, 0, 0⟩ + c = c := by
  simp only [Counters.add_def, Nat.zero_add]

theorem tally_append (xs ys : List Value) : tally (xs ++ ys) = tally xs + tally ys := by
  simp only [tally, Counters.add_def, List.length_append, List.countP_append]

/-- A status is one of the three strings, or none of them. -/
theorem status_cases (v : Value) :
    v = .str "passed" ∨ v = .str "failed" ∨ v = .str "skipped" ∨
      (v.eqStr "passed" = false ∧ v.eqStr "failed" = false ∧ v.eqStr "skipped" = false) := by
  cases v with
  | str s =>
    by_cases h1 : s = "passed"
    · exact .inl (by rw [h1])
    by_cases h2 : s = "failed"
    · exact .inr (.inl (by rw [h2]))
    by_cases h3 : s = "skipped"
    · exact .inr (.inr (.inl (by rw [h3])))
    exact .inr (.inr (.inr (by simp [Value.eqStr, h1, h2, h3])))
  | _ => simp [Value.eqStr]

/-- No value equals two of the three status strings. -/
theorem eqStr_exclusive (v : Value) :
    (if v.eqStr "passed" then 1 else 0) + (if v.eqStr "failed" then 1 else 0) +
      (if v.eqStr "skipped" then 1 else 0) ≤ 1 := by
  rcases status_cases v with rfl | rfl | rfl | ⟨h1, h2, h3⟩ <;> simp [*]

theorem statusIs_exclusive (t : Value) :
    (if statusIs "passed" t then 1 else 0) + (if statusIs "failed" t then 1 else 0) +
      (if statusIs "skipped" t then 1 else 0) ≤ 1 := by
  cases t with
  | dict kvs => exact eqStr_exclusive _
  | _ => simp [statusIs]

theorem tally_le (tests : List Value) :
    (tally tests).passed + (tally tests).failed + (tally tests).skipped ≤ (tally tests).totalTests := by
  induction tests with
  | nil => simp
  | cons t ts ih =>
    simp only [tally, List.countP_cons, List.length_cons] at ih ⊢
    have := statusIs_exclusive t
    omega

/-! ## The three loops -/

theorem countTest_dict (c : Counters) (d : List (String × Value)) :
    countTest c (.dict d) = .ok (c + tally [.dict d]) := by
  rcases status_cases ((d.lookup "status").getD .null) with h | h | h | ⟨h1, h2, h3⟩ <;>
    simp [countTest, tally, statusIs, Counters.add_def, *]

theorem countTests_eq (c : Counters) {tests : List Value} (h : ∀ test ∈ tests, ∃ d, test = .dict d) :
    countTests c tests = .ok (c + tally tests) := by
  induction tests generalizing c with
  | nil => rfl
  | cons t ts ih =>
    obtain ⟨d, rfl⟩ := h t (List.mem_cons_self _ _)
    rw [countTests, countTest_dict, except_ok_bind, ih _ fun x hx => h x (List.mem_cons_of_mem _ hx),
      Counters.add_assoc, ← tally_append]
    rfl

theorem countSpecList_eq (c : Counters) {specs : List Value} {tests : List (List Value)}
    (h : List.Forall₂ SpecEncodes specs tests) :
    countSpecList c specs = .ok (c + tally tests.flatten) := by
  induction h generalizing c with
  | nil => rfl
  | cons hspec _ ih =>
    obtain ⟨kvs, rfl, hget, hdict⟩ := hspec
    simp only [countSpecList, Value.get_dict, hget, Value.iter, except_ok_bind]
    rw [countTests_eq c hdict, except_ok_bind, ih, List.flatten_cons, tally_append,
      Counters.add_assoc]

/-! ## The recursion over suites -/

theorem foldlM_attach {α β ε : Type} (l : List α) (f : β → α → Except ε β) (b : β) :
    l.attach.foldlM (fun b x => f b x.1) b = l.foldlM f b := by
  rw [← List.foldlM_map, List.attach_map_subtype_val]

/-- `count_specs` adds the tally of every test of the suite and of its descendants. -/
theorem countSpecs_eq {v : Value} {t : Suite} (h : Encodes v t) (c : Counters) :
    countSpecs v c = .ok (c + tally t.tests) := by
  refine @Encodes.rec (fun v t _ => ∀ c, countSpecs v c = .ok (c + tally t.tests))
    (fun vs ts _ => ∀ c,
      vs.foldlM (fun c v => countSpecs v c) c = .ok (c + tally (Suite.testsOf ts)))
    ?_ ?_ ?_ v t h c
  · intro kvs specs children tests subs hspecs htests hsuites _ ih c
    rw [countSpecs]
    simp only [hspecs, Value.iter, except_ok_bind, countSpecList_eq c htests]
    split
    · rename_i hiter
      simp only [hsuites, Except.ok.injEq] at hiter
      subst hiter
      rw [foldlM_attach children (fun c v => countSpecs v c), ih, Suite.tests, tally_append,
        Counters.add_assoc]
    · rename_i hiter
      simp [hsuites] at hiter
  · intro c
    rfl
  · intro v t vs ts _ _ ihv ihvs c
    rw [List.foldlM_cons, ihv, except_ok_bind, ihvs, Suite.testsOf, tally_append,
      Counters.add_assoc]

/-- The top-level loop `for suite in suites: count_specs(suite)`. -/
theorem foldlM_countSpecs {vs : List Value} {ts : List Suite} (h : List.Forall₂ Encodes vs ts)
    (c : Counters) :
    vs.foldlM (fun c v => countSpecs v c) c = .ok (c + tally (Suite.testsOf ts)) := by
  induction h generalizing c with
  | nil => rfl
  | cons hv _ ih =>
    rw [List.foldlM_cons, countSpecs_eq hv, except_ok_bind, ih, Suite.testsOf, tally_append,
      Counters.add_assoc]

theorem reportCounts_eq {results : Value} {suites : List Value} {ts : List Suite}
    (hresults : results.get "suites" (.list []) = .ok (.list suites))
    (henc : List.Forall₂ Encodes suites ts) : reportCounts results = .ok (tally (Suite.testsOf ts)) := by
  simp only [reportCounts, hresults, except_ok_bind, Value.iter]
  rw [foldlM_countSpecs henc, Counters.zero_add]

/-- For a results tree whose suites, specs and tests are lists of objects, `generate_report`'s
counters are the number of tests in all specs of all suites at every depth and the numbers of
those whose status is exactly `passed`, `failed` and `skipped`; so the three never exceed the
total. -/
theorem reportCounts_spec {results : Value} {suites : List Value} {ts : List Suite}
    (hresults : results.get "suites" (.list []) = .ok (.list suites))
    (henc : List.Forall₂ Encodes suites ts) :
    reportCounts results = .ok (tally (Suite.testsOf ts)) ∧
      (tally (Suite.testsOf ts)).passed + (tally (Suite.testsOf ts)).failed +
        (tally (Suite.testsOf ts)).skipped ≤ (tally (Suite.testsOf ts)).totalTests := by
  exact ⟨reportCounts_eq hresults henc, tally_le _⟩

/-- A two-level tree: one test of each counted status and one timed out. -/
theorem reportCounts_two_levels :
    reportCounts (.dict [("suites", .list [.dict [("title", .str "chat"),
      ("specs", .list [.dict [("tests", .list [.dict [("status", .str "passed")],
        .dict [("status", .str "skipped")], .dict [("status", .str "timedOut")]])]]),
      ("suites", .list [.dict [("specs", .list [.dict [("tests",
        .list [.dict [("status", .str "failed")]])]])]])]])]) = .ok ⟨4, 1, 1, 1⟩ := by
  apply And.left (@reportCounts_spec _ _
    [.mk [[.dict [("status", .str "passed")], .dict [("status", .str "skipped")],
      .dict [("status", .str "timedOut")]]] [.mk [[.dict [("status", .str "failed")]]] []]]
    ?_ ?_)
  swap
  · rfl
  · exact .cons (.mk rfl (.cons ⟨_, rfl, rfl, by simp⟩ .nil) rfl
      (.cons (.mk rfl (.cons ⟨_, rfl, rfl, by simp⟩ .nil) rfl .nil) .nil)) .nil

/-! ## The report -/

/-- The messages the launcher logs at `INFO` for the counts `c`. -/
def summaryOf (c : Counters) : List Line :=
  [[.text rule], [.text "TEST RESULTS SUMMARY"], [.text rule],
    [.text "Total:   ", .field "" (.int c.totalTests)],
    [.text "Passed:  ", .field "" (.int c.passed), .text " ✅"],
    [.text "Failed:  ", .field "" (.int c.failed), .text " ❌"],
    [.text "Skipped: ", .field "" (.int c.skipped), .text " ⏭️"], [.text rule]]

/-- What `generate_report` logs. With no results file, a warning. For a file `json.load` rejects,
nothing, and the `JSONDecodeError` propagates. For a results tree, the summary of its counts, then
the path of the HTML report exactly when some test failed. -/
theorem generateReport_cases (reportsDir : String) :
    generateReport reportsDir Option.none =
      ⟨(log [.text "No results file found"] "WARN").out, .ok ()⟩ ∧
    (∀ contents, Json.loads contents = Option.none →
      generateReport reportsDir (some contents) = ⟨[], .error .decode⟩) ∧
    (∀ contents results suites ts, Json.loads contents = some results →
      results.get "suites" (.list []) = .ok (.list suites) → List.Forall₂ Encodes suites ts →
      generateReport reportsDir (some contents) =
        ⟨((summaryOf (tally (Suite.testsOf ts))).map fun m => (log m "INFO").out).flatten ++
          if ∃ t ∈ Suite.testsOf ts, statusIs "failed" t then
            (log [.text "HTML Report: ", .text (reportsDir ++ "/html/index.html")] "WARN").out
          else [], .ok ()⟩) := by
  refine ⟨rfl, fun contents h => by simp [generateReport, h], fun contents results suites ts hjson
    hresults henc => ?_⟩
  have hfailed : 0 < (tally (Suite.testsOf ts)).failed ↔
      ∃ t ∈ Suite.testsOf ts, statusIs "failed" t := List.countP_pos_iff
  simp only [generateReport, hjson, Prog.lift_ok_bind, reportCounts_eq hresults henc, log,
    Prog.print_bind, gt_iff_lt, hfailed]
  split <;> simp [summaryOf]

end TomAnalysis.Launcher
