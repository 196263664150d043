import TomAnalysis.Launcher.Window

/-! # The launcher's exit status when no signal comes

`Returns` and `Raises` say how code ends when no signal is pending, and are kept by the
combinators the launcher is written with. One lemma per phase gives its outcome, and
`exitStatus_undisturbed` assembles them: a run without a signal exits with the status
`expectedStatus` gives, a decision on the system's answers written from the specification. -/

namespace TomAnalysis.Launcher

variable {α β : Type}

/-! ## Runs with no signal pending -/

/-- From a world with no signal pending, `m` returns a value satisfying `p`, and none is pending
after it. -/
def Returns (m : Launch α) (p : α → Prop) : Prop :=
  ∀ w, w.signal = Option.none → ∃ a w', m w = .ok a w' ∧ p a ∧ w'.signal = Option.none

/-- From a world with no signal pending, `m` raises `e`, and none is pending after it. -/
def Raises (m : Launch α) (e : Abort) : Prop :=
  ∀ w, w.signal = Option.none → ∃ w', m w = .error e w' ∧ w'.signal = Option.none

section Calm

variable {env : Env} {x : Launch α} {f : α → Launch β} {p : α → Prop} {q : β → Prop} {e : Abort}

theorem returns_pure (a : α) : Returns (pure a : Launch α) (· = a) := fun w hw =>
  ⟨a, w, rfl, rfl, hw⟩

theorem raises_throw (e : Abort) : Raises (throw e : Launch α) e := fun w hw => ⟨w, rfl, hw⟩

theorem Returns.mono {q : α → Prop} (hx : Returns x p) (h : ∀ a, p a → q a) : Returns x q := fun w hw =>
  let ⟨a, w', hm, ha, hw'⟩ := hx w hw
  ⟨a, w', hm, h a ha, hw'⟩

theorem Returns.bind (hx : Returns x p) (hf : ∀ a, p a → Returns (f a) q) : Returns (x >>= f) q := by
  intro w hw
  obtain ⟨a, w1, h1, ha, hw1⟩ := hx w hw
  rw [bind_apply, h1]
  exact hf a ha w1 hw1

theorem Returns.bind_raises (hx : Returns x p) (hf : ∀ a, p a → Raises (f a) e) :
    Raises (x >>= f) e := by
  intro w hw
  obtain ⟨a, w1, h1, ha, hw1⟩ := hx w hw
  rw [bind_apply, h1]
  exact hf a ha w1 hw1

theorem Raises.bind (hx : Raises x e) : Raises (x >>= f) e := by
  intro w hw
  obtain ⟨w1, h1, hw1⟩ := hx w hw
  exact ⟨w1, by rw [bind_apply, h1], hw1⟩

theorem returns_atomic (h : Returns x p) : Returns (atomic env x) p := fun w hw => by
  rw [atomic_of_not_due (by simp [hw])]
  exact h _ hw

theorem raises_atomic (h : Raises x e) : Raises (atomic env x) e := fun w hw => by
  rw [atomic_of_not_due (by simp [hw])]
  exact h _ hw

theorem returns_emit {r : Py Unit} (h : r.res = .ok ()) : Returns (emit r) fun _ => True :=
  fun w hw => ⟨(), { w with out := w.out ++ r.out }, by simp only [emit, h], trivial, hw⟩

theorem raises_emit {r : Py Unit} {e : PyError} (h : r.res = .error e) : Raises (emit r) (.report e) :=
  fun w hw => ⟨{ w with out := w.out ++ r.out }, by simp only [emit, h], hw⟩

theorem returns_log (m : Line) (level : String) : Returns (emit (log m level)) fun _ => True :=
  fun w hw => ⟨(), _, emit_log m level w, trivial, hw⟩

theorem returns_tryFinally {h : Launch Unit} (hx : Returns x p) (hh : Returns h fun _ => True) :
    Returns (tryFinally x h) p := by
  intro w hw
  obtain ⟨a, w1, h1, ha, hw1⟩ := hx w hw
  obtain ⟨_, w2, h2, -, hw2⟩ := hh w1 hw1
  exact ⟨a, w2, by rw [tryFinally_apply, h1]; dsimp only; rw [h2], ha, hw2⟩

theorem raises_tryFinally {h : Launch Unit} (hx : Raises x e) (hh : Returns h fun _ => True) :
    Raises (tryFinally x h) e := by
  intro w hw
  obtain ⟨w1, h1, hw1⟩ := hx w hw
  obtain ⟨_, w2, h2, -, hw2⟩ := hh w1 hw1
  exact ⟨w2, by rw [tryFinally_apply, h1]; dsimp only; rw [h2], hw2⟩

theorem returns_forM {l : List β} {g : β → Launch Unit} (hg : ∀ b ∈ l, Returns (g b) fun _ => True) :
    Returns (l.forM g) fun _ => True := by
  induction l with
  | nil => exact fun w hw => ⟨(), w, rfl, trivial, hw⟩
  | cons b l ih =>
    show Returns (g b >>= fun _ => l.forM g) _
    exact (hg b (List.mem_cons_self _ _)).bind fun _ _ =>
      ih fun c hc => hg c (List.mem_cons_of_mem _ hc)

theorem returns_stop (pid : Nat) : Returns (stop env pid) fun _ => True :=
  fun _ hw => ⟨(), _, rfl, trivial, hw⟩

/-- `cleanup()` returns when no signal comes. -/
theorem returns_cleanup : Returns (cleanup env) fun _ => True := by
  refine (returns_atomic (returns_log _ _)).bind fun _ _ w hw => ?_
  rw [bind_apply, get_apply]
  exact ((returns_forM fun pid _ => returns_atomic (returns_stop pid)).bind
    fun _ _ w hw => ⟨(), w, rfl, trivial, hw⟩) w hw

/-! ## The phases, undisturbed -/

theorem returns_checkDependencies :
    Returns (checkDependencies env) (· = (env.pnpm && env.playwright.isSome)) := by
  refine (returns_atomic (returns_log _ _)).bind fun _ _ =>
    (returns_atomic (returns_pure _)).bind fun b hb => ?_
  subst hb
  cases env.pnpm
  · exact (returns_atomic (returns_log _ _)).bind fun _ _ => returns_pure _
  · refine (returns_atomic (returns_pure _)).bind fun v hv => ?_
    subst hv
    cases env.playwright
    all_goals exact (returns_atomic (returns_log _ _)).bind fun _ _ => returns_pure _

theorem returns_runTests (args : Args) : Returns (runTests env args) (· = env.testCode) :=
  (returns_atomic (returns_log _ _)).bind fun _ _ => (returns_atomic (returns_log _ _)).bind
    fun _ _ => returns_atomic (returns_pure _)

theorem returns_serverPrefix (hb : env.built ∨ env.buildOk) (port : Nat) :
    Returns (serverPrefix env port) fun _ => True := by
  refine (returns_atomic (returns_log _ _)).bind fun _ _ =>
    (returns_atomic (returns_pure _)).bind fun b hb' => ?_
  subst hb'
  cases hbuilt : env.built
  · have hk : env.buildOk := by simpa [hbuilt] using hb
    refine (returns_atomic (returns_log _ _)).bind fun _ _ => returns_atomic ?_
    simp only [hk, if_true]
    exact (returns_pure _).mono fun _ _ => trivial
  · exact (returns_pure _).mono fun _ _ => trivial

theorem raises_serverPrefix (hb : ¬(env.built ∨ env.buildOk)) (port : Nat) :
    Raises (serverPrefix env port) .buildFailed := by
  simp only [not_or, Bool.not_eq_true] at hb
  refine (returns_atomic (returns_log _ _)).bind_raises fun _ _ =>
    (returns_atomic (returns_pure _)).bind_raises fun b hb' => ?_
  subst hb'
  simp only [hb.1, hb.2, Bool.not_false, if_true, Bool.false_eq_true, if_false]
  exact (returns_atomic (returns_log _ _)).bind_raises fun _ _ => raises_atomic (raises_throw _)

/-- When it can be built, `start_signaling_server` returns `None` exactly when the server does not
stay up. -/
theorem returns_startSignalingServer (hb : env.built ∨ env.buildOk) (port : Nat) :
    Returns (startSignalingServer env port) fun s => s.isNone = !env.serverUp := by
  rw [startSignalingServer_eq]
  refine (returns_serverPrefix hb port).bind fun _ _ w hw => ?_
  rw [bind_apply, atomic_of_not_due (by simp [hw])]
  dsimp only [spawn]
  rw [bind_apply, atomic_of_not_due (by simp [hw])]
  simp only [modify_apply]
  cases env.serverUp <;> simp [serverTail, atomic, poll, emit_log, hw] <;>
    exact ⟨_, _, ⟨rfl, rfl⟩, rfl, rfl⟩

end Calm

/-! ## `main`, undisturbed -/

/-- The exit status of a run of the launcher with no signal, in the words of its specification: a
report-only run exits with 0 once its report is printed; any other run exits with 1 when `pnpm` or
Playwright is missing, or when it starts the signalling server and the server can neither be found
built nor be built, or does not stay up; otherwise with the test run's return code. An exception
of the report makes the status 1. -/
def expectedStatus (env : Env) (reportsDir : String) (args : Args) : Nat :=
  let reported := (generateReport reportsDir env.resultsFile).res.isOk
  if args.reportOnly then (if reported then 0 else 1)
  else if !(env.pnpm && env.playwright.isSome) then 1
  else if !args.noServer && !(env.built || env.buildOk) then 1
  else if !args.noServer && !env.serverUp then 1
  else if reported then (env.testCode % 256).toNat else 1

section Main

variable {env : Env} {reportsDir : String} {args : Args} {w : World} {p : Int → Prop} {e : Abort}

theorem exitStatus_of_returns {m : Launch Int} {c : Int} (h : Returns m (· = c))
    (hw : w.signal = Option.none) : exitStatus (m w) = (c % 256).toNat := by
  obtain ⟨_, _, hm, rfl, -⟩ := h w hw
  rw [hm]
  rfl

theorem exitStatus_of_raises {m : Launch Int} (h : Raises m e) (hw : w.signal = Option.none) :
    exitStatus (m w) = exitStatus (.error e w : EStateM.Result Abort World Int) := by
  obtain ⟨_, hm, -⟩ := h w hw
  rw [hm]
  cases e <;> rfl

/-- The tests and the report, when the report returns. -/
theorem returns_tests (h : (generateReport reportsDir env.resultsFile).res = .ok ()) :
    Returns (testsAndReport env reportsDir args) (· = env.testCode) :=
  (returns_runTests args).bind fun _ hc =>
    (returns_atomic (returns_emit h)).bind fun _ _ => hc ▸ returns_pure _

theorem raises_tests {r : PyError} (h : (generateReport reportsDir env.resultsFile).res = .error r) :
    Raises (testsAndReport env reportsDir args) (.report r) :=
  (returns_runTests args).bind_raises fun _ _ => (raises_atomic (raises_emit h)).bind

/-- When the signalling server is not asked for, or is built and stays up, the body of `main`'s
`try` comes down to the tests and the report. -/
theorem mainBody_runs_tests (reportsDir : String)
    (hs : args.noServer = false → (env.built ∨ env.buildOk) ∧ env.serverUp)
    (hw : w.signal = Option.none) : ∃ w', w'.signal = Option.none ∧
      mainBody env reportsDir args w = testsAndReport env reportsDir args w' := by
  cases hn : args.noServer
  · obtain ⟨hb, hu⟩ := hs hn
    obtain ⟨s, w1, h1, hs1, hw1⟩ := returns_startSignalingServer hb 3000 w hw
    refine ⟨w1, hw1, ?_⟩
    simp only [hu, Bool.not_true] at hs1
    simp only [mainBody, hn, Bool.not_false, if_true]
    rw [bind_apply, h1]
    simp only [hs1, Bool.false_eq_true, if_false]
    rfl
  · exact ⟨w, hw, by simp only [mainBody, hn, Bool.not_true, Bool.false_eq_true, if_false]; rfl⟩

theorem returns_mainBody (hs : args.noServer = false → (env.built ∨ env.buildOk) ∧ env.serverUp)
    (h : Returns (testsAndReport env reportsDir args) p) :
    Returns (mainBody env reportsDir args) p := fun w hw => by
  obtain ⟨w', hw', he⟩ := mainBody_runs_tests reportsDir hs hw
  rw [he]
  exact h w' hw'

theorem raises_mainBody (hs : args.noServer = false → (env.built ∨ env.buildOk) ∧ env.serverUp)
    (h : Raises (testsAndReport env reportsDir args) e) :
    Raises (mainBody env reportsDir args) e := fun w hw => by
  obtain ⟨w', hw', he⟩ := mainBody_runs_tests reportsDir hs hw
  rw [he]
  exact h w' hw'

/-- A server that cannot be built raises `CalledProcessError` out of the body. -/
theorem raises_mainBody_build (hn : args.noServer = false) (hb : ¬(env.built ∨ env.buildOk)) :
    Raises (mainBody env reportsDir args) .buildFailed := by
  unfold mainBody
  simp only [hn, Bool.not_false, if_true, startSignalingServer_eq]
  exact (raises_serverPrefix hb 3000).bind.bind

/-- A server that does not stay up makes the body return 1. -/
theorem returns_mainBody_down (hn : args.noServer = false) (hb : env.built ∨ env.buildOk)
    (hu : env.serverUp = false) : Returns (mainBody env reportsDir args) (· = 1) := by
  unfold mainBody
  simp only [hn, Bool.not_false, if_true]
  refine (returns_startSignalingServer hb 3000).bind fun s hs => ?_
  simp only [hu, Bool.not_false] at hs
  simp only [hs, if_true]
  exact returns_pure 1

/-- Once the dependencies are found, `main` comes down to its `try` and `finally`. -/
theorem main_runs_try (hr : args.reportOnly = false)
    (hd : (env.pnpm && env.playwright.isSome) = true) (hw : w.signal = Option.none) :
    ∃ w', w'.signal = Option.none ∧
      main env reportsDir args w = tryFinally (mainBody env reportsDir args) (cleanup env) w' := by
  obtain ⟨_, w1, h1, rfl, hw1⟩ := returns_checkDependencies w hw
  refine ⟨{ w1 with clock := w1.clock + 1 }, hw1, ?_⟩
  rw [main_eq, if_neg (by simp [hr]), bind_apply, h1]
  simp only [hd, Bool.not_true, Bool.false_eq_true, if_false]
  rw [bind_apply, atomic_of_not_due (by simp [hw1])]
  rfl

theorem returns_main_missing (hr : args.reportOnly = false)
    (hd : (env.pnpm && env.playwright.isSome) = false) :
    Returns (main env reportsDir args) (· = 1) := by
  rw [main_eq, if_neg (by simp [hr])]
  refine returns_checkDependencies.bind fun _ h => ?_
  simp only [h, hd, Bool.not_false, if_true]
  exact returns_pure 1

/-- Without a signal, the launcher exits with the status its specification gives. -/
theorem exitStatus_undisturbed (env : Env) (reportsDir : String) (args : Args) :
    exitStatus (launch env reportsDir args Option.none) = expectedStatus env reportsDir args := by
  have hw : (⟨[], [], [], 0, Option.none⟩ : World).signal = Option.none := rfl
  have tests : ∀ w : World, w.signal = Option.none →
      (args.noServer = false → (env.built ∨ env.buildOk) ∧ env.serverUp) →
      exitStatus (tryFinally (mainBody env reportsDir args) (cleanup env) w) =
        if (generateReport reportsDir env.resultsFile).res.isOk then (env.testCode % 256).toNat
        else 1 := by
    intro w hw hs
    rcases hrep : (generateReport reportsDir env.resultsFile).res with r | _
    · rw [exitStatus_of_raises (raises_tryFinally (raises_mainBody hs (raises_tests hrep))
        returns_cleanup) hw]
      rfl
    · rw [exitStatus_of_returns (returns_tryFinally (returns_mainBody hs (returns_tests hrep))
        returns_cleanup) hw]
      rfl
  rw [launch]
  cases hr : args.reportOnly
  · by_cases hd : (env.pnpm && env.playwright.isSome) = true
    · obtain ⟨w', hw', hm⟩ := main_runs_try hr hd hw
      rw [hm]
      cases hn : args.noServer
      · by_cases hb : env.built ∨ env.buildOk
        · have hbo : (env.built || env.buildOk) = true := by simpa using hb
          cases hu : env.serverUp
          · rw [exitStatus_of_returns (returns_tryFinally (returns_mainBody_down hn hb hu)
              returns_cleanup) hw']
            simp [expectedStatus, hr, hd, hn, hu, hbo]
          · rw [tests w' hw' fun _ => ⟨hb, hu⟩]
            simp [expectedStatus, hr, hd, hn, hu, hbo]
        · rw [exitStatus_of_raises (raises_tryFinally (raises_mainBody_build hn hb) returns_cleanup) hw']
          have hbo : (env.built || env.buildOk) = false := by simpa using hb
          simp [expectedStatus, hr, hd, hn, hbo, exitStatus]
      · rw [tests w' hw' (by simp [hn])]
        simp [expectedStatus, hr, hd, hn]
    · rw [exitStatus_of_returns (returns_main_missing hr (by simpa using hd)) hw]
      simp [expectedStatus, hr, hd]
  · rw [main_eq, if_pos hr]
    rcases hrep : (generateReport reportsDir env.resultsFile).res with r | _
    · rw [exitStatus_of_raises ((raises_atomic (raises_emit hrep)).bind) hw]
      simp [expectedStatus, hr, hrep, exitStatus, Except.isOk, Except.toBool]
    · rw [exitStatus_of_returns ((returns_atomic (returns_emit hrep)).bind fun _ _ => returns_pure 0) hw]
      simp [expectedStatus, hr, hrep, Except.isOk, Except.toBool]

end Main

end TomAnalysis.Launcher
