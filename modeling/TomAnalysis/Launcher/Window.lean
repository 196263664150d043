import TomAnalysis.Launcher.Cleanup

/-! # The window in which a signal leaves the signalling server running

`start_signaling_server` starts the server with `subprocess.Popen` and only then appends it to
`processes`. A SIGINT or SIGTERM handled between the two runs `cleanup`, which stops the children of
`processes` only, and exits: the server outlives the launcher. Counting the main thread's atomic
steps from 0, the `append` is step 8 when `dist` exists and step 10 when the server is built first.
`running_after_launch_iff` shows that this is the only way a run leaves a child running.

The proofs count steps on the path that returns: `checkDependencies_true` and `serverPrefix_ok` say
how many atomic steps a phase that returns has run, `checkDependencies_run` and `serverPrefix_run`
that it returns when no signal is due in them, and `Keeps` covers every other way a phase can end. -/

namespace TomAnalysis.Launcher

variable {α β : Type}

/-! ## Steps that return -/

theorem bind_eq_ok {x : Launch α} {f : α → Launch β} {w w' : World} {b : β} :
    (x >>= f) w = .ok b w' ↔ ∃ a w1, x w = .ok a w1 ∧ f a w1 = .ok b w' := by
  rw [bind_apply]
  rcases x w with ⟨a, w1⟩ | ⟨e, w1⟩ <;> simp
  exact ⟨fun h => ⟨a, w1, ⟨rfl, rfl⟩, h⟩, fun ⟨_, _, ⟨h1, h2⟩, h⟩ => h1 ▸ h2 ▸ h⟩

/-- An atomic step returns exactly when no signal is due at it and its action returns. -/
theorem atomic_eq_ok {env : Env} {act : Launch α} {w w' : World} {a : α} :
    atomic env act w = .ok a w' ↔
      w.signal ≠ some w.clock ∧ act { w with clock := w.clock + 1 } = .ok a w' := by
  by_cases hs : w.signal = some w.clock
  · simp [atomic_of_due hs, onSignal_apply, hs]
  · simp [atomic_of_not_due hs, hs]

theorem emit_log_eq_ok {m : Line} {level : String} {w w' : World} {u : Unit} :
    emit (log m level) w = .ok u w' ↔ { w with out := w.out ++ (log m level).out } = w' := by
  rw [emit_log]
  simp

/-- `w'` is `w` after `n` atomic steps that left the table and the signal as they were, whatever
they printed. -/
structure Ran (n : Nat) (w w' : World) : Prop where
  processes : w'.processes = w.processes
  children : w'.children = w.children
  clock : w'.clock = w.clock + n
  signal : w'.signal = w.signal

/-- No signal is due in the next `n` atomic steps. -/
def Clear (n : Nat) (w : World) : Prop :=
  ∀ i < n, w.signal ≠ some (w.clock + i)

/-- The world a run starts from: no process and no child. -/
def Fresh (ps : List Nat) (cs : List Child) : Prop :=
  ps = [] ∧ cs = []

theorem fresh_stopStable (env : Env) : StopStable env Fresh :=
  nil_stopStable env []

theorem covered_of_fresh {ps : List Nat} {cs : List Child} (h : Fresh ps cs) : Covered ps cs := by
  obtain ⟨rfl, rfl⟩ := h
  intro _ h
  simp at h

theorem not_running_of_quiet {cs : List Child} (h : Quiet cs) : Child.running ∉ cs := fun hm =>
  let ⟨i, hi⟩ := List.mem_iff_getElem?.1 hm
  h i hi

/-! ## `check_dependencies` -/

section Phases

variable {env : Env} {w w' : World} {port : Nat}

/-- `check_dependencies()` returns `True` only when both tools answer, after four atomic steps. -/
theorem checkDependencies_true (h : checkDependencies env w = .ok true w') :
    env.pnpm ∧ env.playwright.isSome ∧ Ran 4 w w' := by
  cases hp : env.pnpm <;> cases hv : env.playwright <;>
    simp only [checkDependencies, bind_eq_ok, atomic_eq_ok, emit_log_eq_ok, hp, hv, pure_apply,
      EStateM.Result.ok.injEq, Bool.not_false, Bool.not_true, if_true, if_false, exists_and_left,
      exists_eq_left', and_assoc, Bool.false_eq_true, and_false, exists_false, false_and] at h
  obtain ⟨-, -, -, -, -, -, _, _, _, rfl⟩ := h
  exact ⟨rfl, rfl, rfl, rfl, rfl, rfl⟩

/-- When both tools answer and no signal comes in its four steps, `check_dependencies()` returns
`True`. -/
theorem checkDependencies_run (hp : env.pnpm) (hv : env.playwright.isSome) (hw : Clear 4 w) :
    ∃ w', checkDependencies env w = .ok true w' ∧ Ran 4 w w' := by
  obtain ⟨v, hv⟩ := Option.isSome_iff_exists.1 hv
  simp only [checkDependencies, bind_eq_ok, atomic_eq_ok, emit_log_eq_ok, hp, hv, pure_apply,
    EStateM.Result.ok.injEq, Bool.not_true, if_false, Bool.false_eq_true, exists_and_left,
    exists_eq_left', and_assoc, exists_const, exists_eq_right]
  exact ⟨hw 0 (by omega), hw 1 (by omega), trivial, hw 2 (by omega), hw 3 (by omega), trivial,
    rfl, rfl, rfl, rfl⟩

/-! ## `start_signaling_server` -/

/-- The statements of `start_signaling_server` before `subprocess.Popen`: its first log line, and
the build when `dist` is missing. -/
def serverPrefix (env : Env) (port : Nat) : Launch Unit := do
  atomic env (emit (log [.text "Starting signaling server on port ", .field "" (.int port),
    .text "..."] "INFO"))
  if !(← atomic env (pure env.built)) then
    atomic env (emit (log [.text "Building signaling server..."] "INFO"))
    atomic env (if env.buildOk then pure () else throw .buildFailed)

/-- The statements of `start_signaling_server` after `processes.append(proc)`. -/
def serverTail (env : Env) (pid : Nat) : Launch (Option Nat) := do
  atomic env (pure ())
  if ← atomic env (poll pid) then
    atomic env (emit (log [.text "Signaling server failed to start"] "ERROR"))
    return Option.none
  atomic env (emit (log [.text "Signaling server running (PID: ", .field "" (.int pid), .text ")"]
    "INFO"))
  return some pid

/-- The atomic steps of `serverPrefix` on its way to `Popen`. -/
def prefixSteps (env : Env) : Nat :=
  if env.built then 2 else 4

theorem startSignalingServer_eq (env : Env) (port : Nat) :
    startSignalingServer env port = serverPrefix env port >>= fun _ =>
      atomic env (spawn env.serverUp) >>= fun pid =>
      atomic env (modify fun w => { w with processes := w.processes ++ [pid] }) >>= fun _ =>
      serverTail env pid := by
  simp only [startSignalingServer, serverPrefix, serverTail, bind_assoc]
  congr 1; funext _; congr 1; funext b
  cases b <;> simp only [Bool.not_false, Bool.not_true, if_true, if_false, bind_assoc, pure_bind,
    Bool.false_eq_true]

theorem serverPrefix_ok (h : serverPrefix env port w = .ok () w') :
    (env.built ∨ env.buildOk) ∧ Ran (prefixSteps env) w w' := by
  cases hb : env.built <;> cases hk : env.buildOk <;>
    simp only [serverPrefix, prefixSteps, bind_eq_ok, atomic_eq_ok, emit_log_eq_ok, hb, hk,
      pure_apply, throw_apply, EStateM.Result.ok.injEq, Bool.not_false, Bool.not_true, if_true,
      if_false, exists_and_left, exists_eq_left', and_assoc, Bool.false_eq_true, and_false,
      exists_false, false_and, reduceCtorEq] at h ⊢
  case false.true =>
    obtain ⟨-, -, -, -, -, _, _, rfl⟩ := h
    exact ⟨by simp, rfl, rfl, rfl, rfl⟩
  all_goals
    obtain ⟨-, -, -, _, rfl⟩ := h
    exact ⟨by simp, rfl, rfl, rfl, rfl⟩

theorem serverPrefix_run (hb : env.built ∨ env.buildOk) (hw : Clear (prefixSteps env) w) :
    ∃ w', serverPrefix env port w = .ok () w' ∧ Ran (prefixSteps env) w w' := by
  cases hb' : env.built <;> cases hk : env.buildOk <;>
    simp only [serverPrefix, prefixSteps, bind_eq_ok, atomic_eq_ok, emit_log_eq_ok, hb', hk,
      pure_apply, throw_apply, EStateM.Result.ok.injEq, Bool.not_false, Bool.not_true, if_true,
      if_false, exists_and_left, exists_eq_left', and_assoc, Bool.false_eq_true, and_false,
      exists_false, false_and, reduceCtorEq, exists_const, exists_eq_right] at hb hw ⊢
  case false.false => exact (or_self_iff.1 hb).elim
  case false.true =>
    exact ⟨hw 0 (by omega), hw 1 (by omega), hw 2 (by omega), hw 3 (by omega), trivial,
      rfl, rfl, rfl, rfl⟩
  all_goals exact ⟨hw 0 (by omega), hw 1 (by omega), trivial, rfl, rfl, rfl, rfl⟩

end Phases

/-! ## Code made of atomic steps -/

/-- The statements of `main`'s `try` after the server: the tests and the report. -/
def testsAndReport (env : Env) (reportsDir : String) (args : Args) : Launch Int := do
  let exitCode ← runTests env args
  atomic env (emit (generateReport reportsDir env.resultsFile))
  return exitCode

/-- A property of launcher code that `pure` and `>>=` keep, and that every atomic step of the phases
below has: a printed line, an answer of the system, the build, and a poll. -/
structure Closed (env : Env) (C : ∀ {α : Type}, Launch α → Prop) : Prop where
  pure : ∀ {α : Type} (a : α), C (pure a : Launch α)
  bind : ∀ {α β : Type} {x : Launch α} {f : α → Launch β}, C x → (∀ a, C (f a)) → C (x >>= f)
  emit : ∀ r : Py Unit, C (atomic env (emit r))
  ask : ∀ {α : Type} (a : α), C (atomic env (Pure.pure a : Launch α))
  build : C (atomic env (if env.buildOk then Pure.pure () else throw .buildFailed : Launch Unit))
  poll : ∀ pid, C (atomic env (poll pid))

section Closed

variable {env : Env} {C : ∀ {α : Type}, Launch α → Prop}

theorem Closed.checkDependencies (h : Closed env C) : C (checkDependencies env) := by
  refine h.bind (h.emit _) fun _ => h.bind (h.ask _) fun b => ?_
  cases b
  · exact h.bind (h.emit _) fun _ => h.pure _
  · refine h.bind (h.pure _) fun _ => h.bind (h.ask _) fun v => ?_
    cases v <;> exact h.bind (h.emit _) fun _ => h.pure _

theorem Closed.serverPrefix (h : Closed env C) (port : Nat) : C (serverPrefix env port) := by
  refine h.bind (h.emit _) fun _ => h.bind (h.ask _) fun b => ?_
  cases b
  exacts [h.bind (h.emit _) fun _ => h.build, h.pure _]

theorem Closed.serverTail (h : Closed env C) (pid : Nat) : C (serverTail env pid) := by
  refine h.bind (h.ask _) fun _ => h.bind (h.poll _) fun b => ?_
  cases b
  exacts [h.bind (h.pure _) fun _ => h.bind (h.emit _) fun _ => h.pure _,
    h.bind (h.emit _) fun _ => h.pure _]

theorem Closed.testsAndReport (h : Closed env C) (reportsDir : String) (args : Args) :
    C (testsAndReport env reportsDir args) :=
  h.bind (h.bind (h.emit _) fun _ => h.bind (h.emit _) fun _ => h.ask _) fun _ =>
    h.bind (h.emit _) fun _ => h.pure _

variable {Q : List Nat → List Child → Prop}

/-- A property of the table that stopping a child keeps is kept by all that code. -/
theorem keeps_closed (hQ : StopStable env Q) : Closed env fun {_} m => Keeps (Procs Q) m where
  pure := Keeps.pure
  bind := Keeps.bind
  emit _ := keeps_atomic hQ (keeps_emit _)
  ask _ := keeps_atomic hQ (Keeps.pure _)
  build := keeps_atomic hQ (by split; exacts [Keeps.pure _, Keeps.throw _])
  poll _ := keeps_atomic hQ (keeps_poll _)

theorem keeps_cleanup (hQ : StopStable env Q) : Keeps (Procs Q) (cleanup env) :=
  keeps_cleanupWith hQ runKeeps_atomic false

end Closed

/-! ## The window between `Popen` and `append` -/

section Window

variable {env : Env} {w : World}

/-- A signal handled in place of `processes.append(proc)` leaves the new server out of
`processes`: the handler stops no child, and raises `SystemExit(1)`. -/
theorem startSignalingServer_window (port : Nat) (hw : Fresh w.processes w.children)
    (hb : env.built ∨ env.buildOk)
    (hs : w.signal = some (w.clock + prefixSteps env + 1)) :
    ∃ w', startSignalingServer env port w = .error (.exit 1) w' ∧
      w'.processes = [] ∧ w'.children = [if env.serverUp then .running else .exited] := by
  obtain ⟨w1, h1, r1⟩ : ∃ w1, serverPrefix env port w = .ok () w1 ∧ Ran (prefixSteps env) w w1 :=
    serverPrefix_run hb fun i hi h => by
      rw [hs, Option.some.injEq] at h
      omega
  have hs1 : w1.signal ≠ some w1.clock := by
    rw [r1.signal, r1.clock, hs]
    simp
  have hs2 : w1.signal = some (w1.clock + 1) := by rw [r1.signal, r1.clock, hs]
  rw [startSignalingServer_eq, bind_apply, h1]
  dsimp only
  rw [bind_apply, atomic_of_not_due hs1]
  dsimp only [spawn]
  rw [bind_apply, atomic_of_due (by exact hs2), onSignal_apply]
  exact ⟨_, rfl, r1.processes.trans hw.1, by simp [stopAll, r1.processes.trans hw.1, r1.children.trans hw.2]⟩

/-- Off that window, every running child is in `processes` when `start_signaling_server` ends,
however it ends. -/
theorem startSignalingServer_covered {port : Nat} (hw : Fresh w.processes w.children)
    (hwin : ¬((env.built ∨ env.buildOk) ∧ w.signal = some (w.clock + prefixSteps env + 1))) :
    Covered (final (startSignalingServer env port w)).processes
      (final (startSignalingServer env port w)).children := by
  rw [startSignalingServer_eq, final_bind]
  rcases h1 : serverPrefix env port w with ⟨_, w1⟩ | ⟨e, w1⟩
  · obtain ⟨hb, r1⟩ := serverPrefix_ok h1
    have hp1 : w1.processes = [] := r1.processes.trans hw.1
    have hc1 : w1.children = [] := r1.children.trans hw.2
    dsimp only
    rw [final_bind]
    by_cases hs1 : w1.signal = some w1.clock
    · rw [atomic_of_due hs1, onSignal_apply]
      exact covered_of_fresh ⟨hp1, by simp [stopAll, hp1, hc1]⟩
    · have hs2 : w1.signal ≠ some (w1.clock + 1) := fun h =>
        hwin ⟨hb, by rw [← r1.signal, h, r1.clock]⟩
      rw [atomic_of_not_due hs1]
      dsimp only [spawn]
      rw [final_bind, atomic_of_not_due (by exact hs2)]
      refine (keeps_closed (covered_stopStable env)).serverTail _ _ fun i hi => ?_
      simp [hp1, hc1] at hi ⊢
      cases i
      · rfl
      · simp at hi
  · have := (keeps_closed (fresh_stopStable env)).serverPrefix port w hw
    rw [h1] at this
    exact covered_of_fresh this

end Window

/-! ## A run of `main` -/

/-- The body of `main`'s `try`. -/
def mainBody (env : Env) (reportsDir : String) (args : Args) : Launch Int := do
  if !args.noServer then
    let signaling ← startSignalingServer env 3000
    if signaling.isNone then return 1
  let exitCode ← runTests env args
  atomic env (emit (generateReport reportsDir env.resultsFile))
  return exitCode

theorem main_eq (env : Env) (reportsDir : String) (args : Args) :
    main env reportsDir args =
      if args.reportOnly then
        atomic env (emit (generateReport reportsDir env.resultsFile)) >>= fun _ => pure 0
      else
        checkDependencies env >>= fun ok => if !ok then pure 1 else
          atomic env (pure ()) >>= fun _ => tryFinally (mainBody env reportsDir args) (cleanup env) :=
  rfl

section Main

variable {env : Env} {reportsDir : String} {args : Args} {w : World}
  {Q : List Nat → List Child → Prop}

theorem mainBody_window (reportsDir : String) (hw : Fresh w.processes w.children)
    (hn : args.noServer = false)
    (hb : env.built ∨ env.buildOk) (hs : w.signal = some (w.clock + prefixSteps env + 1)) :
    ∃ w', mainBody env reportsDir args w = .error (.exit 1) w' ∧
      w'.processes = [] ∧ w'.children = [if env.serverUp then .running else .exited] := by
  obtain ⟨w', h, hp, hc⟩ := startSignalingServer_window 3000 hw hb hs
  refine ⟨w', ?_, hp, hc⟩
  simp only [mainBody, hn, Bool.not_false, if_true, bind_apply, h]

theorem mainBody_covered (hw : Fresh w.processes w.children)
    (hwin : ¬(args.noServer = false ∧ (env.built ∨ env.buildOk) ∧
      w.signal = some (w.clock + prefixSteps env + 1))) :
    Covered (final (mainBody env reportsDir args w)).processes
      (final (mainBody env reportsDir args w)).children := by
  cases hn : args.noServer
  · simp only [mainBody, hn, Bool.not_false, if_true]
    refine final_bind_of_keeps (P := Procs Covered)
      (startSignalingServer_covered hw fun h => hwin ⟨hn, h⟩) fun s => ?_
    split
    exacts [Keeps.pure _, (keeps_closed (covered_stopStable env)).testsAndReport reportsDir args]
  · simp only [mainBody, hn, Bool.not_true, if_false, Bool.false_eq_true, pure_bind]
    exact (keeps_closed (covered_stopStable env)).testsAndReport reportsDir args w (covered_of_fresh hw)

/-- The atomic step of a run at which the signalling server is appended to `processes`: after the
four steps of `check_dependencies`, the `mkdir`, and in `start_signaling_server` the log line, the
test for `dist`, the build's log line and the build when `dist` is missing, and `Popen`. -/
def windowStep (env : Env) : Nat :=
  if env.built then 8 else 10

theorem windowStep_eq (env : Env) : windowStep env = 4 + 1 + prefixSteps env + 1 := by
  unfold windowStep prefixSteps
  split <;> rfl

/-- The runs that reach the signalling server's `Popen` and start a server that keeps running. -/
structure Leaks (env : Env) (args : Args) : Prop where
  reportOnly : args.reportOnly = false
  pnpm : env.pnpm
  playwright : env.playwright.isSome
  noServer : args.noServer = false
  built : env.built ∨ env.buildOk
  serverUp : env.serverUp

theorem running_of_leaks (hl : Leaks env args) :
    Child.running ∈ (final (launch env reportsDir args (some (windowStep env)))).children := by
  have hk := windowStep_eq env
  obtain ⟨w1, h1, r1⟩ := checkDependencies_run hl.pnpm hl.playwright
    (w := ⟨[], [], [], 0, some (windowStep env)⟩) fun i hi h => by
      dsimp only at h
      rw [Option.some.injEq] at h
      omega
  have hs1 : w1.signal ≠ some w1.clock := by
    rw [r1.signal, r1.clock]
    simp only [ne_eq, Option.some.injEq]
    omega
  obtain ⟨w3, h3, hp3, hc3⟩ := mainBody_window reportsDir
    (w := { w1 with clock := w1.clock + 1 }) ⟨r1.processes, r1.children⟩ hl.noServer hl.built
    (by simp only [r1.signal, r1.clock, Option.some.injEq]; omega)
  rw [launch, main_eq, if_neg (by simp [hl.reportOnly]), final_bind, h1]
  simp only [Bool.not_true, if_false, Bool.false_eq_true, final_bind, atomic_of_not_due hs1,
    pure_apply, final_tryFinally, h3, final_error]
  rw [(keeps_cleanup (nil_stopStable env _) w3 ⟨hp3, hc3⟩).2]
  simp [hl.serverUp]

theorem leaks_of_running {signal : Option Nat}
    (h : Child.running ∈ (final (launch env reportsDir args signal)).children) :
    Leaks env args ∧ signal = some (windowStep env) := by
  have fresh : ∀ w : World, Fresh w.processes w.children → Child.running ∉ w.children :=
    fun w hw => by simp [hw.2]
  rw [launch, main_eq] at h
  cases hr : args.reportOnly
  · simp only [hr, if_false, Bool.false_eq_true, final_bind] at h
    have hf1 := (keeps_closed (fresh_stopStable env)).checkDependencies ⟨[], [], [], 0, signal⟩
      ⟨rfl, rfl⟩
    rcases hc : checkDependencies env ⟨[], [], [], 0, signal⟩ with ⟨b, w1⟩ | ⟨e, w1⟩ <;>
      rw [hc] at h hf1
    · cases b
      · exact absurd h (fresh _ hf1)
      obtain ⟨hp, hv, r1⟩ := checkDependencies_true hc
      simp only [Bool.not_true, if_false, Bool.false_eq_true, final_bind] at h
      by_cases hs1 : w1.signal = some w1.clock
      · replace hf1 : Fresh w1.processes w1.children := hf1
        rw [atomic_of_due hs1, onSignal_apply] at h
        simp [stopAll, hf1.1, hf1.2] at h
      rw [atomic_of_not_due hs1] at h
      simp only [pure_apply, final_tryFinally] at h
      by_cases hwin : args.noServer = false ∧ (env.built ∨ env.buildOk) ∧
          w1.signal = some (w1.clock + 1 + prefixSteps env + 1)
      · obtain ⟨w3, h3, hp3, hc3⟩ := mainBody_window reportsDir
          (w := { w1 with clock := w1.clock + 1 }) hf1 hwin.1 hwin.2.1 hwin.2.2
        rw [h3, final_error, (keeps_cleanup (nil_stopStable env _) w3 ⟨hp3, hc3⟩).2] at h
        refine ⟨⟨hr, hp, hv, hwin.1, hwin.2.1, by cases hu : env.serverUp <;> simp [hu] at h ⊢⟩, ?_⟩
        obtain ⟨-, -, hclock, hsig⟩ := r1
        dsimp only at hclock hsig
        rw [← hsig, hwin.2.2, hclock, windowStep_eq]
      · exact absurd h (not_running_of_quiet (quiet_cleanup (mainBody_covered hf1 hwin)))
    · exact absurd h (fresh _ hf1)
  · simp only [hr, if_true] at h
    exact absurd h (fresh _ (((keeps_atomic (fresh_stopStable env) (keeps_emit _)).bind fun _ =>
      Keeps.pure _) _ ⟨rfl, rfl⟩))

end Main

end TomAnalysis.Launcher
