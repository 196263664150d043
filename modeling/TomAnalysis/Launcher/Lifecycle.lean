import TomAnalysis.Launcher.Semantics

/-! # The launcher's server, its cleanup and its signal handler

`main` starts the signalling server inside `try`, and its `finally` calls `cleanup`, which
terminates each process of the module's list `processes` and kills one that has not exited five
seconds later. The same `cleanup` is the handler of SIGINT and SIGTERM, and there it ends with
`sys.exit(1)`. CPython runs a Python signal handler in the main thread between two of its steps,
so the model counts the main thread's atomic steps, and a signal sent is handled in place of the
step it is due at. What the system answers to the launcher's external calls is the
environment `Env`; `argparse` is the structure `Args` it fills. -/

namespace TomAnalysis.Launcher

/-- A child process of the launcher: running, exited on its own, `terminated` within the five
seconds `proc.wait(timeout=5)` gives it after `terminate()`, or `killed` by `proc.kill()` once
`wait` raised `TimeoutExpired`. -/
inductive Child where
  | running
  | exited
  | terminated
  | killed
  deriving Repr, DecidableEq

/-- What the system answers to the launcher's external calls: whether `pnpm --version` exits with
status 0; the output of `pnpm exec playwright --version`, `none` when it fails; whether
`SIGNALING_DIR / "dist"` exists, and whether `pnpm build` exits with status 0; whether the
signalling server keeps running once started, where it would otherwise exit at once; whether a
child exits within five seconds of `terminate()`; the return code of `pnpm exec playwright test`;
and the contents of `REPORTS_DIR / "results.json"`, when it exists. -/
structure Env where
  pnpm : Bool
  playwright : Option String
  built : Bool
  buildOk : Bool
  serverUp : Bool
  exitsOnTerm : Bool
  testCode : Int
  resultsFile : Option String

/-- The options `main` reads with `argparse`. -/
structure Args where
  test : Option String
  browsers : Int
  headed : Bool
  project : Option String
  noServer : Bool
  reportOnly : Bool

/-- How launcher code stops before its end: an exception of `generate_report`,
`subprocess.CalledProcessError` from `pnpm build` (which runs with `check=True`), or `SystemExit`
from `sys.exit(code)`. -/
inductive Abort where
  | report (e : PyError)
  | buildFailed
  | exit (code : Nat)

/-- The launcher and its children: the module's list `processes` of pids, every child started so
far (the pid of a child is its position), the output, the number of the main thread's atomic
steps run so far, and the step in place of which a SIGINT or SIGTERM is handled, while one is
due. -/
structure World where
  processes : List Nat
  children : List Child
  out : List Line
  clock : Nat
  signal : Option Nat

/-- Launcher code. An exception keeps the world as it was when it was raised. -/
abbrev Launch := EStateM Abort World

/-- Print the lines of `p`, and stop when it raises. -/
def emit (p : Py Unit) : Launch Unit := fun w =>
  match p.res with
  | .ok _ => .ok () { w with out := w.out ++ p.out }
  | .error e => .error (.report e) { w with out := w.out ++ p.out }

/-- `proc.terminate()` then `proc.wait(timeout=5)`, and `proc.kill()` when the wait times out. A
child that has already exited stays as it is. -/
def stopChild (exitsOnTerm : Bool) : Child → Child
  | .running => if exitsOnTerm then .terminated else .killed
  | c => c

/-- The body of `cleanup`'s loop for one process. -/
def stop (env : Env) (pid : Nat) : Launch Unit :=
  modify fun w => { w with children := w.children.modify (stopChild env.exitsOnTerm) pid }

/-- The statements of `cleanup(signum)`, each run through `run`: a warning, every process of
`processes` stopped in order, and `sys.exit(1)` when a signal called it. -/
def cleanupWith (run : Launch Unit → Launch Unit) (env : Env) (signalled : Bool) : Launch Unit := do
  run (emit (log [.text "Cleaning up processes..."] "WARN"))
  (← get).processes.forM fun pid => run (stop env pid)
  if signalled then throw (.exit 1)

/-- The handler of SIGINT and SIGTERM, `cleanup(signum, frame)`: its `sys.exit(1)` raises
`SystemExit` where the main thread was interrupted. A second signal is not modelled. -/
def onSignal (env : Env) : Launch α := fun w =>
  match cleanupWith id env true w with
  | .ok _ w => .error (.exit 1) w
  | .error e w => .error e w

/-- One atomic step `act` of the main thread. A signal due now is handled in its place. -/
def atomic (env : Env) (act : Launch α) : Launch α := fun w =>
  if w.signal = some w.clock then onSignal env { w with signal := Option.none }
  else act { w with clock := w.clock + 1 }

/-- `cleanup()` as `main`'s `finally` calls it. -/
def cleanup (env : Env) : Launch Unit :=
  cleanupWith (atomic env) env false

/-- `check_dependencies()`: `pnpm`, then Playwright; a failure of either is caught, logged and
returns `False`. -/
def checkDependencies (env : Env) : Launch Bool := do
  atomic env (emit (log [.text "Checking dependencies..."] "INFO"))
  if !(← atomic env (pure env.pnpm)) then
    atomic env (emit (log [.text "pnpm not found. Please install pnpm."] "ERROR"))
    return false
  match ← atomic env (pure env.playwright) with
  | Option.none =>
    atomic env (emit (log [.text "Playwright not found. Run: pnpm install"] "ERROR"))
    return false
  | some version =>
    atomic env (emit (log [.text "Playwright version: ", .text (Json.strip version)] "INFO"))
    return true

/-- `subprocess.Popen([...])` of a server: a new child, whose pid is its position. A server that
cannot start exits at once. -/
def spawn (up : Bool) : Launch Nat := fun w =>
  .ok w.children.length { w with children := w.children ++ [if up then .running else .exited] }

/-- `proc.poll() is not None`: the child has exited. -/
def poll (pid : Nat) : Launch Bool := fun w =>
  .ok (w.children[pid]? != some .running) w

/-- `start_signaling_server(port)`: build the server if `dist` is missing, start it, append it to
`processes`, wait two seconds, and return it if it is still running. -/
def startSignalingServer (env : Env) (port : Nat) : Launch (Option Nat) := do
  atomic env (emit (log [.text "Starting signaling server on port ", .field "" (.int port),
    .text "..."] "INFO"))
  if !(← atomic env (pure env.built)) then
    atomic env (emit (log [.text "Building signaling server..."] "INFO"))
    atomic env (if env.buildOk then pure () else throw .buildFailed)
  let pid ← atomic env (spawn env.serverUp)
  atomic env (modify fun w => { w with processes := w.processes ++ [pid] })
  -- `time.sleep(2)`
  atomic env (pure ())
  if ← atomic env (poll pid) then
    atomic env (emit (log [.text "Signaling server failed to start"] "ERROR"))
    return Option.none
  atomic env (emit (log [.text "Signaling server running (PID: ", .field "" (.int pid), .text ")"]
    "INFO"))
  return some pid

/-- The command `run_tests` runs: a pattern, `--headed` and a project are added when given. -/
def testCommand (args : Args) : List String :=
  ["pnpm", "exec", "playwright", "test"] ++
    (match args.test with
      | some t => if t.isEmpty then [] else ["*" ++ t ++ "*"]
      | Option.none => []) ++
    (if args.headed then ["--headed"] else []) ++
    (match args.project with
      | some p => if p.isEmpty then [] else ["--project", p]
      | Option.none => [])

/-- `run_tests(...)`: log the command, run it, and return its return code. -/
def runTests (env : Env) (args : Args) : Launch Int := do
  atomic env (emit (log [.text "Running E2E tests..."] "INFO"))
  atomic env (emit (log [.text "Command: ", .text (" ".intercalate (testCommand args))] "INFO"))
  atomic env (pure env.testCode)

/-- `main()`, with the reports directory `REPORTS_DIR`. -/
def main (env : Env) (reportsDir : String) (args : Args) : Launch Int := do
  if args.reportOnly then
    atomic env (emit (generateReport reportsDir env.resultsFile))
    return 0
  if !(← checkDependencies env) then return 1
  -- `REPORTS_DIR.mkdir(parents=True, exist_ok=True)`
  atomic env (pure ())
  tryFinally
    (do
      if !args.noServer then
        let signaling ← startSignalingServer env 3000
        if signaling.isNone then return 1
      let exitCode ← runTests env args
      atomic env (emit (generateReport reportsDir env.resultsFile))
      return exitCode)
    (cleanup env)

/-- A run of the launcher with no child yet, and a SIGINT or SIGTERM handled in place of its atomic
step number `signal` (from 0), if one is sent. -/
def launch (env : Env) (reportsDir : String) (args : Args) (signal : Option Nat) :
    EStateM.Result Abort World Int :=
  main env reportsDir args ⟨[], [], [], 0, signal⟩

/-- The world a run leaves, however it ended. -/
def final : EStateM.Result Abort World α → World
  | .ok _ w => w
  | .error _ w => w

/-- The exit status of `sys.exit(main())`: the code `main` returns modulo 256, the code of a
`SystemExit`, and `1` for any other exception. -/
def exitStatus : EStateM.Result Abort World Int → Nat
  | .ok code _ => (code % 256).toNat
  | .error (.exit code) _ => code
  | .error _ _ => 1

end TomAnalysis.Launcher
