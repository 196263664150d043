import TomAnalysis.Launcher.Lifecycle

/-! # Which children the launcher leaves running

Each running child is in `processes`, except between `subprocess.Popen` of the signalling server
and `processes.append(proc)`; `cleanup` stops every child in `processes`, both from `finally` and
from the signal handler. So a run without a signal leaves no child running, and a SIGINT or
SIGTERM leaves the signalling server running exactly when it is handled in place of the
`append`. -/

namespace TomAnalysis.Launcher

variable {α β : Type}

/-! ## Running `Launch` code -/

@[simp] theorem bind_apply (x : Launch α) (f : α → Launch β) (w : World) :
    (x >>= f) w = match x w with
      | .ok a w => f a w
      | .error e w => .error e w := by
  show EStateM.bind x f w = _
  unfold EStateM.bind
  rcases x w with ⟨a, w'⟩ | ⟨e, w'⟩ <;> rfl

@[simp] theorem map_apply (f : α → β) (x : Launch α) (w : World) :
    (f <$> x) w = match x w with
      | .ok a w => .ok (f a) w
      | .error e w => .error e w := by
  show EStateM.map f x w = _
  unfold EStateM.map
  rcases x w with ⟨a, w'⟩ | ⟨e, w'⟩ <;> rfl

@[simp] theorem pure_apply (a : α) (w : World) : (pure a : Launch α) w = .ok a w := rfl

@[simp] theorem throw_apply (e : Abort) (w : World) : (throw e : Launch α) w = .error e w := rfl

@[simp] theorem get_apply (w : World) : (get : Launch World) w = .ok w w := rfl

@[simp] theorem modify_apply (f : World → World) (w : World) :
    (modify f : Launch Unit) w = .ok () (f w) := rfl

/-- `try: x finally: h`: `h` runs on the world `x` leaves; an exception of `h` replaces the outcome
of `x`. -/
@[simp] theorem tryFinally_apply (x : Launch α) (h : Launch Unit) (w : World) :
    tryFinally x h w = match x w with
      | .ok a w => match h w with
        | .ok _ w => .ok a w
        | .error e w => .error e w
      | .error e w => match h w with
        | .ok _ w => .error e w
        | .error e' w => .error e' w := by
  show (Prod.fst <$> tryFinally' x fun _ => h) w = _
  simp only [tryFinally', Functor.map, EStateM.map]
  rcases x w with ⟨a, w'⟩ | ⟨e, w'⟩ <;> dsimp only <;> rcases h w' with ⟨_, w''⟩ | ⟨e', w''⟩ <;> rfl

theorem atomic_of_due {env : Env} {act : Launch α} {w : World} (h : w.signal = some w.clock) :
    atomic env act w = onSignal env { w with signal := Option.none } :=
  if_pos h

theorem atomic_of_not_due {env : Env} {act : Launch α} {w : World} (h : w.signal ≠ some w.clock) :
    atomic env act w = act { w with clock := w.clock + 1 } :=
  if_neg h

@[simp] theorem final_ok (a : α) (w : World) : final (.ok a w : EStateM.Result Abort World α) = w := rfl

@[simp] theorem final_error (e : Abort) (w : World) :
    final (.error e w : EStateM.Result Abort World α) = w := rfl

theorem final_bind (x : Launch α) (f : α → Launch β) (w : World) :
    final ((x >>= f) w) = match x w with
      | .ok a w => final (f a w)
      | .error _ w => w := by
  rw [bind_apply]
  rcases x w with ⟨a, w'⟩ | ⟨e, w'⟩ <;> rfl

/-- `finally` runs on the world the body leaves, and its world is the run's. -/
theorem final_tryFinally (x : Launch α) (h : Launch Unit) (w : World) :
    final (tryFinally x h w) = final (h (final (x w))) := by
  rw [tryFinally_apply]
  rcases x w with ⟨a, w'⟩ | ⟨e, w'⟩ <;> simp only [final_ok, final_error] <;>
    rcases h w' with ⟨_, w''⟩ | ⟨e', w''⟩ <;> rfl

theorem emit_log (m : Line) (level : String) (w : World) :
    emit (log m level) w = .ok () { w with out := w.out ++ (log m level).out } := rfl

/-- A trailing `if ...: sys.exit(...)` leaves the world as it is. -/
theorem final_bind_throwIf (m : Launch Unit) (b : Bool) (e : Abort) (w : World) :
    final ((m >>= fun _ => if b then throw e else pure ()) w) = final (m w) := by
  rw [final_bind]
  rcases m w with ⟨_, w'⟩ | ⟨_, w'⟩ <;> cases b <;> rfl

/-! ## Properties of the process table that the steps keep -/

/-- `m` keeps `P`: from a world where `P` holds it leaves one where `P` holds, however it ends. -/
def Keeps (P : World → Prop) (m : Launch α) : Prop :=
  ∀ w, P w → P (final (m w))

/-- A property of `processes` and the children alone. -/
def Procs (Q : List Nat → List Child → Prop) (w : World) : Prop :=
  Q w.processes w.children

/-- `Q` survives stopping a child of `processes`. -/
def StopStable (env : Env) (Q : List Nat → List Child → Prop) : Prop :=
  ∀ ps cs pid, pid ∈ ps → Q ps cs → Q ps (cs.modify (stopChild env.exitsOnTerm) pid)

section Keeps

variable {P : World → Prop} {Q : List Nat → List Child → Prop} {env : Env}

/-- What `x` leaves from `w`, a continuation that keeps `P` keeps. -/
theorem final_bind_of_keeps {x : Launch α} {f : α → Launch β} {w : World} (hx : P (final (x w)))
    (hf : ∀ a, Keeps P (f a)) : P (final ((x >>= f) w)) := by
  rw [final_bind]
  rcases h : x w with ⟨a, w'⟩ | ⟨e, w'⟩ <;> rw [h] at hx
  · exact hf a w' hx
  · exact hx

theorem Keeps.bind {x : Launch α} {f : α → Launch β} (hx : Keeps P x) (hf : ∀ a, Keeps P (f a)) :
    Keeps P (x >>= f) := fun w hw =>
  final_bind_of_keeps (hx w hw) hf

theorem Keeps.pure (a : α) : Keeps P (pure a : Launch α) := fun _ hw => hw

theorem Keeps.throw (e : Abort) : Keeps P (throw e : Launch α) := fun _ hw => hw

theorem Keeps.forM {l : List β} {f : β → Launch Unit} (hf : ∀ b ∈ l, Keeps P (f b)) :
    Keeps P (l.forM f) := by
  induction l with
  | nil => exact Keeps.pure _
  | cons b l ih =>
    show Keeps P (f b >>= fun _ => l.forM f)
    exact (hf b (List.mem_cons_self _ _)).bind fun _ => ih fun c hc => hf c (List.mem_cons_of_mem _ hc)

theorem keeps_emit (p : Py Unit) : Keeps (Procs Q) (emit p) := by
  intro w hw
  simp only [emit]
  split <;> exact hw

theorem keeps_poll (pid : Nat) : Keeps P (poll pid) := fun _ hw => hw

theorem keeps_stop {ps0 : List Nat} (hQ : StopStable env Q) {pid : Nat} (hpid : pid ∈ ps0) :
    Keeps (Procs fun ps cs => ps = ps0 ∧ Q ps cs) (stop env pid) := by
  rintro w ⟨hps, hw⟩
  exact ⟨hps, hQ _ _ pid (hps ▸ hpid) hw⟩

/-- What a way of running `cleanup`'s statements must keep. -/
def RunKeeps (env : Env) (run : Launch Unit → Launch Unit) : Prop :=
  ∀ Q (m : Launch Unit), StopStable env Q → Keeps (Procs Q) m → Keeps (Procs Q) (run m)

theorem keeps_cleanupWith (hQ : StopStable env Q) {run : Launch Unit → Launch Unit}
    (hrun : RunKeeps env run) (signalled : Bool) :
    Keeps (Procs Q) (cleanupWith run env signalled) := by
  refine (hrun Q _ hQ (keeps_emit _)).bind fun _ w1 hw1 => ?_
  rw [bind_apply, get_apply]
  dsimp only
  have hrest : Keeps (Procs fun ps cs => ps = w1.processes ∧ Q ps cs)
      ((w1.processes.forM fun pid => run (stop env pid)) >>= fun _ =>
        if signalled then throw (.exit 1) else pure ()) :=
    (Keeps.forM fun pid hpid => hrun _ _ (fun ps cs i hi ⟨hps, h⟩ => ⟨hps, hQ ps cs i hi h⟩)
      (keeps_stop hQ hpid)).bind fun _ => by
        split
        exacts [Keeps.throw _, Keeps.pure _]
  exact (hrest w1 ⟨rfl, hw1⟩).2

theorem runKeeps_id : RunKeeps env id := fun _ _ _ h => h

theorem keeps_onSignal (hQ : StopStable env Q) : Keeps (Procs Q) (onSignal env : Launch α) := by
  intro w hw
  have := keeps_cleanupWith hQ runKeeps_id true w hw
  simp only [onSignal]
  rcases h : cleanupWith id env true w with ⟨_, w'⟩ | ⟨e, w'⟩ <;> rw [h] at this <;> exact this

/-- A property of the table that stopping a child keeps is kept by a step that keeps it, or by the
handler in its place. -/
theorem keeps_atomic (hQ : StopStable env Q) {act : Launch α} (hact : Keeps (Procs Q) act) :
    Keeps (Procs Q) (atomic env act) := by
  intro w hw
  unfold atomic
  split
  · exact keeps_onSignal hQ _ hw
  · exact hact _ hw

theorem runKeeps_atomic : RunKeeps env (atomic env) := fun _ _ hQ hm => keeps_atomic hQ hm

end Keeps

/-! ## Cleaning up -/

/-- Every running child is in `processes`. -/
def Covered (ps : List Nat) (cs : List Child) : Prop :=
  ∀ pid, cs[pid]? = some .running → pid ∈ ps

/-- No child is running. -/
def Quiet (cs : List Child) : Prop :=
  ∀ pid : Nat, cs[pid]? ≠ some Child.running

theorem running_modify_stop {cs : List Child} {b : Bool} {pid i : Nat} :
    (cs.modify (stopChild b) pid)[i]? = some .running ↔ i ≠ pid ∧ cs[i]? = some .running := by
  rw [List.getElem?_modify]
  by_cases h : pid = i
  · subst h
    cases cs[pid]? with
    | none => simp
    | some c => cases c <;> cases b <;> simp [stopChild]
  · cases cs[i]? <;> simp [h, Ne.symm h]

theorem covered_stopStable (env : Env) : StopStable env Covered := fun _ _ _ _ h i hi =>
  h i (running_modify_stop.1 hi).2

/-- With `processes` empty, stopping is never called: the children stay as they are. -/
theorem nil_stopStable (env : Env) (cs0 : List Child) : StopStable env fun ps cs => ps = [] ∧ cs = cs0 := by
  rintro _ _ _ hpid ⟨rfl, -⟩
  exact absurd hpid (List.not_mem_nil _)

section Quiet

variable {env : Env}

/-- A way of running `cleanup`'s statements that either runs each one, or ends in a world with no
child running. -/
def RunQuiet (run : Launch Unit → Launch Unit) : Prop :=
  ∀ (m : Launch Unit) w, Covered w.processes w.children →
    (∃ w', w'.processes = w.processes ∧ w'.children = w.children ∧ run m w = m w') ∨
      ∃ e w', run m w = .error e w' ∧ Quiet w'.children

/-- Stopping the children `rest` in turn leaves no child running, when every running child is
among them and they are all in `processes`. -/
theorem quiet_forM_stop {run : Launch Unit → Launch Unit} (hrun : RunQuiet run) :
    ∀ (rest : List Nat) (w : World), (∀ pid, w.children[pid]? = some .running → pid ∈ rest) →
      (∀ pid ∈ rest, pid ∈ w.processes) →
      Quiet (final ((rest.forM fun pid => run (stop env pid)) w)).children
  | [], w, hcov, _ => by
    show Quiet w.children
    intro pid h
    exact List.not_mem_nil _ (hcov pid h)
  | pid :: rest, w, hcov, hsub => by
    show Quiet (final ((run (stop env pid) >>= fun _ => rest.forM fun pid => run (stop env pid)) w)).children
    rw [final_bind]
    rcases hrun (stop env pid) w fun i hi => hsub i (hcov i hi) with ⟨w', hps, hcs, h⟩ | ⟨e, w', h, hq⟩
    · rw [h]
      refine quiet_forM_stop hrun rest _ (fun i hi => ?_) fun i hi => ?_
      · obtain ⟨hne, hi⟩ := running_modify_stop.1 hi
        rcases List.mem_cons.1 (hcov i (hcs ▸ hi)) with rfl | hmem
        · exact absurd rfl hne
        · exact hmem
      · exact hps ▸ hsub i (List.mem_cons_of_mem _ hi)
    · rw [h]
      exact hq

theorem quiet_cleanupWith {run : Launch Unit → Launch Unit} (hrun : RunQuiet run) (signalled : Bool)
    {w : World} (hw : Covered w.processes w.children) :
    Quiet (final (cleanupWith run env signalled w)).children := by
  rw [cleanupWith, final_bind]
  rcases hrun (emit (log [.text "Cleaning up processes..."] "WARN")) w hw with
    ⟨w', hps, hcs, h⟩ | ⟨e, w', h, hq⟩
  · rw [h, emit_log]
    dsimp only
    rw [final_bind, get_apply]
    dsimp only
    rw [final_bind_throwIf]
    exact quiet_forM_stop hrun _ _ (fun i hi => hps ▸ hw i (hcs ▸ hi)) fun i hi => hi
  · rw [h]
    exact hq

/-- The handler never returns: `cleanup(signum, frame)` ends in `sys.exit(1)`. -/
theorem onSignal_error (env : Env) (w : World) : ∃ e w', (onSignal env w : EStateM.Result Abort World α) = .error e w' := by
  unfold onSignal
  split <;> exact ⟨_, _, rfl⟩

theorem runQuiet_id : RunQuiet id := fun _ w _ => .inl ⟨w, rfl, rfl, rfl⟩

/-- The signal handler leaves no child running, when every running child is in `processes`. -/
theorem quiet_onSignal {w : World} (hw : Covered w.processes w.children) :
    Quiet (final (onSignal env w : EStateM.Result Abort World α)).children := by
  have : Quiet (final (cleanupWith id env true w)).children := quiet_cleanupWith runQuiet_id true hw
  simp only [onSignal]
  rcases h : cleanupWith id env true w with ⟨_, w'⟩ | ⟨e, w'⟩ <;> rw [h] at this <;> exact this

theorem runQuiet_atomic : RunQuiet (atomic env) := by
  intro m w hw
  by_cases hs : w.signal = some w.clock
  · rw [atomic_of_due hs]
    have hq : Quiet (final (onSignal env { w with signal := Option.none } :
        EStateM.Result Abort World Unit)).children := quiet_onSignal hw
    obtain ⟨e, w', h⟩ := onSignal_error (α := Unit) env { w with signal := Option.none }
    rw [h] at hq ⊢
    exact .inr ⟨e, w', rfl, hq⟩
  · exact .inl ⟨{ w with clock := w.clock + 1 }, rfl, rfl, atomic_of_not_due hs⟩

/-- `cleanup()` leaves no child running, when every running child is in `processes`. -/
theorem quiet_cleanup {w : World} (hw : Covered w.processes w.children) :
    Quiet (final (cleanup env w)).children :=
  quiet_cleanupWith runQuiet_atomic false hw

end Quiet

/-! ## The handler, step by step -/

/-- The children after `cleanup` stops each process of `ps` in turn. -/
def stopAll (env : Env) (ps : List Nat) (cs : List Child) : List Child :=
  ps.foldl (fun cs pid => cs.modify (stopChild env.exitsOnTerm) pid) cs

theorem forM_stop_id (env : Env) :
    ∀ (ps : List Nat) (w : World), (ps.forM fun pid => (stop env pid : Launch Unit)) w =
      .ok () { w with children := stopAll env ps w.children }
  | [], _ => rfl
  | pid :: ps, w => by
    show ((stop env pid >>= fun _ => ps.forM fun pid => stop env pid) : Launch Unit) w = _
    rw [bind_apply]
    exact forM_stop_id env ps _

/-- The handler appends its warning, stops every process of `processes`, and raises
`SystemExit(1)`. -/
theorem onSignal_apply (env : Env) (w : World) :
    (onSignal env w : EStateM.Result Abort World α) = .error (.exit 1)
      { w with out := w.out ++ (log [.text "Cleaning up processes..."] "WARN").out,
               children := stopAll env w.processes w.children } := by
  simp only [onSignal, cleanupWith, bind_apply, id_eq, emit_log, get_apply, forM_stop_id, if_true,
    throw_apply]

end TomAnalysis.Launcher
