import TomAnalysis.Launcher.Status

/-! # What a signal does to a run of the launcher

The launcher's code is `Blind`: run with a SIGINT or SIGTERM due at step `k`, it either runs exactly
as without it, when `k` is not among the steps that run takes, or the handler's `sys.exit(1)` ends
it. Each combinator keeps this, and every action of an atomic step ignores the signal
(`Oblivious`), so `main` is blind. `finally` needs one more fact: `cleanup()` returns when no
signal is pending, so a `SystemExit` raised in the `try` is the one the run ends with.

`launch_signal` is the resulting simulation between a run with a signal and the run without it,
and `exitStatus_launch` its exit status. -/

namespace TomAnalysis.Launcher

variable {α β : Type}

/-- An outcome with its world's pending signal set to `s`. -/
def withSignal (s : Option Nat) : EStateM.Result Abort World α → EStateM.Result Abort World α
  | .ok a w => .ok a { w with signal := s }
  | .error e w => .error e { w with signal := s }

@[simp] theorem withSignal_ok (s : Option Nat) (a : α) (w : World) :
    withSignal s (.ok a w : EStateM.Result Abort World α) = .ok a { w with signal := s } := rfl

@[simp] theorem withSignal_error (s : Option Nat) (e : Abort) (w : World) :
    withSignal s (.error e w : EStateM.Result Abort World α) = .error e { w with signal := s } := rfl

@[simp] theorem final_withSignal (s : Option Nat) (r : EStateM.Result Abort World α) :
    final (withSignal s r) = { final r with signal := s } := by
  cases r <;> rfl

theorem with_signal_eq {w : World} {s : Option Nat} (h : w.signal = s) : { w with signal := s } = w := by
  cases w
  cases h
  rfl

/-- An action of one atomic step that neither reads nor writes the pending signal, nor the clock. -/
def Oblivious (act : Launch α) : Prop :=
  ∀ w, act w = withSignal w.signal (act { w with signal := Option.none }) ∧
    (final (act w)).clock = w.clock

/-- Code whose run from a world with a signal due at step `k` is either its run without the signal,
with `k` outside the steps that run takes and the signal still pending at its end, or ends with the
handler's `SystemExit(1)` at one of those steps. Without a pending signal, it leaves none pending and
does not turn the clock back. -/
structure Blind (m : Launch α) : Prop where
  calm : ∀ w, w.signal = Option.none →
    (final (m w)).signal = Option.none ∧ w.clock ≤ (final (m w)).clock
  sim : ∀ w k, w.signal = some k →
    (¬(w.clock ≤ k ∧ k < (final (m { w with signal := Option.none })).clock) ∧
      m w = withSignal (some k) (m { w with signal := Option.none })) ∨
    (w.clock ≤ k ∧ k < (final (m { w with signal := Option.none })).clock ∧
      ∃ w', m w = .error (.exit 1) w' ∧ w'.signal = Option.none)

section Blind

variable {env : Env}

theorem blind_pure (a : α) : Blind (pure a : Launch α) where
  calm w hw := ⟨hw, le_rfl⟩
  sim w k hk := .inl ⟨by simp, by simp [withSignal, with_signal_eq hk]⟩

theorem Blind.bind {x : Launch α} {f : α → Launch β} (hx : Blind x) (hf : ∀ a, Blind (f a)) :
    Blind (x >>= f) where
  calm w hw := by
    obtain ⟨hs1, hc1⟩ := hx.calm w hw
    rw [final_bind]
    rcases h : x w with ⟨a, w1⟩ | ⟨e, w1⟩ <;> rw [h] at hs1 hc1
    · obtain ⟨hs2, hc2⟩ := (hf a).calm w1 hs1
      exact ⟨hs2, hc1.trans hc2⟩
    · exact ⟨hs1, hc1⟩
  sim w k hk := by
    obtain ⟨hs1, hc1⟩ := hx.calm { w with signal := Option.none } rfl
    rw [final_bind]
    rcases hx.sim w k hk with ⟨hout, hxw⟩ | ⟨hlo, hhi, w', hxw, hw'⟩
    · rw [bind_apply, hxw, bind_apply]
      rcases h0 : x { w with signal := Option.none } with ⟨a, w1⟩ | ⟨e, w1⟩ <;>
        rw [h0] at hs1 hc1 hout <;>
        simp only [withSignal_ok, withSignal_error, final_ok, final_error] at hs1 hc1 hout ⊢
      · have hw1 : { w1 with signal := Option.none } = w1 := with_signal_eq hs1
        obtain ⟨hs2, hc2⟩ := (hf a).calm w1 hs1
        rcases (hf a).sim { w1 with signal := some k } k rfl with
          ⟨hout2, hfw⟩ | ⟨hlo2, hhi2, w'', hfw, hw''⟩
        · dsimp only at hout2 hfw
          rw [hw1] at hout2 hfw
          exact .inl ⟨by omega, hfw⟩
        · dsimp only at hlo2 hhi2
          rw [hw1] at hhi2
          exact .inr ⟨by omega, hhi2, w'', hfw, hw''⟩
      · exact .inl ⟨hout, trivial⟩
    · refine .inr ⟨hlo, ?_, w', by rw [bind_apply, hxw], hw'⟩
      rcases h0 : x { w with signal := Option.none } with ⟨a, w1⟩ | ⟨e, w1⟩ <;>
        rw [h0] at hs1 hhi <;> simp only [final_ok, final_error] at hs1 hhi ⊢
      · exact lt_of_lt_of_le hhi ((hf a).calm w1 hs1).2
      · exact hhi

/-- An atomic step handles a signal due at it; otherwise it runs its action, which ignores the
signal. -/
theorem blind_atomic {act : Launch α} (hact : Oblivious act) : Blind (atomic env act) where
  calm w hw := by
    rw [atomic_of_not_due (by simp [hw])]
    obtain ⟨h1, h2⟩ := hact { w with clock := w.clock + 1 }
    refine ⟨?_, by rw [h2]; exact Nat.le_succ _⟩
    rw [h1]
    simp [hw]
  sim w k hk := by
    rw [atomic_of_not_due (w := { w with signal := Option.none }) (by simp)]
    obtain ⟨h1, h2⟩ := hact { w with clock := w.clock + 1 }
    have hc : (final (act { w with signal := Option.none, clock := w.clock + 1 })).clock = w.clock + 1 :=
      (hact _).2
    by_cases hd : k = w.clock
    · rw [atomic_of_due (by rw [hk, hd]), onSignal_apply, hc]
      exact .inr ⟨by omega, by omega, _, rfl, rfl⟩
    · rw [atomic_of_not_due (by rw [hk]; simpa using hd), hc, h1, hk]
      exact .inl ⟨by omega, rfl⟩

/-- `try`/`finally` is blind when its two parts are, and the `finally` code returns when no signal
is pending. -/
theorem Blind.tryFinally {x : Launch α} {h : Launch Unit} (hx : Blind x) (hh : Blind h)
    (hok : ∀ w, w.signal = Option.none → ∃ w', h w = .ok () w') : Blind (tryFinally x h) where
  calm w hw := by
    rw [final_tryFinally]
    obtain ⟨hs1, hc1⟩ := hx.calm w hw
    obtain ⟨hs2, hc2⟩ := hh.calm _ hs1
    exact ⟨hs2, hc1.trans hc2⟩
  sim w k hk := by
    rw [final_tryFinally]
    obtain ⟨hs1, hc1⟩ := hx.calm { w with signal := Option.none } rfl
    rcases hx.sim w k hk with ⟨hout, hxw⟩ | ⟨hlo, hhi, w', hxw, hw'⟩
    · rw [tryFinally_apply, tryFinally_apply, hxw]
      generalize x { w with signal := Option.none } = r at hs1 hc1 hout ⊢
      have hw1 := with_signal_eq hs1
      rcases hh.sim { final r with signal := some k } k rfl with
        ⟨hout2, hhw⟩ | ⟨hlo2, hhi2, w'', hhw, hw''⟩ <;> dsimp only at * <;> rw [hw1] at *
      · refine .inl ⟨by omega, ?_⟩
        rcases r with ⟨a, w1⟩ | ⟨e, w1⟩ <;> simp only [withSignal_ok, withSignal_error, final_ok,
          final_error] at hhw ⊢ <;> rw [hhw] <;> rcases h w1 with ⟨_, w2⟩ | ⟨e', w2⟩ <;> rfl
      · refine .inr ⟨by omega, hhi2, w'', ?_, hw''⟩
        rcases r with ⟨a, w1⟩ | ⟨e, w1⟩ <;> simp only [withSignal_ok, withSignal_error, final_ok,
          final_error] at hhw ⊢ <;> rw [hhw]
    · obtain ⟨w'', hhw⟩ := hok w' hw'
      have hs2 := (hh.calm w' hw').1
      rw [hhw, final_ok] at hs2
      refine .inr ⟨hlo, lt_of_lt_of_le hhi (hh.calm _ hs1).2, w'', ?_, hs2⟩
      rw [tryFinally_apply, hxw]
      dsimp only
      rw [hhw]

theorem Blind.forM {l : List β} {g : β → Launch Unit} (hg : ∀ b ∈ l, Blind (g b)) :
    Blind (l.forM g) := by
  induction l with
  | nil => exact blind_pure _
  | cons b l ih =>
    show Blind (g b >>= fun _ => l.forM g)
    exact (hg b (List.mem_cons_self _ _)).bind fun _ => ih fun c hc => hg c (List.mem_cons_of_mem _ hc)

/-- Reading the world is blind when what follows reads no pending signal. -/
theorem blind_get_bind {g : World → Launch β} (hg : ∀ v, Blind (g v))
    (hsig : ∀ v : World, g { v with signal := Option.none } = g v) : Blind (get >>= g) where
  calm w hw := by
    rw [bind_apply, get_apply]
    exact (hg w).calm w hw
  sim w k hk := by
    simp only [bind_apply, get_apply, hsig]
    exact (hg w).sim w k hk

/-! ## The launcher's actions ignore the signal -/

theorem oblivious_emit (r : Py Unit) : Oblivious (emit r) := fun w => by
  unfold emit
  split <;> exact ⟨rfl, rfl⟩

theorem oblivious_pure (a : α) : Oblivious (pure a : Launch α) := fun _ => ⟨rfl, rfl⟩

theorem oblivious_spawn (up : Bool) : Oblivious (spawn up) := fun _ => ⟨rfl, rfl⟩

theorem oblivious_poll (pid : Nat) : Oblivious (poll pid) := fun _ => ⟨rfl, rfl⟩

theorem oblivious_append (pid : Nat) :
    Oblivious (modify fun w => { w with processes := w.processes ++ [pid] } : Launch Unit) :=
  fun _ => ⟨rfl, rfl⟩

theorem oblivious_stop (pid : Nat) : Oblivious (stop env pid) := fun _ => ⟨rfl, rfl⟩

theorem blind_closed : Closed env fun {_} m => Blind m where
  pure := blind_pure
  bind := Blind.bind
  emit r := blind_atomic (oblivious_emit r)
  ask a := blind_atomic (oblivious_pure a)
  build := blind_atomic fun _ => by split <;> exact ⟨rfl, rfl⟩
  poll pid := blind_atomic (oblivious_poll pid)

/-! ## The launcher is blind -/

theorem blind_cleanup : Blind (cleanup env) :=
  (blind_atomic (oblivious_emit _)).bind fun _ =>
    blind_get_bind (fun _ => (Blind.forM fun pid _ => blind_atomic (oblivious_stop pid)).bind
      fun _ => blind_pure _) fun _ => rfl

theorem blind_startSignalingServer (port : Nat) : Blind (startSignalingServer env port) := by
  rw [startSignalingServer_eq]
  exact Blind.bind (blind_closed.serverPrefix port) fun _ =>
    (blind_atomic (oblivious_spawn _)).bind fun pid =>
      (blind_atomic (oblivious_append pid)).bind fun _ => blind_closed.serverTail pid

theorem blind_mainBody (reportsDir : String) (args : Args) : Blind (mainBody env reportsDir args) := by
  unfold mainBody
  split
  · refine (blind_startSignalingServer 3000).bind fun _ => ?_
    split
    exacts [blind_pure _, (blind_pure _).bind fun _ => blind_closed.testsAndReport reportsDir args]
  · exact (blind_pure _).bind fun _ => blind_closed.testsAndReport reportsDir args

theorem blind_main (env : Env) (reportsDir : String) (args : Args) :
    Blind (main env reportsDir args) := by
  rw [main_eq]
  split
  · exact Blind.bind (blind_closed.emit _) fun _ => blind_pure _
  · refine Blind.bind blind_closed.checkDependencies fun _ => ?_
    split
    · exact blind_pure _
    · refine Blind.bind (blind_closed.ask _) fun _ =>
        (blind_mainBody reportsDir args).tryFinally blind_cleanup fun w hw => ?_
      obtain ⟨⟨⟩, w', h, -⟩ := returns_cleanup w hw
      exact ⟨w', h⟩

end Blind

/-! ## A run with a signal -/

theorem exitStatus_withSignal (s : Option Nat) (r : EStateM.Result Abort World Int) :
    exitStatus (withSignal s r) = exitStatus r := by
  rcases r with _ | ⟨_ | _ | _, _⟩ <;> rfl

/-- A SIGINT or SIGTERM due at one of the atomic steps a run of the launcher takes without it ends
the run with the handler's `SystemExit(1)`, no signal pending. Due at a later step, it changes
nothing: the run is the run without it, and the signal is still pending at its end. -/
theorem launch_signal (env : Env) (reportsDir : String) (args : Args) (k : Nat) :
    if k < (final (launch env reportsDir args Option.none)).clock then
      ∃ w, launch env reportsDir args (some k) = .error (.exit 1) w ∧ w.signal = Option.none
    else
      launch env reportsDir args (some k) =
        withSignal (some k) (launch env reportsDir args Option.none) := by
  unfold launch
  rcases (blind_main env reportsDir args).sim ⟨[], [], [], 0, some k⟩ k rfl with
    ⟨hout, h⟩ | ⟨-, hk, h⟩ <;> dsimp only at *
  · rw [if_neg fun hk => hout ⟨Nat.zero_le k, hk⟩]
    exact h
  · rw [if_pos hk]
    exact h

/-- The launcher's exit status: 1 when a SIGINT or SIGTERM comes at one of the atomic steps of the
run without it, and otherwise the status `expectedStatus` gives from the system's answers. -/
theorem exitStatus_launch (env : Env) (reportsDir : String) (args : Args) (signal : Option Nat) :
    exitStatus (launch env reportsDir args signal) =
      if signal.any (· < (final (launch env reportsDir args Option.none)).clock) then 1
      else expectedStatus env reportsDir args := by
  rcases signal with _ | k
  · exact exitStatus_undisturbed env reportsDir args
  · have hnone := exitStatus_undisturbed env reportsDir args
    unfold launch at hnone ⊢
    rcases (blind_main env reportsDir args).sim ⟨[], [], [], 0, some k⟩ k rfl with
      ⟨hout, h⟩ | ⟨-, hk, w, h, -⟩ <;> dsimp only at *
    · have hk : ¬k < (final (main env reportsDir args ⟨[], [], [], 0, Option.none⟩)).clock :=
        fun hk => hout ⟨Nat.zero_le k, hk⟩
      rw [h, exitStatus_withSignal, hnone]
      simp [hk]
    · rw [h]
      simp [hk, exitStatus]

end TomAnalysis.Launcher
