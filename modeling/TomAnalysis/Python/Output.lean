import TomAnalysis.Python.Value

/-! # Printed lines and raised exceptions

A run of a script prints lines and may end in an uncaught exception; the lines printed before
the exception stay on standard output. `Prog` pairs the printed lines with the value returned or
the way the run stopped: `Py` for the analysis code, whose only way to stop early is an
exception, and `Main` for a script's `main`, which may also call `sys.exit`. A line is kept as
the pieces of its f-string: literal text, and each replacement field with its format spec and
the value it formats. The digits Python prints for a field are a function of that piece; they
are not spelled out. `print` raises `UnicodeEncodeError` only on a lone surrogate, which no
string of the model holds, so it always returns. -/

namespace TomAnalysis

/-- One piece of a printed f-string: literal text; a field `{v}` or `{v:spec}` with an empty or
width-only spec; a fixed-point field such as `{x:.1f}` for the number `x`, printed as the double
nearest `x`; a fixed-point field holding the square root of `x`; a field `{s:spec}` whose string
was itself built by an f-string; the wall-clock time `datetime.now().strftime("%H:%M:%S")` when
the line is printed; and `{e}` for a caught exception, its message `str(e)`. -/
inductive Piece where
  | text (s : String)
  | field (spec : String) (v : Value)
  | fixed (spec : String) (x : ℚ)
  | fixedSqrt (spec : String) (x : ℚ)
  | nested (spec : String) (parts : List Piece)
  | clock
  | message (e : PyError)
  deriving Repr

/-- One `print` call. -/
abbrev Line := List Piece

/-- The format specs the scripts use: empty (`str(v)`), a width and alignment only such as `>10`,
and a fixed-point spec such as `.1f` or `>9.1f`. -/
inductive Spec where
  | plain
  | width (text : String)
  | fixed (text : String)
  deriving Repr, DecidableEq

/-- `format(v, spec)`: `None`, lists and dictionaries accept only the empty spec, and only numbers
accept a fixed-point one, which converts an `int` to `float`. -/
def Value.format : Spec → Value → Except PyError Piece
  | .plain, v => .ok (.field "" v)
  | .width s, v => match v with
    | .null | .list _ | .dict _ => .error (.formatSpec v.typeName)
    | v => .ok (.field s v)
  | .fixed s, v => match v.num? with
    | some x => .fixed s <$> v.asFloat x
    | Option.none => match v with
      | .str _ => .error (.formatCode "str")
      | v => .error (.formatSpec v.typeName)

/-- Lines printed, and the value returned or how the run stopped. -/
structure Prog (ε α : Type) where
  out : List Line
  res : Except ε α

/-- The analysis code: it prints, and returns or raises. -/
abbrev Py := Prog PyError

/-- How a script's `main` stops before its end: an exception no handler caught, or
`sys.exit(code)`. -/
inductive Stop where
  | raise (e : PyError)
  | exit (code : Nat)
  deriving Repr, DecidableEq

/-- A script's `main`. -/
abbrev Main := Prog Stop

namespace Prog

variable {ε ε' α β : Type}

/-- Sequencing: an early stop skips the rest, and keeps what was printed before it. -/
protected def bind (m : Prog ε α) (f : α → Prog ε β) : Prog ε β :=
  match m.res with
  | .ok a => ⟨m.out ++ (f a).out, (f a).res⟩
  | .error e => ⟨m.out, .error e⟩

instance : Monad (Prog ε) where
  pure a := ⟨[], .ok a⟩
  bind := Prog.bind

/-- `try: m except: handler`. -/
protected def tryCatch (m : Prog ε α) (handler : ε → Prog ε α) : Prog ε α :=
  match m.res with
  | .ok _ => m
  | .error e => ⟨m.out ++ (handler e).out, (handler e).res⟩

instance : MonadExceptOf ε (Prog ε) where
  throw e := ⟨[], .error e⟩
  tryCatch := Prog.tryCatch

/-- `print(...)`. -/
def print (l : Line) : Prog ε Unit := ⟨[l], .ok ()⟩

/-- A computation that prints nothing. -/
def lift (x : Except ε α) : Prog ε α := ⟨[], x⟩

/-- Analysis code run from `main`: an exception it raises escapes `main`. -/
def escape (m : Py α) : Main α := ⟨m.out, m.res.mapError .raise⟩

/-- The exit status of a run: `0` when `main` returns, the code of `sys.exit`, and `1` for an
uncaught exception. -/
def exitStatus (m : Main Unit) : Nat :=
  match m.res with
  | .ok _ => 0
  | .error (.exit code) => code
  | .error (.raise _) => 1

/-! ## Running a sequence -/

@[simp] theorem pure_out (a : α) : (pure a : Prog ε α).out = [] := rfl

@[simp] theorem pure_res (a : α) : (pure a : Prog ε α).res = .ok a := rfl

@[simp] theorem print_out (l : Line) : (print l : Prog ε Unit).out = [l] := rfl

@[simp] theorem print_res (l : Line) : (print l : Prog ε Unit).res = .ok () := rfl

@[simp] theorem lift_out (x : Except ε α) : (lift x).out = [] := rfl

@[simp] theorem lift_res (x : Except ε α) : (lift x).res = x := rfl

@[simp] theorem throw_out (e : ε) : (throw e : Prog ε α).out = [] := rfl

@[simp] theorem throw_res (e : ε) : (throw e : Prog ε α).res = .error e := rfl

@[simp] theorem escape_out (m : Py α) : (escape m).out = m.out := rfl

@[simp] theorem escape_ok (o : List Line) (a : α) :
    escape (⟨o, .ok a⟩ : Py α) = ⟨o, .ok a⟩ := rfl

@[simp] theorem escape_error (o : List Line) (e : PyError) :
    escape (⟨o, .error e⟩ : Py α) = ⟨o, .error (.raise e)⟩ := rfl

@[simp] theorem exitStatus_ok (o : List Line) : exitStatus ⟨o, .ok ()⟩ = 0 := rfl

@[simp] theorem exitStatus_raise (o : List Line) (e : PyError) :
    exitStatus ⟨o, .error (.raise e)⟩ = 1 := rfl

@[simp] theorem exitStatus_exit (o : List Line) (code : Nat) :
    exitStatus ⟨o, .error (.exit code)⟩ = code := rfl

theorem bind_of_ok {m : Prog ε α} {a : α} (h : m.res = .ok a) (f : α → Prog ε β) :
    m >>= f = ⟨m.out ++ (f a).out, (f a).res⟩ := by
  show Prog.bind m f = _
  simp only [Prog.bind, h]

theorem bind_of_error {m : Prog ε α} {e : ε} (h : m.res = .error e) (f : α → Prog ε β) :
    m >>= f = ⟨m.out, .error e⟩ := by
  show Prog.bind m f = _
  simp only [Prog.bind, h]

@[simp] theorem lift_ok_bind (a : α) (f : α → Prog ε β) : lift (.ok a) >>= f = f a := rfl

@[simp] theorem lift_error_bind (e : ε) (f : α → Prog ε β) :
    lift (.error e) >>= f = ⟨[], .error e⟩ := rfl

@[simp] theorem print_bind (l : Line) (f : Unit → Prog ε β) :
    print l >>= f = ⟨l :: (f ()).out, (f ()).res⟩ := rfl

@[simp] theorem pure_bind (a : α) (f : α → Prog ε β) : pure a >>= f = f a := rfl

@[simp] theorem bind_assoc (m : Prog ε α) (f : α → Prog ε β) {γ : Type} (g : β → Prog ε γ) :
    m >>= f >>= g = m >>= fun a => f a >>= g := by
  show Prog.bind (Prog.bind m f) g = Prog.bind m fun a => Prog.bind (f a) g
  rcases m with ⟨o, e | a⟩
  · rfl
  · simp only [Prog.bind]
    split <;> simp

@[simp] theorem mk_ok_bind (o : List Line) (a : α) (f : α → Prog ε β) :
    (⟨o, .ok a⟩ : Prog ε α) >>= f = ⟨o ++ (f a).out, (f a).res⟩ := rfl

@[simp] theorem mk_error_bind (o : List Line) (e : ε) (f : α → Prog ε β) :
    (⟨o, .error e⟩ : Prog ε α) >>= f = ⟨o, .error e⟩ := rfl

/-- How a sequence ends depends only on how its parts end: its outcome is the `Except` sequence
of theirs. -/
@[simp] theorem bind_res (m : Prog ε α) (f : α → Prog ε β) :
    (m >>= f).res = m.res >>= fun a => (f a).res := by
  rcases h : m.res with e | a
  · rw [bind_of_error h]; rfl
  · rw [bind_of_ok h]; rfl

/-- A sequence returns exactly when its first part returns and the rest returns from there. -/
theorem bind_res_eq_ok {m : Prog ε α} {f : α → Prog ε β} {b : β} :
    (m >>= f).res = .ok b ↔ ∃ a, m.res = .ok a ∧ (f a).res = .ok b := by
  rcases h : m.res with e | a
  · simp [bind_of_error h]
  · simp [bind_of_ok h]

/-- Running analysis code from `main` commutes with sequencing. -/
theorem escape_bind (m : Py α) (f : α → Py β) :
    escape m >>= (fun a => escape (f a)) = escape (m >>= f) := by
  rcases m with ⟨o, e | a⟩ <;> rfl

@[simp] theorem ite_escape (c : Prop) [Decidable c] (m : Py Unit) :
    (if c then escape m else pure ()) = escape (if c then m else pure ()) := by
  split <;> rfl

/-- `main` exits with status 0 after running analysis code exactly when that code returns. -/
theorem exitStatus_escape (o : List Line) (m : Py Unit) :
    exitStatus ⟨o, (escape m).res⟩ = 0 ↔ m.res = .ok () := by
  rcases m with ⟨o', e | ⟨⟩⟩ <;> simp [escape, exitStatus, Except.mapError]

/-! ## A loop without a handler

`for x in xs: body(x)` either runs every body to its end, or stops at the first body that
raises, after printing what the bodies before it printed. -/

/-- The loop returns: every body returned, and the output is theirs in order. -/
theorem forM_of_ok {xs : List α} {f : α → Prog ε Unit} (h : ∀ x ∈ xs, (f x).res = .ok ()) :
    xs.forM f = ⟨(xs.map fun x => (f x).out).flatten, .ok ()⟩ := by
  induction xs with
  | nil => rfl
  | cons x xs ih =>
    show f x >>= (fun _ => xs.forM f) = _
    rw [bind_of_ok (h x (List.mem_cons_self _ _)), ih fun y hy => h y (List.mem_cons_of_mem _ hy)]
    rfl

theorem forM_res_of_ok {xs : List α} {f : α → Prog ε Unit} (h : ∀ x ∈ xs, (f x).res = .ok ()) :
    (xs.forM f).res = .ok () := by
  rw [forM_of_ok h]

/-- Printing lines one by one prints them. -/
@[simp] theorem forM_print (ls : List Line) : ls.forM print = (⟨ls, .ok ()⟩ : Prog ε Unit) := by
  rw [forM_of_ok fun _ _ => rfl, ← List.flatMap_def]
  exact congrArg (fun o => (⟨o, .ok ()⟩ : Prog ε Unit)) (List.flatMap_singleton' ls)

/-- The loop stops at the first body that raises. -/
theorem forM_of_error {pre post : List α} {x : α} {f : α → Prog ε Unit} {e : ε}
    (hpre : ∀ y ∈ pre, (f y).res = .ok ()) (hx : (f x).res = .error e) :
    (pre ++ x :: post).forM f = ⟨(pre.map fun y => (f y).out).flatten ++ (f x).out, .error e⟩ := by
  induction pre with
  | nil => exact (bind_of_error hx _).trans (by simp)
  | cons y pre ih =>
    show f y >>= (fun _ => (pre ++ x :: post).forM f) = _
    rw [bind_of_ok (hpre y (List.mem_cons_self _ _)),
      ih fun z hz => hpre z (List.mem_cons_of_mem _ hz)]
    simp

/-- Every run of a loop is one of the two above. -/
theorem forM_cases (xs : List α) (f : α → Prog ε Unit) :
    (∀ x ∈ xs, (f x).res = .ok ()) ∨
      ∃ pre x post e, xs = pre ++ x :: post ∧ (∀ y ∈ pre, (f y).res = .ok ()) ∧
        (f x).res = .error e := by
  induction xs with
  | nil => exact .inl fun _ h => absurd h (List.not_mem_nil _)
  | cons x xs ih =>
    rcases hx : (f x).res with e | ⟨⟩
    · exact .inr ⟨[], x, xs, e, rfl, fun _ h => absurd h (List.not_mem_nil _), hx⟩
    rcases ih with hall | ⟨pre, y, post, e, rfl, hpre, hy⟩
    · exact .inl (List.forall_mem_cons.2 ⟨hx, hall⟩)
    · exact .inr ⟨x :: pre, y, post, e, rfl, List.forall_mem_cons.2 ⟨hx, hpre⟩, hy⟩

theorem forM_res_eq_ok {xs : List α} {f : α → Prog ε Unit} :
    (xs.forM f).res = .ok () ↔ ∀ x ∈ xs, (f x).res = .ok () := by
  refine ⟨fun h => ?_, forM_res_of_ok⟩
  rcases forM_cases xs f with hall | ⟨pre, x, post, e, rfl, hpre, hx⟩
  · exact hall
  · rw [forM_of_error hpre hx] at h
    cases h

end Prog

end TomAnalysis
