import Mathlib.Data.Rat.Floor

/-! # Decoded JSON values as the analysis scripts see them

`json.loads` turns a line into `None`, a `bool`, an `int`, a `float`, a `str`, a `list` or a
`dict`. The scripts then read these values with `get`, subscripts, comparisons, arithmetic and
truth tests, each of which raises for some operand types. Numbers are kept exact. Where CPython
converts an `int`, or an exact quotient of `int`s, to `float`, a value past the double range
raises `OverflowError` as it does there; the rounding of floats to the nearest double, and their
overflow to `inf`, are not modelled. Strings are Unicode scalar values, so no string holds a lone
surrogate. -/

namespace TomAnalysis

/-- A value produced by `json.loads`. A `dict` keeps its keys in first-insertion order, and the
decoder never leaves two entries with one key. -/
inductive Value where
  | null
  | bool (b : Bool)
  | int (i : Int)
  | float (x : ℚ)
  | str (s : String)
  | list (xs : List Value)
  | dict (kvs : List (String × Value))
  deriving Repr, Inhabited

/-- The exceptions the scripts can raise, each with the data its message names:
`FileNotFoundError` from `open`; `AttributeError: 'type' object has no attribute 'attr'`;
`KeyError`; `IndexError`; the `TypeError`s of an ordering comparison, of an arithmetic operator,
of `statistics` on a value without numerator and denominator, of a format spec the type rejects,
of iterating and of subscripting a non-dictionary; `ValueError` for the format code `f` on a
string and for `min` or `max` of nothing; `ZeroDivisionError`; `OverflowError` with its message;
`statistics.StatisticsError` with its message; and `json.JSONDecodeError` where nothing catches
it. -/
inductive PyError where
  | fileNotFound (path : String)
  | attribute (type attr : String)
  | key (key : String)
  | index
  | unorderable (op lhs rhs : String)
  | operand (op lhs rhs : String)
  | notNumeric (type : String)
  | formatSpec (type : String)
  | formatCode (type : String)
  | notIterable (type : String)
  | subscript (type : String)
  | emptySequence (fn : String)
  | zeroDivision
  | overflow (message : String)
  | statistics (message : String)
  | decode
  deriving Repr, DecidableEq

@[simp] theorem except_ok_bind {ε α β : Type} (a : α) (f : α → Except ε β) :
    (Except.ok a >>= f) = f a := rfl

@[simp] theorem except_error_bind {ε α β : Type} (e : ε) (f : α → Except ε β) :
    (Except.error e >>= f) = .error e := rfl

@[simp] theorem except_map_ok {ε α β : Type} (f : α → β) (a : α) :
    (f <$> (Except.ok a : Except ε α)) = .ok (f a) := rfl

@[simp] theorem except_map_error {ε α β : Type} (f : α → β) (e : ε) :
    (f <$> (Except.error e : Except ε α)) = .error e := rfl

/-- A computation that returns ran each of its steps to the end. -/
theorem except_bind_eq_ok {ε α β : Type} {x : Except ε α} {f : α → Except ε β} {b : β} :
    x >>= f = .ok b ↔ ∃ a, x = .ok a ∧ f a = .ok b := by
  cases x <;> simp

namespace Value

/-- `type(v).__name__`. -/
def typeName : Value → String
  | .null => "NoneType"
  | .bool _ => "bool"
  | .int _ => "int"
  | .float _ => "float"
  | .str _ => "str"
  | .list _ => "list"
  | .dict _ => "dict"

/-- Python's truth value, as `if v` and `v or d` test it. -/
def truthy : Value → Bool
  | .null => false
  | .bool b => b
  | .int i => i != 0
  | .float x => x != 0
  | .str s => !s.isEmpty
  | .list xs => !xs.isEmpty
  | .dict kvs => !kvs.isEmpty

/-- The exact value of a number; `bool` is the integers `0` and `1`, as in Python. -/
def num? : Value → Option ℚ
  | .bool b => some (if b then 1 else 0)
  | .int i => some i
  | .float x => some x
  | _ => Option.none

/-- Whether `v` is a float; arithmetic with one float operand returns a float. -/
def isFloat : Value → Bool
  | .float _ => true
  | _ => false

/-- `v == s` for a string literal `s`. -/
def eqStr : Value → String → Bool
  | .str t, s => t == s
  | _, _ => false

/-- `v.get(key, default)`: only a `dict` has `get`. -/
def get (v : Value) (key : String) (default : Value) : Except PyError Value :=
  match v with
  | .dict kvs => .ok ((kvs.lookup key).getD default)
  | v => .error (.attribute v.typeName "get")

/-- `v[key]` for a string `key`. -/
def getItem (v : Value) (key : String) : Except PyError Value :=
  match v with
  | .dict kvs => match kvs.lookup key with
    | some x => .ok x
    | Option.none => .error (.key key)
  | v => .error (.subscript v.typeName)

/-- `v or default`. -/
def orElse (v default : Value) : Value :=
  if v.truthy then v else default

/-- The items of `for x in v`: list elements, dictionary keys, or one-character strings. -/
def iter : Value → Except PyError (List Value)
  | .list xs => .ok xs
  | .dict kvs => .ok (kvs.map fun kv => .str kv.1)
  | .str s => .ok (s.toList.map fun c => .str (String.singleton c))
  | v => .error (.notIterable v.typeName)

/-! ## Equality and ordering -/

mutual
/-- Python's `==`: numbers by value across `bool`, `int` and `float`; lists item by item;
dictionaries by key set and values. -/
def eq : Value → Value → Bool
  | .null, .null => true
  | .str a, .str b => a == b
  | .list xs, .list ys => eqList xs ys
  | .dict a, .dict b => a.length == b.length && eqDict a b
  | a, b => match a.num?, b.num? with
    | some x, some y => x == y
    | _, _ => false
/-- `==` on two lists of equal length, item by item. -/
def eqList : List Value → List Value → Bool
  | [], [] => true
  | x :: xs, y :: ys => eq x y && eqList xs ys
  | _, _ => false
/-- Every entry of the first dictionary has an equal value under its key in the second. -/
def eqDict : List (String × Value) → List (String × Value) → Bool
  | [], _ => true
  | (k, v) :: a, b =>
    (match b.lookup k with
      | some w => eq v w
      | Option.none => false) && eqDict a b
end

/-- `a < b` on strings: at the first differing code point, or the shorter when one is a prefix of
the other. -/
def strLt : List Char → List Char → Bool
  | _, [] => false
  | [], _ :: _ => true
  | c :: cs, d :: ds => if c = d then strLt cs ds else c < d

/-- The ordering operators the scripts apply: `<` in `min`, `>` in `max`, `>=` in the ladder. -/
inductive Cmp where
  | lt
  | gt
  | ge
  deriving Repr, DecidableEq

namespace Cmp

/-- The operator as Python's messages print it. -/
def symbol : Cmp → String
  | lt => "<"
  | gt => ">"
  | ge => ">="

/-- The operator on numbers. -/
def onRat : Cmp → ℚ → ℚ → Bool
  | lt, x, y => x < y
  | gt, x, y => y < x
  | ge, x, y => y ≤ x

/-- The operator on strings. -/
def onStr : Cmp → String → String → Bool
  | lt, a, b => strLt a.data b.data
  | gt, a, b => strLt b.data a.data
  | ge, a, b => !strLt a.data b.data

/-- The operator on list lengths, once one list is a prefix of the other. -/
def onNat : Cmp → Nat → Nat → Bool
  | lt, m, n => m < n
  | gt, m, n => n < m
  | ge, m, n => n ≤ m

end Cmp

mutual
/-- `a op b` for an ordering operator: numbers by value, strings by code points, lists at
their first unequal item; any other pair raises `TypeError`. -/
def compare (op : Cmp) : Value → Value → Except PyError Bool
  | .str a, .str b => .ok (op.onStr a b)
  | .list xs, .list ys => compareList op xs ys
  | a, b => match a.num?, b.num? with
    | some x, some y => .ok (op.onRat x y)
    | _, _ => .error (.unorderable op.symbol a.typeName b.typeName)
/-- Lists compare at their first unequal items, and by length when one is a prefix. -/
def compareList (op : Cmp) : List Value → List Value → Except PyError Bool
  | x :: xs, y :: ys => if eq x y then compareList op xs ys else compare op x y
  | xs, ys => .ok (op.onNat xs.length ys.length)
end

/-! ## Arithmetic -/

/-- The magnitude from which a number rounds past the largest double: `2^1024 - 2^970`, halfway
between that double and `2^1024`. It is written out so that comparisons with it evaluate. -/
def floatLimit : ℚ :=
  179769313486231580793728971405303415079934132710037826936173778980444968292764750946649017977587207096330286416692887910946555547851940402630657488671505820681908902000708383676273854845817711531764475730270069855571366959622842914819860834936475292719074168444365510704342711559699508093042880177904174497792

theorem floatLimit_eq : floatLimit = 2 ^ 1024 - 2 ^ 970 := by
  norm_num [floatLimit]

/-- `float(x)` of an exact number: `OverflowError` with `message` from `floatLimit` on. -/
def toFloat (message : String) (x : ℚ) : Except PyError ℚ :=
  if |x| < floatLimit then .ok x else .error (.overflow message)

/-- A number `v` of value `x` as an operand of float arithmetic or of a float format: an `int` is
converted first. -/
def asFloat (v : Value) (x : ℚ) : Except PyError ℚ :=
  if v.isFloat then .ok x else toFloat "int too large to convert to float" x

/-- The integer an `int` or a `bool` is. -/
def int? : Value → Option Int
  | .bool b => some (if b then 1 else 0)
  | .int i => some i
  | _ => Option.none

/-- `a + b` on numbers: an `int` for two integers, and otherwise the float sum of the operands
converted to `float`. -/
def add (a b : Value) : Except PyError Value :=
  match a.int?, b.int?, a.num?, b.num? with
  | some i, some j, _, _ => .ok (.int (i + j))
  | _, _, some x, some y => do
    let x ← a.asFloat x
    let y ← b.asFloat y
    pure (.float (x + y))
  | _, _, _, _ => .error (.operand "+" a.typeName b.typeName)

/-- `n * v` for an `int` literal `n`: a number, or a repeated string or list. -/
def mulInt (n : Int) (v : Value) : Except PyError Value :=
  match v with
  | .bool b => .ok (.int (n * if b then 1 else 0))
  | .int i => .ok (.int (n * i))
  | .float x => .ok (.float (n * x))
  | .str s => .ok (.str (String.join (List.replicate n.toNat s)))
  | .list xs => .ok (.list (List.replicate n.toNat xs).flatten)
  | v => .error (.operand "*" "int" v.typeName)

/-- `a / b`: true division of numbers always gives a float. Two integers are divided exactly and
the quotient converted; otherwise both operands are converted first. -/
def trueDiv (a b : Value) : Except PyError Value :=
  match a.num?, b.num? with
  | some x, some y =>
    if a.isFloat || b.isFloat then do
      let x ← a.asFloat x
      let y ← b.asFloat y
      if y = 0 then .error .zeroDivision else pure (.float (x / y))
    else if y = 0 then .error .zeroDivision
    else .float <$> toFloat "integer division result too large for a float" (x / y)
  | _, _ => .error (.operand "/" a.typeName b.typeName)

/-- `a // b`: floor division, an `int` unless an operand is a float. -/
def floorDiv (a b : Value) : Except PyError Value :=
  match a.num?, b.num? with
  | some x, some y =>
    if y = 0 then .error .zeroDivision
    else if a.isFloat || b.isFloat then .ok (.float ⌊x / y⌋) else .ok (.int ⌊x / y⌋)
  | _, _ => .error (.operand "//" a.typeName b.typeName)

/-! ## Basic facts -/

@[simp] theorem get_dict (kvs : List (String × Value)) (key : String) (d : Value) :
    (dict kvs).get key d = .ok ((kvs.lookup key).getD d) := rfl

@[simp] theorem num?_int (i : Int) : (int i).num? = some (i : ℚ) := rfl

@[simp] theorem num?_float (x : ℚ) : (float x).num? = some x := rfl

@[simp] theorem eqStr_str (t s : String) : (str t).eqStr s = (t == s) := rfl

theorem eqStr_iff (v : Value) (s : String) : v.eqStr s = true ↔ v = .str s := by
  cases v <;> simp [eqStr]

/-- Ordering two numbers never raises. -/
theorem compare_num {a b : Value} {x y : ℚ} (ha : a.num? = some x) (hb : b.num? = some y)
    (op : Cmp) : compare op a b = .ok (op.onRat x y) := by
  cases a <;> cases b <;> simp only [num?, reduceCtorEq, Option.some.injEq] at ha hb <;>
    subst ha hb <;> rfl

end Value

end TomAnalysis
