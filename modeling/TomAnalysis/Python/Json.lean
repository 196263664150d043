import TomAnalysis.Python.Value

/-! # `str.strip` and `json.loads`

The loaders strip each line and hand it to `json.loads`. The decoder follows CPython's C scanner
(`_json.c`): the value grammar, the whitespace it skips, the `\uXXXX` escapes with surrogate
pairs, and `dict` building where a repeated key keeps its first position and its last value.
Two departures: a Lean string cannot hold a lone surrogate, which decodes to U+FFFD here; and the
non-standard constants `NaN`, `Infinity` and `-Infinity`, which CPython also accepts, are left out
with the rest of non-finite floats. A number with a fraction or an exponent is a float, kept as its
exact decimal value. -/

namespace TomAnalysis

namespace Json

/-- `str.isspace` on one character: what `str.strip()` removes. -/
def isPySpace (c : Char) : Bool :=
  let n := c.toNat
  (0x09 ≤ n && n ≤ 0x0D) || (0x1C ≤ n && n ≤ 0x20) || n == 0x85 || n == 0xA0 ||
    n == 0x1680 || (0x2000 ≤ n && n ≤ 0x200A) || n == 0x2028 || n == 0x2029 ||
    n == 0x202F || n == 0x205F || n == 0x3000

/-- `s.strip()`. -/
def strip (s : String) : String :=
  ⟨((s.data.dropWhile isPySpace).reverse.dropWhile isPySpace).reverse⟩

/-- The whitespace JSON allows between tokens. -/
def isWs (c : Char) : Bool :=
  c == ' ' || c == '\t' || c == '\n' || c == '\r'

/-- Skip JSON whitespace. -/
def skipWs : List Char → List Char
  | c :: cs => if isWs c then skipWs cs else c :: cs
  | [] => []

def isDigit (c : Char) : Bool :=
  '0' ≤ c && c ≤ '9'

/-- The value of a hexadecimal digit. -/
def hexVal (c : Char) : Option Nat :=
  if '0' ≤ c && c ≤ '9' then some (c.toNat - '0'.toNat)
  else if 'a' ≤ c && c ≤ 'f' then some (c.toNat - 'a'.toNat + 10)
  else if 'A' ≤ c && c ≤ 'F' then some (c.toNat - 'A'.toNat + 10)
  else Option.none

/-- The code unit of the four hexadecimal digits of a `\uXXXX` escape. -/
def hex4 (a b c d : Char) : Option Nat := do
  let a ← hexVal a
  let b ← hexVal b
  let c ← hexVal c
  let d ← hexVal d
  pure (((a * 16 + b) * 16 + c) * 16 + d)

/-- The character of one escaped code unit; a lone surrogate becomes U+FFFD. -/
def unitChar (n : Nat) : Char :=
  if 0xD800 ≤ n && n ≤ 0xDFFF then '�' else Char.ofNat n

/-- The character of a simple backslash escape. -/
def escapeChar : Char → Option Char
  | '"' => some '"'
  | '\\' => some '\\'
  | '/' => some '/'
  | 'b' => some '\x08'
  | 'f' => some '\x0c'
  | 'n' => some '\n'
  | 'r' => some '\r'
  | 't' => some '\t'
  | _ => Option.none

/-- A high surrogate escape not followed by a low one stands for itself. -/
def flushSurrogate : Option Nat → List Char → List Char
  | some hi, acc => unitChar hi :: acc
  | Option.none, acc => acc

/-- Scan a string after its opening quote; `acc` holds the characters read so far, reversed. A
control character below U+0020 is an error, as in the decoder's default strict mode. A `\uXXXX`
escape of a high surrogate is held in `pending` until the next character shows whether a low
surrogate escape follows, which the decoder joins with it. -/
def scanString : List Char → Option Nat → List Char → Option (String × List Char)
  | [], _, _ => Option.none
  | '"' :: rest, pending, acc => some (⟨(flushSurrogate pending acc).reverse⟩, rest)
  | '\\' :: 'u' :: a :: b :: c :: d :: rest, pending, acc =>
    match hex4 a b c d with
    | Option.none => Option.none
    | some n =>
      let high := 0xD800 ≤ n && n ≤ 0xDBFF
      match pending with
      | some hi =>
        if 0xDC00 ≤ n && n ≤ 0xDFFF then
          scanString rest Option.none
            (Char.ofNat (0x10000 + (hi - 0xD800) * 0x400 + (n - 0xDC00)) :: acc)
        else if high then scanString rest (some n) (unitChar hi :: acc)
        else scanString rest Option.none (unitChar n :: unitChar hi :: acc)
      | Option.none =>
        if high then scanString rest (some n) acc else scanString rest Option.none (unitChar n :: acc)
  | '\\' :: e :: rest, pending, acc =>
    match escapeChar e with
    | some c => scanString rest Option.none (c :: flushSurrogate pending acc)
    | Option.none => Option.none
  | c :: rest, pending, acc =>
    if c.toNat ≤ 0x1F then Option.none
    else scanString rest Option.none (c :: flushSurrogate pending acc)

/-- The value of a run of decimal digits. -/
def digitsVal (ds : List Char) : Nat :=
  ds.foldl (fun n d => 10 * n + (d.toNat - '0'.toNat)) 0

/-- `-?(0|[1-9][0-9]*)`, the integer part of a number: its digits and the rest. -/
def scanIntPart : List Char → Option (List Char × List Char)
  | '0' :: rest => some (['0'], rest)
  | c :: rest =>
    if '1' ≤ c && c ≤ '9' then some (c :: rest.takeWhile isDigit, rest.dropWhile isDigit)
    else Option.none
  | [] => Option.none

/-- `(\.[0-9]+)?`: the fraction digits, taken only when a digit follows the point. -/
def scanFrac : List Char → List Char × List Char
  | '.' :: d :: rest =>
    if isDigit d then (d :: rest.takeWhile isDigit, rest.dropWhile isDigit) else ([], '.' :: d :: rest)
  | cs => ([], cs)

/-- `([eE][-+]?[0-9]+)?`: the signed exponent, or nothing when no digit follows. -/
def scanExp : List Char → Option Int × List Char
  | e :: cs =>
    if e == 'e' || e == 'E' then
      let (neg, ds) := match cs with
        | '-' :: ds => (true, ds)
        | '+' :: ds => (false, ds)
        | ds => (false, ds)
      match ds.takeWhile isDigit with
      | [] => (Option.none, e :: cs)
      | digits =>
        let n : Int := digitsVal digits
        (some (if neg then -n else n), ds.dropWhile isDigit)
    else (Option.none, e :: cs)
  | [] => (Option.none, [])

/-- A number: an `int` without fraction and exponent, otherwise a float. -/
def scanNumber (cs : List Char) : Option (Value × List Char) := do
  let (neg, cs) := match cs with
    | '-' :: cs => (true, cs)
    | cs => (false, cs)
  let (ip, cs) ← scanIntPart cs
  let (fp, cs) := scanFrac cs
  let (ex, cs) := scanExp cs
  let sign : ℚ := if neg then -1 else 1
  if fp.isEmpty && ex.isNone then
    pure (.int (if neg then -(digitsVal ip : Int) else digitsVal ip), cs)
  else
    let mant : ℚ := (digitsVal (ip ++ fp) : ℚ) / 10 ^ fp.length
    let scale : ℚ := match ex with
      | some e => (10 : ℚ) ^ e
      | Option.none => 1
    pure (.float (sign * mant * scale), cs)

/-- `d[key] = value` on a decoded object: a repeated key keeps its position, takes the value. -/
def dictSet : List (String × Value) → String → Value → List (String × Value)
  | [], k, v => [(k, v)]
  | (k', v') :: kvs, k, v => if k' = k then (k, v) :: kvs else (k', v') :: dictSet kvs k v

mutual
/-- Scan one value; `fuel` bounds the nesting and the number of members read. -/
def scanValue : Nat → List Char → Option (Value × List Char)
  | 0, _ => Option.none
  | fuel + 1, cs => match cs with
    | '"' :: rest => (scanString rest Option.none []).map fun (s, r) => (.str s, r)
    | '{' :: rest => match skipWs rest with
      | '}' :: r => some (.dict [], r)
      | r => scanMembers fuel [] r
    | '[' :: rest => match skipWs rest with
      | ']' :: r => some (.list [], r)
      | r => scanItems fuel [] r
    | 'n' :: 'u' :: 'l' :: 'l' :: rest => some (.null, rest)
    | 't' :: 'r' :: 'u' :: 'e' :: rest => some (.bool true, rest)
    | 'f' :: 'a' :: 'l' :: 's' :: 'e' :: rest => some (.bool false, rest)
    | cs => scanNumber cs
/-- Object members from a key on, up to the closing brace. -/
def scanMembers : Nat → List (String × Value) → List Char → Option (Value × List Char)
  | 0, _, _ => Option.none
  | fuel + 1, kvs, cs => match cs with
    | '"' :: rest => match scanString rest Option.none [] with
      | some (k, r) => match skipWs r with
        | ':' :: r => match scanValue fuel (skipWs r) with
          | some (v, r) => match skipWs r with
            | '}' :: r => some (.dict (dictSet kvs k v), r)
            | ',' :: r => scanMembers fuel (dictSet kvs k v) (skipWs r)
            | _ => Option.none
          | Option.none => Option.none
        | _ => Option.none
      | Option.none => Option.none
    | _ => Option.none
/-- Array items from the first on, up to the closing bracket. -/
def scanItems : Nat → List Value → List Char → Option (Value × List Char)
  | 0, _, _ => Option.none
  | fuel + 1, acc, cs => match scanValue fuel cs with
    | some (v, r) => match skipWs r with
      | ']' :: r => some (.list (acc ++ [v]), r)
      | ',' :: r => scanItems fuel (acc ++ [v]) (skipWs r)
      | _ => Option.none
    | Option.none => Option.none
end

/-- `json.loads(s)`, with `none` for `JSONDecodeError`: one value between optional whitespace, and
no byte-order mark in front. -/
def loads (s : String) : Option Value :=
  match s.data with
  | '﻿' :: _ => Option.none
  | cs => match scanValue (cs.length + 1) (skipWs cs) with
    | some (v, rest) => if skipWs rest = [] then some v else Option.none
    | Option.none => Option.none

end Json

end TomAnalysis
