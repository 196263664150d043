import TomAnalysis.Python.Json

/-! # Loading and classifying events

Both analysers read a file line by line, strip each line, skip blank ones, and keep what
`json.loads` returns, dropping only the lines that raise `JSONDecodeError`. They then pick the
events of one kind with list comprehensions over `e.get("event")`. -/

namespace TomAnalysis

/-- The files a run can open: the lines of each existing path, `none` for a missing one. -/
abbrev FileSystem := String → Option (List String)

namespace Events

/-- One iteration of the loading loop: `line.strip()`, skipped when empty, then `json.loads`,
skipped when it raises `JSONDecodeError`. -/
def decodeLine (line : String) : Option Value :=
  let line := Json.strip line
  if line.isEmpty then Option.none else Json.loads line

/-- The loading loop over a file's lines, in file order. -/
def decodeLines (lines : List String) : List Value :=
  lines.filterMap decodeLine

/-- `open(path)` and the loading loop: `load_events`, and the first part of `analyze_file`. -/
def load (fs : FileSystem) (path : String) : Except PyError (List Value) :=
  match fs path with
  | some lines => .ok (decodeLines lines)
  | Option.none => .error (.fileNotFound path)

/-- `[e for e in xs if e.get(key) == value]`, the comprehension both analysers use to pick
events by kind, pings by path and path changes by direction. -/
def select (key value : String) : List Value → Except PyError (List Value)
  | [] => .ok []
  | e :: es => do
    let v ← e.get key .null
    let rest ← select key value es
    pure (if v.eqStr value then e :: rest else rest)

/-- `[e for e in events if e.get("event") == kind]`. -/
def ofKind (kind : String) (events : List Value) : Except PyError (List Value) :=
  select "event" kind events

/-- The path components `pathlib` keeps: no empty component and no `.`. -/
def pathParts (path : String) : List String :=
  (path.splitOn "/").filter fun part => part != "" && part != "."

/-- `Path(path).name`. -/
def pathName (path : String) : String :=
  (pathParts path).getLast?.getD ""

/-- `Path(path).parent.name`. -/
def parentName (path : String) : String :=
  (pathParts path).dropLast.getLast?.getD ""

@[simp] theorem decodeLines_append (xs ys : List String) :
    decodeLines (xs ++ ys) = decodeLines xs ++ decodeLines ys :=
  List.filterMap_append xs ys decodeLine

end Events

end TomAnalysis
