import TomAnalysis.Events.Semantics
import TomAnalysis.Python.Numeric
import Mathlib.Data.List.Basic

/-! # What loading keeps and what selecting by kind does

Loading drops exactly the lines that strip to nothing or that `json.loads` rejects; any other
line stays, whatever JSON value it holds. Selecting by kind is a filter when every kept value is
a JSON object, and raises `AttributeError` at the first one that is not. -/

namespace TomAnalysis.Events

/-- Whether a decoded line is a JSON object, the only kind of value with `get`. -/
def isRecord : Value → Bool
  | .dict _ => true
  | _ => false

/-- `e.get(key) == value` for a record `e`. -/
def fieldIs (key value : String) : Value → Bool
  | .dict kvs => ((kvs.lookup key).getD .null).eqStr value
  | _ => false

/-- The number a record holds under `key`, when it holds one. -/
def numericField (key : String) : Value → Option ℚ
  | .dict kvs => (kvs.lookup key).bind Value.num?
  | _ => Option.none

/-- `r.get(key, default)` for a record `r`; other values have no `get`. -/
def fieldOr (key : String) (default : Value) : Value → Value
  | .dict kvs => (kvs.lookup key).getD default
  | _ => .null

/-- `r.get(key, 0)` is a number: the field is absent or holds one. -/
def numericOrAbsent (key : String) : Value → Bool
  | .dict kvs => ((kvs.lookup key).getD (.int 0)).num?.isSome
  | _ => false

@[simp] theorem numericOrAbsent_dict (key : String) (kvs : List (String × Value)) :
    numericOrAbsent key (.dict kvs) = ((kvs.lookup key).getD (.int 0)).num?.isSome := rfl

/-! ## Loading -/

/-- A line that decodes to nothing leaves the other lines' values as they were. -/
theorem decodeLines_drop {line : String} (h : decodeLine line = Option.none)
    (pre post : List String) :
    decodeLines (pre ++ line :: post) = decodeLines (pre ++ post) := by
  simp [decodeLines, List.filterMap_cons, h]

/-- Blank and whitespace-only lines decode to nothing. -/
theorem decodeLine_blank {line : String} (h : ∀ c ∈ line.data, Json.isPySpace c) :
    decodeLine line = Option.none := by
  have hstrip : Json.strip line = "" := by
    simp [Json.strip, List.dropWhile_eq_nil_iff.2 h]
  simp only [decodeLine, hstrip]
  rfl

/-- A line `json.loads` rejects decodes to nothing. -/
theorem decodeLine_rejected {line : String} (h : Json.loads (Json.strip line) = Option.none) :
    decodeLine line = Option.none := by
  simp [decodeLine, h]

/-! ## Selecting -/

theorem exists_dict_of_isRecord {e : Value} (h : isRecord e) : ∃ kvs, e = .dict kvs := by
  cases e with
  | dict kvs => exact ⟨kvs, rfl⟩
  | _ => simp [isRecord] at h

@[simp] theorem select_nil (key value : String) : select key value [] = .ok [] := rfl

theorem select_dict (key value : String) (kvs : List (String × Value)) (es : List Value) :
    select key value (.dict kvs :: es) =
      (select key value es).map fun rest =>
        if fieldIs key value (.dict kvs) then .dict kvs :: rest else rest := by
  simp only [select, Value.get_dict, except_ok_bind, fieldIs]
  cases select key value es <;> rfl

/-- On records, selecting is filtering. -/
theorem select_of_records {es : List Value} (h : ∀ e ∈ es, isRecord e) (key value : String) :
    select key value es = .ok (es.filter (fieldIs key value)) := by
  induction es with
  | nil => rfl
  | cons e es ih =>
    obtain ⟨kvs, rfl⟩ := exists_dict_of_isRecord (h e (List.mem_cons_self _ _))
    rw [select_dict, ih fun x hx => h x (List.mem_cons_of_mem _ hx), List.filter_cons]
    split <;> rfl

/-- A value that is not a record makes selecting raise `AttributeError`, wherever it is. -/
theorem select_eq_error {es : List Value} {e : Value} (he : e ∈ es) (hrec : isRecord e = false)
    (key value : String) : ∃ t, select key value es = .error (.attribute t "get") := by
  induction es with
  | nil => exact absurd he (List.not_mem_nil _)
  | cons x xs ih =>
    cases x with
    | dict kvs =>
      have hx : e ∈ xs := by
        rcases List.mem_cons.1 he with rfl | hx
        · simp [isRecord] at hrec
        · exact hx
      obtain ⟨t, ht⟩ := ih hx
      exact ⟨t, by rw [select_dict, ht]; rfl⟩
    | _ => exact ⟨_, rfl⟩

/-- Selecting returns only when every value is a record, and then it filters. -/
theorem select_eq_ok {es xs : List Value} {key value : String} (h : select key value es = .ok xs) :
    (∀ e ∈ es, isRecord e) ∧ xs = es.filter (fieldIs key value) := by
  have hrec : ∀ e ∈ es, isRecord e := by
    intro e he
    by_contra hne
    obtain ⟨t, ht⟩ := select_eq_error he (by simpa using hne) key value
    rw [ht] at h
    cases h
  exact ⟨hrec, Except.ok.inj ((select_of_records hrec key value).symm.trans h) |>.symm⟩

/-- No record holds two different strings under one key. -/
theorem fieldIs_exclusive {key a b : String} {e : Value} (ha : fieldIs key a e) (hab : a ≠ b) :
    fieldIs key b e = false := by
  cases e with
  | dict kvs =>
    simp only [fieldIs, Value.eqStr_iff] at ha ⊢
    simp [ha, hab]
  | _ => rfl

theorem ofKind_of_records {es : List Value} (h : ∀ e ∈ es, isRecord e) (kind : String) :
    ofKind kind es = .ok (es.filter (fieldIs "event" kind)) :=
  select_of_records h "event" kind

/-- `[p[key] for p in ps]` when every record holds a number under `key`: the numbers, in order. -/
theorem mapM_getItem {ps : List Value} {key : String} (h : ∀ p ∈ ps, (numericField key p).isSome) :
    ∃ vs, ps.mapM (·.getItem key) = .ok vs ∧
      vs.map Value.num? = (ps.filterMap (numericField key)).map some := by
  induction ps with
  | nil => exact ⟨[], rfl, rfl⟩
  | cons p ps ih =>
    obtain ⟨vs, hvs, hnum⟩ := ih fun q hq => h q (List.mem_cons_of_mem _ hq)
    have hp := h p (List.mem_cons_self _ _)
    cases p with
    | dict kvs =>
      obtain ⟨q, hq⟩ := Option.isSome_iff_exists.1 hp
      obtain ⟨v, hv, hvq⟩ := Option.bind_eq_some.1 hq
      refine ⟨v :: vs, ?_, ?_⟩
      · rw [List.mapM_cons, hvs]
        simp [Value.getItem, hv]
      · simp [List.filterMap_cons, hq, hvq, hnum]
    | _ => simp [numericField] at hp

/-- When `[p[key] for p in ps]` returns, it holds each record's field, so its numbers are the
records' numeric fields. -/
theorem mapM_getItem_eq_ok {ps vs : List Value} {key : String}
    (h : ps.mapM (·.getItem key) = .ok vs) : vs.map Value.num? = ps.map (numericField key) := by
  induction ps generalizing vs with
  | nil => cases h; rfl
  | cons p ps ih =>
    rw [List.mapM_cons] at h
    obtain ⟨v, hv, h⟩ := except_bind_eq_ok.1 h
    obtain ⟨ws, hws, h⟩ := except_bind_eq_ok.1 h
    cases h
    cases p with
    | dict kvs =>
      cases hk : kvs.lookup key <;> simp only [Value.getItem, hk, reduceCtorEq, Except.ok.injEq] at hv
      subst hv
      simp [numericField, hk, ih hws]
    | _ => cases hv

/-- When `[p[key] for p in ps]` returns numbers only, every record holds a number under `key`. -/
theorem numericField_of_mapM_getItem {ps vs : List Value} {key : String}
    (h : ps.mapM (·.getItem key) = .ok vs) (hnum : ∀ v ∈ vs, v.num?.isSome) :
    ∀ p ∈ ps, (numericField key p).isSome := by
  have hall : ∀ q ∈ vs.map Value.num?, q.isSome := List.forall_mem_map.2 hnum
  rw [mapM_getItem_eq_ok h] at hall
  exact List.forall_mem_map.1 hall

/-- When every record holds a number under `key`, there are as many numbers as records. -/
theorem filterMap_numericField_eq_nil {ps : List Value} {key : String}
    (h : ∀ p ∈ ps, (numericField key p).isSome) : ps.filterMap (numericField key) = [] ↔ ps = [] := by
  cases ps with
  | nil => simp
  | cons p ps =>
    obtain ⟨q, hq⟩ := Option.isSome_iff_exists.1 (h p (List.mem_cons_self _ _))
    simp [List.filterMap_cons, hq]

/-- A selection of records holds records. -/
theorem isRecord_of_mem_filter {es : List Value} (h : ∀ e ∈ es, isRecord e) {p : Value → Bool}
    {e : Value} (he : e ∈ es.filter p) : isRecord e :=
  h e (List.mem_of_mem_filter he)

theorem head?_records {es : List Value} (h : ∀ e ∈ es, isRecord e) (p : Value → Bool) :
    ∀ x ∈ (es.filter p).head?, isRecord x :=
  fun _ hx => isRecord_of_mem_filter h (List.mem_of_mem_head? hx)

theorem getLast?_records {es : List Value} (h : ∀ e ∈ es, isRecord e) (p : Value → Bool) :
    ∀ x ∈ (es.filter p).getLast?, isRecord x :=
  fun _ hx => isRecord_of_mem_filter h (List.mem_of_getLast?_eq_some hx)

/-- The number a moderate record holds under a key is moderate. -/
theorem abs_le_of_numericField {e : Value} (hm : e.moderateFields) {key : String} {x : ℚ}
    (h : numericField key e = some x) : |x| ≤ 10 ^ 150 := by
  cases e with
  | dict kvs =>
    obtain ⟨v, hv, hx⟩ := Option.bind_eq_some.1 h
    exact Value.abs_le_of_moderate (Value.moderate_lookup hm key v hv) hx
  | _ => cases h

/-- So are the numbers moderate records hold under one key. -/
theorem abs_le_of_mem_filterMap {es : List Value} (hm : ∀ e ∈ es, e.moderateFields) {key : String}
    {x : ℚ} (hx : x ∈ es.filterMap (numericField key)) : |x| ≤ 10 ^ 150 := by
  obtain ⟨e, he, h⟩ := List.mem_filterMap.1 hx
  exact abs_le_of_numericField (hm e he) h

/-- `r.get(key, 0)` of an optional record is a number exactly when the record holds a number
under `key`, or nothing. -/
theorem forall_fieldOr_num_iff {e : Option Value} (he : ∀ x ∈ e, isRecord x) (key : String) :
    (∀ t ∈ e.map (fieldOr key (.int 0)), t.num?.isSome) ↔ ∀ x ∈ e, numericOrAbsent key x := by
  cases e with
  | none => simp
  | some x =>
    obtain ⟨kvs, rfl⟩ := exists_dict_of_isRecord (he _ rfl)
    simp [fieldOr]

end TomAnalysis.Events
