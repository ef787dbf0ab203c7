import Mathlib.Data.Rat.Defs

/-!
# JSON values as the scripts see them

Every reply of the Discord API, the checkpoint file of the bridge and every
payload the scripts build is a JSON value that `json.loads` turned into Python
objects.  The scripts read these values only through Python's truthiness,
`dict.get` with a default, subscripting and `isinstance(_, list)`; this module
gives those operations.  Objects are association lists in key order, which is
also how the scripts' own dictionaries (`role_ids`, `channel_ids`,
`created_channels`, the bridge state) are modelled: assignment replaces a
present key in place and appends a new one, as a Python `dict` does.
-/

namespace Rill

/-- A decoded JSON value.  Numbers are exact rationals: JSON writes finite
decimals. -/
inductive Json where
  | null
  | bool (b : Bool)
  | num (q : ℚ)
  | str (s : String)
  | arr (xs : List Json)
  | obj (kvs : List (String × Json))

namespace Json

mutual
/-- Structural equality of JSON values, decided field by field. -/
def decEq : (a b : Json) → Decidable (a = b)
  | .null, .null => isTrue rfl
  | .bool x, .bool y =>
      if h : x = y then isTrue (h ▸ rfl) else isFalse fun e => by cases e; exact h rfl
  | .num x, .num y =>
      if h : x = y then isTrue (h ▸ rfl) else isFalse fun e => by cases e; exact h rfl
  | .str x, .str y =>
      if h : x = y then isTrue (h ▸ rfl) else isFalse fun e => by cases e; exact h rfl
  | .arr xs, .arr ys =>
      match decEqList xs ys with
      | isTrue h => isTrue (h ▸ rfl)
      | isFalse h => isFalse fun e => by cases e; exact h rfl
  | .obj xs, .obj ys =>
      match decEqFields xs ys with
      | isTrue h => isTrue (h ▸ rfl)
      | isFalse h => isFalse fun e => by cases e; exact h rfl
  | .null, .bool _ | .null, .num _ | .null, .str _ | .null, .arr _ | .null, .obj _
  | .bool _, .null | .bool _, .num _ | .bool _, .str _ | .bool _, .arr _
  | .bool _, .obj _ | .num _, .null | .num _, .bool _ | .num _, .str _
  | .num _, .arr _ | .num _, .obj _ | .str _, .null | .str _, .bool _
  | .str _, .num _ | .str _, .arr _ | .str _, .obj _ | .arr _, .null
  | .arr _, .bool _ | .arr _, .num _ | .arr _, .str _ | .arr _, .obj _
  | .obj _, .null | .obj _, .bool _ | .obj _, .num _ | .obj _, .str _
  | .obj _, .arr _ => isFalse Json.noConfusion
/-- Equality of JSON arrays. -/
def decEqList : (xs ys : List Json) → Decidable (xs = ys)
  | [], [] => isTrue rfl
  | x :: xs, y :: ys =>
      match decEq x y, decEqList xs ys with
      | isTrue h, isTrue h' => isTrue (h ▸ h' ▸ rfl)
      | isFalse h, _ => isFalse fun e => by cases e; exact h rfl
      | _, isFalse h => isFalse fun e => by cases e; exact h rfl
  | [], _ :: _ | _ :: _, [] => isFalse List.noConfusion
/-- Equality of JSON objects, keys in order. -/
def decEqFields : (xs ys : List (String × Json)) → Decidable (xs = ys)
  | [], [] => isTrue rfl
  | (k, x) :: xs, (l, y) :: ys =>
      if hk : k = l then
        match decEq x y, decEqFields xs ys with
        | isTrue h, isTrue h' => isTrue (hk ▸ h ▸ h' ▸ rfl)
        | isFalse h, _ => isFalse fun e => by cases e; exact h rfl
        | _, isFalse h => isFalse fun e => by cases e; exact h rfl
      else isFalse fun e => by cases e; exact hk rfl
  | [], _ :: _ | _ :: _, [] => isFalse List.noConfusion
end

instance : DecidableEq Json := decEq

/-- Python truthiness: `None`, `False`, zero, `""`, `[]` and `{}` are false. -/
def truthy : Json → Bool
  | .null => false
  | .bool b => b
  | .num q => q ≠ 0
  | .str s => s ≠ ""
  | .arr xs => !xs.isEmpty
  | .obj kvs => !kvs.isEmpty

@[simp] theorem truthy_null : null.truthy = false := rfl

@[simp] theorem truthy_num (q : ℚ) : (num q).truthy = decide (q ≠ 0) := rfl

@[simp] theorem truthy_str (s : String) : (str s).truthy = decide (s ≠ "") := rfl

@[simp] theorem truthy_arr (xs : List Json) : (arr xs).truthy = !xs.isEmpty := rfl

@[simp] theorem truthy_obj (kvs : List (String × Json)) :
    (obj kvs).truthy = !kvs.isEmpty := rfl

/-- `isinstance(value, list)`, giving the elements. -/
def asList? : Json → Option (List Json)
  | .arr xs => some xs
  | _ => none

@[simp] theorem asList?_arr (xs : List Json) : (arr xs).asList? = some xs := rfl

/-- The string a value holds, where Python calls a `str` method on it. -/
def asString? : Json → Option String
  | .str s => some s
  | _ => none

@[simp] theorem asString?_str (s : String) : (str s).asString? = some s := rfl

/-- Whether the value can be put in a Python `set` (lists and dicts cannot). -/
def hashable : Json → Bool
  | .arr _ | .obj _ => false
  | _ => true

end Json

/-! ## Dictionaries -/

/-- A Python dictionary with string keys, in insertion order. -/
abbrev Dict (α : Type) := List (String × α)

namespace Dict

variable {α : Type}

/-- `d.get(key)`: the value stored under `key`. -/
def get? (d : Dict α) (key : String) : Option α :=
  (d.find? fun entry => entry.1 = key).map Prod.snd

/-- `d[key] = value`: replace the entry in place, or append a new one. -/
def insert : Dict α → String → α → Dict α
  | [], key, value => [(key, value)]
  | (k, v) :: rest, key, value =>
      if k = key then (key, value) :: rest else (k, v) :: insert rest key value

@[simp] theorem get?_nil (key : String) : get? ([] : Dict α) key = none := rfl

theorem get?_cons (k key : String) (v : α) (rest : Dict α) :
    get? ((k, v) :: rest) key = if k = key then some v else get? rest key := by
  by_cases h : k = key <;> simp [get?, List.find?_cons, h]

@[simp] theorem get?_insert_self (d : Dict α) (key : String) (value : α) :
    get? (insert d key value) key = some value := by
  induction d with
  | nil => simp [insert, get?_cons]
  | cons entry rest ih =>
      obtain ⟨k, v⟩ := entry
      by_cases h : k = key <;> simp [insert, get?_cons, h, ih]

@[simp] theorem get?_insert_of_ne (d : Dict α) {key other : String} (value : α)
    (distinct : key ≠ other) :
    get? (insert d key value) other = get? d other := by
  induction d with
  | nil => simp [insert, get?_cons, distinct]
  | cons entry rest ih =>
      obtain ⟨k, v⟩ := entry
      by_cases h : k = key
      · subst h; simp [insert, get?_cons, distinct]
      · simp [insert, get?_cons, h, ih]

/-- The keys of `d`, in order. -/
def keys (d : Dict α) : List String := d.map Prod.fst

@[simp] theorem keys_append (d e : Dict α) : keys (d ++ e) = keys d ++ keys e := List.map_append _ _ _

theorem get?_of_mem_keys {d : Dict α} {key : String} (present : key ∈ keys d) :
    ∃ v, get? d key = some v := by
  induction d with
  | nil => simp [keys] at present
  | cons entry rest ih =>
      obtain ⟨k, v⟩ := entry
      by_cases h : k = key
      · exact ⟨v, by simp [get?_cons, h]⟩
      · simpa [get?_cons, h] using ih (by simpa [keys, Ne.symm h] using present)

theorem keys_insert_of_mem (d : Dict α) {key : String} (value : α)
    (present : key ∈ keys d) : keys (insert d key value) = keys d := by
  induction d with
  | nil => simp [keys] at present
  | cons entry rest ih =>
      obtain ⟨k, v⟩ := entry
      by_cases h : k = key
      · simp [insert, keys, h]
      · have : key ∈ keys rest := by simpa [keys, Ne.symm h] using present
        simpa [insert, keys, h] using ih this

theorem keys_insert_of_not_mem (d : Dict α) {key : String} (value : α)
    (absent : key ∉ keys d) : keys (insert d key value) = keys d ++ [key] := by
  induction d with
  | nil => rfl
  | cons entry rest ih =>
      obtain ⟨k, v⟩ := entry
      have h : k ≠ key := fun e => absent (by simp [keys, e])
      have : key ∉ keys rest := fun m => absent (by simp [keys] at m ⊢; exact .inr m)
      simpa [insert, keys, h] using ih this

theorem keys_insert_sublist (d : Dict α) (key : String) (value : α) :
    (insert d key value).keys.Sublist (d.keys ++ [key]) := by
  by_cases present : key ∈ keys d
  · simp only [keys_insert_of_mem _ _ present, List.sublist_append_left]
  · simp only [keys_insert_of_not_mem _ _ present, List.Sublist.refl]

theorem get?_append (d e : Dict α) (key : String) :
    get? (d ++ e) key = (get? d key).or (get? e key) := by
  simp only [get?, List.find?_append, Option.map_or']

theorem get?_append_of_not_mem {d : Dict α} {key : String} (absent : key ∉ keys d)
    (e : Dict α) : get? (d ++ e) key = get? e key := by
  induction d with
  | nil => rfl
  | cons entry rest ih =>
      obtain ⟨k, v⟩ := entry
      have h : k ≠ key := fun same => absent (by simp [keys, same])
      rw [List.cons_append, get?_cons, if_neg h]
      exact ih fun m => absent (by simp [keys] at m ⊢; exact .inr m)

theorem get?_of_not_mem_keys {d : Dict α} {key : String} (absent : key ∉ keys d) :
    get? d key = none := by
  simpa using get?_append_of_not_mem absent []

/-- A new key goes at the end. -/
theorem insert_of_not_mem_keys (d : Dict α) {key : String} (value : α)
    (absent : key ∉ keys d) : insert d key value = d ++ [(key, value)] := by
  induction d with
  | nil => rfl
  | cons entry rest ih =>
      obtain ⟨k, v⟩ := entry
      have h : k ≠ key := fun e => absent (by simp [keys, e])
      have : key ∉ keys rest := fun m => absent (by simp [keys] at m ⊢; exact .inr m)
      simp [insert, h, ih this]

end Dict

namespace Json

/-- `value.get(key)` on a decoded object: `none` for a missing key. -/
def field? (value : Json) (key : String) : Option Json :=
  match value with
  | .obj kvs => Dict.get? kvs key
  | _ => none

@[simp] theorem field?_obj (kvs : List (String × Json)) (key : String) :
    (obj kvs).field? key = Dict.get? kvs key := rfl

/-- `value.get(key, default)`: `none` when `value` is not a dict, where Python
raises `AttributeError`. -/
def getD? (value : Json) (key : String) (default : Json) : Option Json :=
  match value with
  | .obj kvs => some ((Dict.get? kvs key).getD default)
  | _ => none

@[simp] theorem getD?_obj (kvs : List (String × Json)) (key : String) (default : Json) :
    (obj kvs).getD? key default = some ((Dict.get? kvs key).getD default) := rfl

theorem getD?_eq_some {value : Json} {key : String} {default v : Json}
    (found : value.getD? key default = some v) :
    value.field? key = some v ∨ (value.field? key = none ∧ v = default) := by
  cases value with
  | obj kvs =>
      simp only [getD?_obj, Option.some.injEq] at found
      cases lookup : Dict.get? kvs key <;> simp_all
  | _ => simp [getD?] at found

theorem getD?_of_field? {value : Json} {key : String} {v : Json}
    (found : value.field? key = some v) (default : Json) :
    value.getD? key default = some v := by
  cases value <;> simp_all [field?, getD?]

/-- `value[key]`: `none` when Python raises (`KeyError`, `TypeError`). -/
def item? (value : Json) (key : String) : Option Json :=
  value.field? key

end Json

end Rill
