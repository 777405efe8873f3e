import BoundSql.Decimal.Single

/-!
# JSON values

The values that are bound to a statement, sent as records and read back from rows. Two choices
matter everywhere else.

* The members of an object are a list of pairs. Their order is part of the value: it is the order
  of the assignments in a `SET` list, of the columns of a row, and of the keys in JSON text.
* An integer and a double are different numbers, also where they are equal: `1` and `1.0` have
  different texts. An integer carries the proof that it is in the range of JSON integers.
-/

namespace BoundSql

/-- An integer that a JSON number can hold: it fits in 64 bits, with or without a sign. -/
structure Integer where
  /-- The integer. -/
  val : Int
  /-- It is at least the least signed 64-bit integer. -/
  lower : -0x8000_0000_0000_0000 ≤ val
  /-- It is at most the greatest unsigned 64-bit integer. -/
  upper : val < 0x1_0000_0000_0000_0000
deriving DecidableEq

namespace Integer

/-- The integer `n`, if it is in range. -/
def ofInt? (n : Int) : Option Integer :=
  if h : -0x8000_0000_0000_0000 ≤ n ∧ n < 0x1_0000_0000_0000_0000 then some ⟨n, h.1, h.2⟩ else none

/-- A signed 64-bit integer is in range. -/
def ofInt64 (n : Int64) : Integer :=
  ⟨n.toInt, n.le_toInt, Int.lt_trans n.toInt_lt (by decide)⟩

/-- An unsigned 64-bit integer is in range. -/
def ofUInt64 (n : UInt64) : Integer :=
  ⟨n.toNat, Int.le_trans (by decide) (Int.natCast_nonneg _), by have := n.toNat_lt; omega⟩

end Integer

/-- A JSON number. -/
inductive Number where
  | integer (n : Integer)
  | double (x : Double)
deriving DecidableEq

/-- A JSON value. -/
inductive Json where
  | null
  | bool (b : Bool)
  | number (n : Number)
  | text (s : String)
  | array (items : List Json)
  /-- Named values in a fixed order. -/
  | object (members : List (String × Json))

/-- Induction over a value, with the hypothesis for each item and each member. -/
@[induction_eliminator]
theorem Json.induct {motive : Json → Prop}
    (null : motive .null) (bool : ∀ b, motive (.bool b)) (number : ∀ n, motive (.number n))
    (text : ∀ s, motive (.text s))
    (array : ∀ items, (∀ v ∈ items, motive v) → motive (.array items))
    (object : ∀ members, (∀ m ∈ members, motive m.2) → motive (.object members)) (v : Json) :
    motive v := by
  refine @Json.rec motive (fun vs ↦ ∀ v ∈ vs, motive v) (fun ms ↦ ∀ m ∈ ms, motive m.2)
    (fun m ↦ motive m.2) null bool number text array object ?_ ?_ ?_ ?_ ?_ v
  · intro v hv
    cases hv
  · intro v vs hv hvs w hw
    rcases List.mem_cons.mp hw with rfl | hw
    · exact hv
    · exact hvs w hw
  · intro m hm
    cases hm
  · intro m ms hm hms k hk
    rcases List.mem_cons.mp hk with rfl | hk
    · exact hm
    · exact hms k hk
  · intro key v hv
    exact hv

/-- The members of an object, in order. -/
abbrev Members := List (String × Json)

/-! ## Members by key -/

namespace Members

/-- The value under `key`, if there is one. -/
def get? (ms : Members) (key : String) : Option Json := ms.lookup key

/-- `ms` with `value` under `key`: a key that is there keeps its place and gets the new value, any
other is added at the end. -/
def insert : Members → String → Json → Members
  | [], key, value => [(key, value)]
  | m :: ms, key, value =>
    if m.1 = key then (key, value) :: ms else m :: insert ms key value

/-- The keys in order. -/
def keys (ms : Members) : List String := ms.map Prod.fst

theorem get?_cons (m : String × Json) (ms : Members) (key : String) :
    get? (m :: ms) key = if key = m.1 then some m.2 else get? ms key := by
  obtain ⟨k, v⟩ := m
  rw [get?, List.lookup_cons]
  by_cases h : key = k
  · simp [h]
  · rw [beq_false_of_ne h, if_neg h, get?]

/-- A new key goes to the end. -/
theorem insert_of_get?_eq_none {ms : Members} {key : String} (h : get? ms key = none)
    (value : Json) : insert ms key value = ms ++ [(key, value)] := by
  induction ms with
  | nil => rfl
  | cons m ms ih =>
    rw [get?_cons] at h
    split at h
    · cases h
    · next hne => rw [insert, if_neg (Ne.symm hne), ih h, List.cons_append]

end Members

namespace Json

/-- The integer `n` as a value. -/
def ofInt64 (n : Int64) : Json := .number (.integer (.ofInt64 n))

/-- The integer `n` as a value. -/
def ofUInt64 (n : UInt64) : Json := .number (.integer (.ofUInt64 n))

/-- A double as a value; an infinity or NaN has no numeral and becomes `null`. -/
def ofFloat (x : Float) : Json :=
  match Double.ofFloat? x with
  | some d => .number (.double d)
  | none => .null

/-- A single as a value: the double with the same value, or `null` as for a double. -/
def ofFloat32 (x : Float32) : Json :=
  match Single.ofFloat32? x with
  | some s => .number (.double s.toDouble)
  | none => .null

/-- Whether the value is `null`. -/
def isNull : Json → Bool
  | .null => true
  | _ => false

/-- Whether the value is an array. -/
def isArray : Json → Bool
  | .array _ => true
  | _ => false

/-- The object whose keys are the numerals of integers, in the order of the integers; of the
values given for one integer the last counts. -/
def ofIntKeys (entries : List (Int × Json)) : Json :=
  let sorted := entries.mergeSort fun a b ↦ decide (a.1 ≤ b.1)
  .object (sorted.foldl (fun ms e ↦ Members.insert ms (toString e.1) e.2) [])

end Json

end BoundSql
