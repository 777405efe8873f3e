import BoundSql.Json.Reader

/-!
# Settings of a client

What is logged about statements: whether they are logged at all, with or without their values, how
many bytes of their text, and from which duration on a statement is reported as slow.

A text is stored in UTF-8, and a limit on its length counts bytes. `Text.cutBytes` keeps as many
whole characters as fit, so the result is a text again: no character is cut in half.
-/

namespace BoundSql

/-! ## Durations -/

/-- A span of time in whole nanoseconds. -/
structure Duration where
  /-- The nanoseconds. -/
  nanoseconds : Nat
deriving DecidableEq

namespace Duration

/-- The nanoseconds of a second. -/
def perSecond : Nat := 1_000_000_000

/-- A span of seconds and nanoseconds; the latter may be more than a second. -/
def ofParts (seconds nanoseconds : Nat) : Duration := ⟨seconds * perSecond + nanoseconds⟩

/-- The whole seconds. -/
def seconds (d : Duration) : Nat := d.nanoseconds / perSecond

/-- The nanoseconds beyond the whole seconds. -/
def subsecond (d : Duration) : Nat := d.nanoseconds % perSecond

/-- The whole milliseconds. -/
def milliseconds (d : Duration) : Nat := d.nanoseconds / 1_000_000

/-- How messages describe a duration in JSON. -/
def wanted : String := "struct Duration"

/-- The duration of two parts, if its seconds fit in 64 bits. -/
def ofParts? (seconds nanoseconds : Nat) : Except Mismatch Duration :=
  let d := ofParts seconds nanoseconds
  if d.seconds < 0x1_0000_0000_0000_0000 then .ok d
  else .error (.whole "overflow deserializing Duration")

/-- The parts of a duration read so far. -/
structure Parts where
  /-- The seconds. -/
  seconds : Option Nat := none
  /-- The nanoseconds. -/
  nanoseconds : Option Nat := none

/-- Reads one member of a duration. No other members are allowed. -/
def readMember (p : Parts) (m : String × Json) : Except Mismatch Parts :=
  if m.1 = "secs" then
    (Reader.natural .unsigned64 m.2).map fun n ↦ { p with seconds := some n }
  else if m.1 = "nanos" then
    (Reader.natural .unsigned32 m.2).map fun n ↦ { p with nanoseconds := some n }
  else .error (.unknown m.1 "`secs` or `nanos`")

/-- A duration from JSON: an object with its two parts, or an array of them. -/
def read : Reader Duration
  | .object ms => do
    let p ← ms.foldlM readMember {}
    let seconds ← Reader.required "secs" p.seconds
    let nanoseconds ← Reader.required "nanos" p.nanoseconds
    ofParts? seconds nanoseconds
  | .array [] => .error (.length 0 wanted)
  | .array (s :: rest) => do
    let seconds ← Reader.natural .unsigned64 s
    match rest with
    | [] => .error (.length 1 wanted)
    | n :: more =>
      let nanoseconds ← Reader.natural .unsigned32 n
      let d ← ofParts? seconds nanoseconds
      if more.isEmpty then .ok d
      else .error (.length (more.length + 2) "fewer elements in array")
  | v => .error (.kind v wanted)

end Duration

/-! ## Cutting a text to a number of bytes -/

namespace Text

/-- The characters of `cs` that fit, in order, in `room` bytes; the first that does not fit ends
the cut. -/
def fitting : Nat → List Char → List Char
  | _, [] => []
  | room, c :: cs => if c.utf8Size ≤ room then c :: fitting (room - c.utf8Size) cs else []

/-- The longest initial part of `s` of at most `max` bytes. -/
def cutBytes (max : Nat) (s : String) : String := String.ofList (fitting max s.toList)

/-- A cut is an initial part of the text. -/
theorem fitting_isPrefix (room : Nat) (cs : List Char) : fitting room cs <+: cs := by
  induction cs generalizing room with
  | nil => exact List.prefix_rfl
  | cons c cs ih =>
    rw [fitting]
    split
    · exact List.cons_prefix_cons.mpr ⟨rfl, ih _⟩
    · exact List.nil_prefix

end Text

/-! ## Settings -/

/-- The settings of a client. -/
structure Settings where
  /-- Whether statements are logged. -/
  logSql : Bool := true
  /-- Whether their values are logged with them. -/
  logBindings : Bool := false
  /-- How many bytes of the text are shown; without a limit, all of them. -/
  maxSqlLength : Option Nat := some 200
  /-- From which duration on a statement is reported as slow. -/
  slowThreshold : Option Duration := none
deriving DecidableEq

namespace Settings

/-- The fields of settings in order. -/
def fields : List (Reader.Field Settings) :=
  [Reader.field "log_sql" Reader.bool fun s b ↦ { s with logSql := b },
    Reader.field "log_params" Reader.bool fun s b ↦ { s with logBindings := b },
    Reader.field "max_sql_length" (Reader.option (Reader.natural .size)) fun s n ↦
      { s with maxSqlLength := n },
    Reader.field "slow_query_threshold" (Reader.option Duration.read) fun s d ↦
      { s with slowThreshold := d }]

/-- Settings from JSON; what is not mentioned has its default. -/
def read : Reader Settings := Reader.record "struct ClientConfig" fields {}

/-- A call that changes settings. -/
inductive Edit where
  /-- Goes back to the defaults. -/
  | reset
  /-- Says whether statements are logged. -/
  | logSql (b : Bool)
  /-- Says whether values are logged. -/
  | logBindings (b : Bool)
  /-- Limits the text that is shown. -/
  | maxSqlLength (n : Nat)
  /-- Shows all of the text. -/
  | noTruncation
  /-- Sets the duration from which on a statement is slow. -/
  | slow (d : Duration)

/-- What a call makes of settings. -/
def apply (s : Settings) : Edit → Settings
  | .reset => {}
  | .logSql b => { s with logSql := b }
  | .logBindings b => { s with logBindings := b }
  | .maxSqlLength n => { s with maxSqlLength := some n }
  | .noTruncation => { s with maxSqlLength := none }
  | .slow d => { s with slowThreshold := some d }

/-- The text of a statement as it is logged: beyond the limit it is cut, with dots after the cut. -/
def shownSql (s : Settings) (sql : String) : String :=
  match s.maxSqlLength with
  | some max => if max < sql.utf8ByteSize then Text.cutBytes max sql ++ "..." else sql
  | none => sql

end Settings

end BoundSql
