import Gatehouse.Json.Reader

/-!
# Reading values of a type

Where a text does not hold the value that was asked for, the fault that stands first in the text
is given: that of the text itself, or that of a value that does not fit.

A record is read from an object, whose members may stand in any order and each at most once, while
members of other names are passed over; or from an array that lists the values in order.
-/

namespace Gatehouse.Decoder

variable {α β : Type}

/-! ### Simple values -/

/-- Reads a value that is neither an array nor an object, if it is of the wanted kind. -/
def ofScalar (kind : Json → Option α) : Decoder α := do
  match ← peek with
  | some '[' => unfit
  | some '\x7b' => unfit
  | _ =>
    match kind (← scalar) with
    | some a => pure a
    | none => unfit

/-- Passes over a value that is of none of the wanted kinds. -/
def mismatch : Decoder α :=
  ofScalar fun _ => none

/-- Reads `null`. -/
def unit : Decoder Unit :=
  ofScalar fun
    | .null => some ()
    | _ => none

/-- Reads a truth value. -/
def bool : Decoder Bool :=
  ofScalar fun
    | .bool b => some b
    | _ => none

/-- Reads a string. -/
def text : Decoder String :=
  ofScalar Json.text?

/-- Reads an integer that lies in a range. -/
def intIn (low high : Int) : Decoder Int :=
  ofScalar fun
    | .int n => if low ≤ n ∧ n ≤ high then some n else none
    | _ => none

/-- Reads an integer of 64 bits with a sign. -/
def int64 : Decoder Int :=
  intIn (-(Decimal.maxInt64 : Int) - 1) Decimal.maxInt64

/-- Reads an integer of 64 bits without a sign. -/
def uint64 : Decoder Nat :=
  Int.toNat <$> intIn 0 Decimal.maxUInt64

/-- Reads a text that stands for a value. -/
def ofText (read? : String → Option α) : Decoder α := do
  match read? (← text) with
  | some a => pure a
  | none => unfit

/-! ### Compound values -/

/-- Reads a value or `null`. -/
def option (decode : Decoder α) : Decoder (Option α) := do
  match ← peek with
  | some 'n' => do
    unit
    pure none
  | _ => some <$> decode

/-- Reads a list from an array. -/
def list (decode : Decoder α) : Decoder (List α) := do
  match ← peek with
  | some '[' => bounded fun bound => enclosed ']' (items decode bound true)
  | _ => mismatch

/-- Reads one of several named values: its name, or an object of its name and `null`. -/
def choice (named : String → Option α) : Decoder α := do
  match ← peek with
  | some '"' => ofText named
  | some '\x7b' => do
    let a ← nested do
      advance
      let a ← ofText named
      valued unit
      pure a
    if (← peek) = some '\x7d' then
      advance
      pure a
    else broken
  | _ => broken

/-! ### Records -/

/-- A member of a record: its name and a check of its value. -/
structure Member where
  name : String
  check : Decoder Unit

/-- The member whose value a decoder reads. -/
def member (name : String) (decode : Decoder α) : Member :=
  ⟨name, do
    let _ ← decode
    pure ()⟩

/-- A place in a text: how deep values may nest there, and the bytes from there on. -/
structure Place where
  depth : Nat
  bytes : Bytes

/-- This place. -/
def here : Decoder Place := fun depth s =>
  (.ok ⟨depth, s⟩, s)

/-- The places of the values of a record, by name. -/
abbrev Entries := List (String × Place)

/-- Collects a member of a record from an object. -/
def fromObject (shape : List Member) (found : Entries) (name : String) : Decoder Entries :=
  match shape.find? (·.name == name) with
  | none => do
    valued ignored
    pure found
  | some m =>
    if (found.lookup name).isSome then unfit
    else do
      colon
      let place ← here
      m.check
      pure ((name, place) :: found)

/-- Collects the members of a record from an array that lists them in order. Members after the
first `required` ones may be missing at the end. -/
def fromArray : Nat → List Member → Bool → Decoder Entries
  | _, [], _ => pure []
  | required, m :: ms, first => do
    if ← hasItem first then
      let place ← here
      m.check
      let found ← fromArray (required - 1) ms false
      pure ((m.name, place) :: found)
    else if required = 0 then pure []
    else unfit

/-- Collects the members of a record. -/
def entries (shape : List Member) (required : Nat) : Decoder Entries := do
  match ← peek with
  | some '[' => enclosed ']' (fromArray required shape true)
  | some '\x7b' =>
    bounded fun bound => enclosed '\x7d' (members (fromObject shape) bound true [])
  | _ => mismatch

/-- Reads a value at another place. -/
def readAt (place : Place) (decode : Decoder α) : Decoder α := fun _ s =>
  ((decode place.depth place.bytes).1, s)

/-- The value of a member that has to be there. -/
def Entries.needed (found : Entries) (name : String) (decode : Decoder α) : Decoder α :=
  match found.lookup name with
  | some place => readAt place decode
  | none => unfit

/-- The value of a member that may be missing. -/
def Entries.orElse (found : Entries) (name : String) (decode : Decoder α) (default : α) :
    Decoder α :=
  match found.lookup name with
  | some place => readAt place decode
  | none => pure default

/-! ### Whole texts -/

/-- How deep arrays and objects may nest. -/
def maxDepth : Nat := 127

/-- Reads a value out of the bytes of a whole text. -/
def runBytes (decode : Decoder α) (bytes : Bytes) : Except JsonFault α :=
  match decode maxDepth bytes with
  | (.error fault, _) => .error fault
  | (.ok a, rest) => if (skipSpace rest).isEmpty then .ok a else .error .syntaxFault

/-- Reads a value out of a whole text. -/
def run (decode : Decoder α) (s : String) : Except JsonFault α :=
  decode.runBytes (Text.utf8 s)

end Gatehouse.Decoder

namespace Gatehouse

/-- The JSON value of a text. -/
def Json.read (s : String) : Except JsonFault Json :=
  Decoder.any.run s

end Gatehouse
