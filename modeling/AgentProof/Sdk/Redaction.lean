import AgentProof.Sdk.CanonicalJson
import AgentProof.Lib.Places

/-!
# Redaction

`redact` of `privacy/index.ts`, and `JSON.stringify` of what it returns.  A string is
its UTF-16 code units, which is what the patterns and the escapes look at; a finite
number is its shortest decimal numeral.
-/

namespace AgentProof

namespace Sdk

namespace Redaction

open Places

abbrev Units := List UInt16

/-- The units of a literal. -/
def units (s : String) : Units := s.toList.map fun c => UInt16.ofNat c.toNat

/-! ## Patterns -/

/-- `[0-9a-fA-F]`. -/
def isHexUnit (c : UInt16) : Bool :=
  48 ≤ c && c ≤ 57 || 65 ≤ c && c ≤ 70 || 97 ≤ c && c ≤ 102

/-- `\w`. -/
def isWordUnit (c : UInt16) : Bool :=
  48 ≤ c && c ≤ 57 || 65 ≤ c && c ≤ 90 || c == 95 || 97 ≤ c && c ≤ 122

/-- `\b` between two units, either of which may be missing. -/
def wordBoundary (before after : Option UInt16) : Bool :=
  before.any isWordUnit != after.any isWordUnit

/-- `x` and 64 hex digits. -/
def HexTail : Units → Prop
  | c :: rest => c = 120 ∧ Run isHexUnit 64 rest
  | [] => False

instance : DecidablePred HexTail
  | [] => .isFalse id
  | c :: rest => inferInstanceAs (Decidable (c = 120 ∧ Run isHexUnit 64 rest))

/-- `HEX_KEY_PATTERN` at a place. -/
def HexKey (before : Option UInt16) (c : UInt16) (rest : Units) : Prop :=
  c = 48 ∧ HexTail rest ∧ wordBoundary before (some c) = true ∧
    wordBoundary rest[64]? rest[65]? = true

instance (before : Option UInt16) (c : UInt16) (rest : Units) : Decidable (HexKey before c rest) :=
  inferInstanceAs (Decidable (_ ∧ _))

def REDACTED_KEY : Units := units "0x[redacted-32-bytes]"

/-- `value.replace(HEX_KEY_PATTERN, …)`; `inMatch` units of a match are still to be left out. -/
def replaceKeys (before : Option UInt16) (inMatch : Nat) : Units → Units
  | [] => []
  | c :: rest =>
      match inMatch with
      | n + 1 => replaceKeys (some c) n rest
      | 0 =>
          if HexKey before c rest then REDACTED_KEY ++ replaceKeys (some c) 65 rest
          else c :: replaceKeys (some c) 0 rest

/-- `/^0x[0-9a-fA-F]{40}$/`. -/
def isAddressUnits : Units → Bool
  | 48 :: 120 :: body => body.length == 40 && body.all isHexUnit
  | _ => false

def truncateAddress (address : Units) : Units :=
  if isAddressUnits address then address.take 6 ++ 0x2026 :: address.drop (address.length - 4)
  else units "[not-an-address]"

def lowerUnit (c : UInt16) : UInt16 := if 65 ≤ c && c ≤ 90 then c + 32 else c

def SECRET_WORDS : List Units :=
  [units "privateKey", units "apiKey", units "secret", units "mnemonic", units "seed",
    units "sessionKey", units "authorization", units "x-payment"]

/-- `SECRET_KEY_PATTERN.test(key)`: letters outside ASCII have no case under it. -/
def isSecretKey (key : Units) : Bool :=
  SECRET_WORDS.any fun word => decide (word.map lowerUnit <:+: key.map lowerUnit)

/-! ## Values -/

/-- A number: not finite, or a sign, the digits of the shortest numeral and where its point
stands. -/
inductive JsNumber
  | notFinite
  | finite (negative : Bool) (digits : Nat) (point : Int)
  deriving DecidableEq, Repr

inductive LogValue
  | null
  | bool (b : Bool)
  | number (n : JsNumber)
  | bigint (n : Int)
  | string (s : Units)
  | array (items : List LogValue)
  | object (entries : List (Units × LogValue))

/-- What `redact` returns has no bigints. -/
abbrev Redacted := JsonValue Units JsNumber

def unitsOf (digits : Text) : Units := digits.map fun c => UInt16.ofNat c.toNat

def DEPTH_LIMIT : Redacted := .str (units "[depth-limit]")
def REDACTED : Redacted := .str (units "[redacted]")

/-- The key whose assignment is to the prototype of an object, and adds no property to it. -/
def PROTO : Units := units "__proto__"

mutual

def redact (depth : Nat) (value : LogValue) : Redacted :=
  if depth > 6 then DEPTH_LIMIT
  else
    match value with
    | .null => .null
    | .bool b => .bool b
    | .number n => .num n
    | .bigint n => .str (unitsOf (Js.toDecimal n))
    | .string s =>
        if isAddressUnits s then .str (truncateAddress s) else .str (replaceKeys none 0 s)
    | .array items => .arr (redactItems (depth + 1) items)
    | .object entries => .obj (redactEntries (depth + 1) entries)

def redactItems (depth : Nat) : List LogValue → List Redacted
  | [] => []
  | item :: rest => redact depth item :: redactItems depth rest

def redactEntries (depth : Nat) : List (Units × LogValue) → List (Units × Redacted)
  | [] => []
  | (key, item) :: rest =>
      let out := if isSecretKey key then REDACTED else redact depth item
      if key = PROTO then redactEntries depth rest else (key, out) :: redactEntries depth rest

end

/-! ## `JSON.stringify` -/

def isHighSurrogate (c : UInt16) : Bool := 0xD800 ≤ c && c ≤ 0xDBFF
def isLowSurrogate (c : UInt16) : Bool := 0xDC00 ≤ c && c ≤ 0xDFFF

/-- A surrogate outside a pair. -/
def isLone (before : Option UInt16) (c : UInt16) (next : Option UInt16) : Bool :=
  isHighSurrogate c && !next.any isLowSurrogate || isLowSurrogate c && !before.any isHighSurrogate

def hexUnit (d : Nat) : UInt16 := if d < 10 then UInt16.ofNat (48 + d) else UInt16.ofNat (87 + d)

/-- `\u` and four digits. -/
def unicodeEscape (c : UInt16) : Units :=
  [92, 117, hexUnit (c.toNat / 4096), hexUnit (c.toNat / 256 % 16), hexUnit (c.toNat / 16 % 16),
    hexUnit (c.toNat % 16)]

def escapeUnit (before : Option UInt16) (c : UInt16) (next : Option UInt16) : Units :=
  if c = 34 then units "\\\""
  else if c = 92 then units "\\\\"
  else if c = 8 then units "\\b"
  else if c = 12 then units "\\f"
  else if c = 10 then units "\\n"
  else if c = 13 then units "\\r"
  else if c = 9 then units "\\t"
  else if c < 32 || isLone before c next then unicodeEscape c
  else [c]

def quoteFrom (before : Option UInt16) : Units → Units
  | [] => []
  | c :: rest => escapeUnit before c rest.head? ++ quoteFrom (some c) rest

def quote (s : Units) : Units := 34 :: quoteFrom none s ++ [34]

/-- `Number::toString` of a finite number that is not negative, from its `k` digits. -/
def magnitudeText (digits : Nat) (point : Int) : Units :=
  let ds := Nat.toDigits 10 digits
  let k : Int := ds.length
  let exponent := point - 1
  let sign := if exponent < 0 then ['-'] else ['+']
  let power := 'e' :: sign ++ Nat.toDigits 10 exponent.natAbs
  unitsOf <|
    if digits = 0 then ['0']
    else if k ≤ point ∧ point ≤ 21 then ds ++ List.replicate (point - k).toNat '0'
    else if 0 < point ∧ point ≤ 21 then ds.take point.toNat ++ '.' :: ds.drop point.toNat
    else if -6 < point ∧ point ≤ 0 then '0' :: '.' :: List.replicate (-point).toNat '0' ++ ds
    else if k = 1 then ds ++ power
    else ds.take 1 ++ '.' :: ds.drop 1 ++ power

def numberText : JsNumber → Units
  | .notFinite => units "null"
  | .finite negative digits point =>
      (if negative && digits ≠ 0 then [45] else []) ++ magnitudeText digits point

mutual

def stringify : Redacted → Units
  | .null => units "null"
  | .bool true => units "true"
  | .bool false => units "false"
  | .num n => numberText n
  | .str s => quote s
  | .arr elements => 91 :: Readable.join 44 (stringifyElements elements) ++ [93]
  | .obj fields => 123 :: Readable.join 44 (stringifyFields fields) ++ [125]

def stringifyElements : List Redacted → List Units
  | [] => []
  | element :: rest => stringify element :: stringifyElements rest

def stringifyFields : List (Units × Redacted) → List Units
  | [] => []
  | (key, value) :: rest => (quote key ++ 58 :: stringify value) :: stringifyFields rest

end

end Redaction

end Sdk

end AgentProof
