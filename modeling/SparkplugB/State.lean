/-
# Host Application STATE payloads

`src/state.rs`.  STATE is a two-key JSON object, written by `toJson` and read by a small hand
parser.  The parser works on characters; `trim` strips Unicode white space, as `str::trim` does.
-/
import SparkplugB.Error

namespace SparkplugB

/-- A Host Application STATE message body. -/
structure StatePayload where
  online : Bool
  timestamp : Int64
  deriving DecidableEq, Repr

/-! ## 1. The string functions the parser uses -/

/-- `char::is_whitespace`: the Unicode property `White_Space`. -/
def isWhitespace (c : Char) : Bool :=
  let n := c.toNat
  (9 ≤ n && n ≤ 13) || n = 0x20 || n = 0x85 || n = 0xA0 || n = 0x1680 ||
    (0x2000 ≤ n && n ≤ 0x200A) || n = 0x2028 || n = 0x2029 || n = 0x202F || n = 0x205F ||
    n = 0x3000

/-- Strip the characters `p` accepts from both ends: `str::trim` and `str::trim_matches`. -/
def trimMatches (p : Char → Bool) (s : List Char) : List Char :=
  (s.dropWhile p).rdropWhile p

def trim : List Char → List Char := trimMatches isWhitespace

/-- `str::split_once` at a character. -/
def splitOnce (c : Char) (s : List Char) : Option (List Char × List Char) :=
  match s.span (· ≠ c) with
  | (_, []) => none
  | (before, _ :: after) => some (before, after)

/-- `s.strip_prefix('\x7b').and_then(|s| s.strip_suffix('\x7d'))`. -/
def stripBraces (s : List Char) : Option (List Char) :=
  match s with
  | '\x7b' :: rest => if rest.getLast? = some '\x7d' then some rest.dropLast else none
  | _ => none

/-- The digits of `str::parse::<i64>`, read in the sign's direction, so that `i64::MIN` is read
without an overflow. -/
def parseDigits (negative : Bool) (acc : Int) : List Char → Except String Int
  | [] => .ok acc
  | c :: rest =>
    if ¬ ('0' ≤ c ∧ c ≤ '9') then .error "invalid digit found in string"
    else
      let d : Int := c.toNat - '0'.toNat
      if negative then
        if acc * 10 - d < -2 ^ 63 then .error "number too small to fit in target type"
        else parseDigits negative (acc * 10 - d) rest
      else if 2 ^ 63 ≤ acc * 10 + d then .error "number too large to fit in target type"
      else parseDigits negative (acc * 10 + d) rest

/-- `str::parse::<i64>`, with the text of its error. -/
def parseInt64 (s : List Char) : Except String Int64 :=
  match s with
  | [] => .error "cannot parse integer from empty string"
  | ['+'] | ['-'] => .error "invalid digit found in string"
  | '+' :: rest => (parseDigits false 0 rest).map Int64.ofInt
  | '-' :: rest => (parseDigits true 0 rest).map Int64.ofInt
  | s => (parseDigits false 0 s).map Int64.ofInt

namespace StatePayload

/-! ## 2. Writing and reading -/

/-- Serialize to the canonical JSON form. -/
def toJson (s : StatePayload) : String :=
  "\x7b\"online\":" ++ toString s.online ++ ",\"timestamp\":" ++ toString s.timestamp.toInt ++
    "\x7d"

/-- One `key:value` field of the object: what it sets. -/
def parseField (acc : Option Bool × Option Int64) (field : List Char) :
    Result (Option Bool × Option Int64) :=
  if trim field = [] then .ok acc
  else
    match splitOnce ':' field with
    | none => .error (.invalidState s!"expected key:value, got {debugStr (String.ofList field)}")
    | some (key, value) =>
      let key := String.ofList (trimMatches (· = '"') (trim key))
      let value := trim value
      if key = "online" then
        if String.ofList value = "true" then .ok (some true, acc.2)
        else if String.ofList value = "false" then .ok (some false, acc.2)
        else
          .error (.invalidState
            s!"online must be true/false, got {debugStr (String.ofList value)}")
      else if key = "timestamp" then
        match parseInt64 value with
        | .ok t => .ok (acc.1, some t)
        | .error e => .error (.invalidState s!"timestamp not an integer: {e}")
      else .ok acc

/-- Parse a STATE JSON payload. -/
def parse (json : String) : Result StatePayload := do
  let inner ← match stripBraces (trim json.toList) with
    | some inner => .ok inner
    | none => .error (.invalidState "expected a JSON object")
  match ← (inner.splitOn ',').foldlM parseField (none, none) with
  | (some online, some timestamp) => .ok ⟨online, timestamp⟩
  | _ => .error (.invalidState "missing 'online' or 'timestamp'")

example : parse (toJson ⟨true, 1700000000000⟩) = .ok ⟨true, 1700000000000⟩ := by decide +kernel

end StatePayload

end SparkplugB
