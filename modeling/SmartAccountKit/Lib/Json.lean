import Mathlib.Data.List.Basic

/-!
# JSON texts

The values that a JSON text denotes, and reading and writing them. A number is
kept as its text. Strings hold whole characters: an escaped surrogate that has
no partner is read as the replacement character.
-/

namespace SmartAccountKit.Lib

/-- A JSON value. The fields of an object stand in the order of the text. -/
inductive JsonValue where
  | null
  | bool (value : Bool)
  | number (text : List Char)
  | string (value : String)
  | array (items : List JsonValue)
  | object (fields : List (String × JsonValue))

namespace JsonValue

/-- The value of a field; of fields with one name the last one counts. -/
def field (name : String) : JsonValue → Option JsonValue
  | object fields => (fields.reverse.find? fun e => e.1 == name).map (·.2)
  | _ => none

/-- The text of a string. -/
def text? : JsonValue → Option String
  | string value => some value
  | _ => none

end JsonValue

/-! ## Reading -/

/-- The characters that may stand between the tokens of a text. -/
def isJsonSpace (c : Char) : Bool := c = ' ' ∨ c = '\t' ∨ c = '\n' ∨ c = '\r'

def skipJsonSpaces (cs : List Char) : List Char := cs.dropWhile isJsonSpace

/-- The value of a hexadecimal digit in either case. -/
def jsonHexValue (c : Char) : Option ℕ :=
  if '0' ≤ c ∧ c ≤ '9' then some (c.toNat - '0'.toNat)
  else if 'a' ≤ c ∧ c ≤ 'f' then some (c.toNat - 'a'.toNat + 10)
  else if 'A' ≤ c ∧ c ≤ 'F' then some (c.toNat - 'A'.toNat + 10)
  else none

/-- The code unit of four hexadecimal digits. -/
def readCodeUnit : List Char → Option (ℕ × List Char)
  | a :: b :: c :: d :: rest => do
    return (((← jsonHexValue a) * 16 + (← jsonHexValue b)) * 256 +
      ((← jsonHexValue c) * 16 + (← jsonHexValue d)), rest)
  | _ => none

/-- The character of an escape that starts with `u`, and what follows it. A low surrogate is read
with the high one before it. -/
def readUnicodeEscape (cs : List Char) : Option (Char × List Char) := do
  let (unit, rest) ← readCodeUnit cs
  if 0xd800 ≤ unit ∧ unit ≤ 0xdbff then
    match rest with
    | '\\' :: 'u' :: more =>
      match readCodeUnit more with
      | some (low, after) =>
        if 0xdc00 ≤ low ∧ low ≤ 0xdfff then
          some (Char.ofNat (0x10000 + (unit - 0xd800) * 0x400 + (low - 0xdc00)), after)
        else some (Char.ofNat 0xfffd, rest)
      | none => none
    | _ => some (Char.ofNat 0xfffd, rest)
  else if 0xdc00 ≤ unit ∧ unit ≤ 0xdfff then some (Char.ofNat 0xfffd, rest)
  else some (Char.ofNat unit, rest)

/-- The character that a letter after a backslash stands for. -/
def escapedChar : Char → Option Char
  | '"' => some '"'
  | '\\' => some '\\'
  | '/' => some '/'
  | 'b' => some (Char.ofNat 8)
  | 'f' => some (Char.ofNat 12)
  | 'n' => some '\n'
  | 'r' => some '\r'
  | 't' => some '\t'
  | _ => none

/-- The characters of a string up to its closing quote, and what follows it. The fuel bounds the
number of characters. -/
def readStringChars : ℕ → List Char → Option (List Char × List Char)
  | 0, _ => none
  | _ + 1, '"' :: rest => some ([], rest)
  | fuel + 1, '\\' :: 'u' :: rest => do
    let (c, rest) ← readUnicodeEscape rest
    let (chars, rest) ← readStringChars fuel rest
    return (c :: chars, rest)
  | fuel + 1, '\\' :: letter :: rest => do
    let c ← escapedChar letter
    let (chars, rest) ← readStringChars fuel rest
    return (c :: chars, rest)
  | fuel + 1, c :: rest =>
    if c = '\\' ∨ c.toNat < 0x20 then none
    else do
      let (chars, rest) ← readStringChars fuel rest
      return (c :: chars, rest)
  | _ + 1, [] => none

/-- A string after its opening quote. -/
def readJsonString (cs : List Char) : Option (String × List Char) := do
  let (chars, rest) ← readStringChars (cs.length + 1) cs
  return (String.ofList chars, rest)

/-- One or more digits. -/
def readJsonDigits (cs : List Char) : Option (List Char × List Char) :=
  let digits := cs.takeWhile Char.isDigit
  if digits = [] then none else some (digits, cs.dropWhile Char.isDigit)

/-- The digits of an integer, without leading zeros. -/
def readIntegerPart : List Char → Option (List Char × List Char)
  | '0' :: rest => some (['0'], rest)
  | cs => readJsonDigits cs

/-- An optional part of a number, with its first character. -/
def readFraction : List Char → Option (List Char × List Char)
  | '.' :: rest => do
    let (digits, rest) ← readJsonDigits rest
    return ('.' :: digits, rest)
  | cs => some ([], cs)

def readExponent : List Char → Option (List Char × List Char)
  | c :: rest =>
    if c = 'e' ∨ c = 'E' then
      match rest with
      | s :: more =>
        if s = '+' ∨ s = '-' then do
          let (digits, rest) ← readJsonDigits more
          return (c :: s :: digits, rest)
        else do
          let (digits, rest) ← readJsonDigits rest
          return (c :: digits, rest)
      | [] => none
    else some ([], c :: rest)
  | [] => some ([], [])

def readJsonNumber (cs : List Char) : Option (JsonValue × List Char) := do
  let (sign, cs) := match cs with
    | '-' :: rest => (['-'], rest)
    | _ => ([], cs)
  let (integer, cs) ← readIntegerPart cs
  let (fraction, cs) ← readFraction cs
  let (exponent, cs) ← readExponent cs
  return (.number (sign ++ integer ++ fraction ++ exponent), cs)

mutual

/-- A value at the start of a text, and what follows it. The fuel bounds the nesting. -/
def readJsonValue : ℕ → List Char → Option (JsonValue × List Char)
  | 0, _ => none
  | fuel + 1, '{' :: rest =>
    match skipJsonSpaces rest with
    | '}' :: rest => some (.object [], rest)
    | cs => (readJsonFields fuel cs).map fun (fields, rest) => (.object fields, rest)
  | fuel + 1, '[' :: rest =>
    match skipJsonSpaces rest with
    | ']' :: rest => some (.array [], rest)
    | cs => (readJsonItems fuel cs).map fun (items, rest) => (.array items, rest)
  | _ + 1, '"' :: rest => (readJsonString rest).map fun (s, rest) => (.string s, rest)
  | _ + 1, 't' :: 'r' :: 'u' :: 'e' :: rest => some (.bool true, rest)
  | _ + 1, 'f' :: 'a' :: 'l' :: 's' :: 'e' :: rest => some (.bool false, rest)
  | _ + 1, 'n' :: 'u' :: 'l' :: 'l' :: rest => some (.null, rest)
  | _ + 1, cs => readJsonNumber cs

/-- The items of an array up to its closing bracket. -/
def readJsonItems : ℕ → List Char → Option (List JsonValue × List Char)
  | 0, _ => none
  | fuel + 1, cs => do
    let (item, rest) ← readJsonValue fuel cs
    match skipJsonSpaces rest with
    | ',' :: rest => do
      let (items, rest) ← readJsonItems fuel (skipJsonSpaces rest)
      return (item :: items, rest)
    | ']' :: rest => some ([item], rest)
    | _ => none

/-- The fields of an object up to its closing brace. -/
def readJsonFields : ℕ → List Char → Option (List (String × JsonValue) × List Char)
  | 0, _ => none
  | fuel + 1, '"' :: cs => do
    let (name, rest) ← readJsonString cs
    match skipJsonSpaces rest with
    | ':' :: rest => do
      let (value, rest) ← readJsonValue fuel (skipJsonSpaces rest)
      match skipJsonSpaces rest with
      | ',' :: rest => do
        let (fields, rest) ← readJsonFields fuel (skipJsonSpaces rest)
        return ((name, value) :: fields, rest)
      | '}' :: rest => some ([(name, value)], rest)
      | _ => none
    | _ => none
  | _ + 1, _ => none

end

/-- `JSON.parse`, or nothing where it throws. A nested value is shorter than the text around it,
so the length of the text bounds the nesting. -/
def parseJson (text : String) : Option JsonValue :=
  match readJsonValue (text.length + 1) (skipJsonSpaces text.toList) with
  | some (value, rest) => if skipJsonSpaces rest = [] then some value else none
  | none => none

end SmartAccountKit.Lib
