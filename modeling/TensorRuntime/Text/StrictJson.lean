/-! A strict reader of JSON texts. Every string of a text has well-formed escapes, but only a string
whose escapes pair their surrogates has a value. -/

namespace TensorRuntime

/-- A JSON value. Numbers are checked and not kept; of a string without a value nothing is kept. -/
inductive JsonValue where
  | null
  | bool (value : Bool)
  | number
  | text (value : Option String)
  | array (items : List JsonValue)
  | object (members : List (Option String × JsonValue))
  deriving Inhabited

namespace StrictJson

def isSpace (char : Char) : Bool :=
  char == ' ' || char == '\n' || char == '\t' || char == '\r'

def skipSpace (chars : List Char) : List Char := chars.dropWhile isSpace

def hexDigit? (char : Char) : Option Nat :=
  if '0' ≤ char ∧ char ≤ '9' then some (char.toNat - '0'.toNat)
  else if 'a' ≤ char ∧ char ≤ 'f' then some (char.toNat - 'a'.toNat + 10)
  else if 'A' ≤ char ∧ char ≤ 'F' then some (char.toNat - 'A'.toNat + 10)
  else none

def simpleEscape? : Char → Option Char
  | '"' => some '"'
  | '\\' => some '\\'
  | '/' => some '/'
  | 'b' => some '\x08'
  | 'f' => some '\x0c'
  | 'n' => some '\n'
  | 'r' => some '\r'
  | 't' => some '\t'
  | _ => none

inductive Piece where
  | char (value : Char)
  | unit (value : Nat)

def pieces : List Char → Option (List Piece × List Char)
  | [] => none
  | '"' :: rest => some ([], rest)
  | '\\' :: 'u' :: first :: second :: third :: fourth :: rest => do
      let unit := (((← hexDigit? first) * 16 + (← hexDigit? second)) * 16 +
        (← hexDigit? third)) * 16 + (← hexDigit? fourth)
      let (following, rest) ← pieces rest
      return (.unit unit :: following, rest)
  | '\\' :: escaped :: rest => do
      let char ← simpleEscape? escaped
      let (following, rest) ← pieces rest
      return (.char char :: following, rest)
  | char :: rest =>
      if char == '\\' || char.toNat < 0x20 then none
      else do
        let (following, rest) ← pieces rest
        return (.char char :: following, rest)

def isHighSurrogate (unit : Nat) : Bool := 0xD800 ≤ unit && unit < 0xDC00

def isLowSurrogate (unit : Nat) : Bool := 0xDC00 ≤ unit && unit < 0xE000

def charsOf? : List Piece → Option (List Char)
  | [] => some []
  | .char char :: rest => (char :: ·) <$> charsOf? rest
  | .unit high :: .unit low :: rest =>
      if isHighSurrogate high then
        if isLowSurrogate low then
          (Char.ofNat (0x10000 + (high - 0xD800) * 0x400 + (low - 0xDC00)) :: ·) <$> charsOf? rest
        else none
      else if isLowSurrogate high then none
      else (Char.ofNat high :: ·) <$> charsOf? (.unit low :: rest)
  | .unit unit :: rest =>
      if isHighSurrogate unit || isLowSurrogate unit then none
      else (Char.ofNat unit :: ·) <$> charsOf? rest

def string? (chars : List Char) : Option (Option String × List Char) := do
  let (found, rest) ← pieces chars
  return ((charsOf? found).map String.ofList, rest)

def isDigit (char : Char) : Bool := '0' ≤ char && char ≤ '9'

def skipDigits? (chars : List Char) : Option (List Char) :=
  match chars with
  | first :: rest => if isDigit first then some (rest.dropWhile isDigit) else none
  | [] => none

def skipWhole? (chars : List Char) : Option (List Char) :=
  match chars with
  | '0' :: rest =>
      match rest with
      | next :: _ => if isDigit next then none else some rest
      | [] => some rest
  | _ => skipDigits? chars

def skipFraction? (chars : List Char) : Option (List Char) :=
  match chars with
  | '.' :: rest => skipDigits? rest
  | _ => some chars

def skipExponent? (chars : List Char) : Option (List Char) :=
  match chars with
  | 'e' :: rest | 'E' :: rest =>
      match rest with
      | '+' :: digits | '-' :: digits => skipDigits? digits
      | _ => skipDigits? rest
  | _ => some chars

def skipNumber? (chars : List Char) : Option (List Char) := do
  let unsigned := match chars with
    | '-' :: rest => rest
    | _ => chars
  skipExponent? (← skipFraction? (← skipWhole? unsigned))

mutual

/-- A value after blanks, and the text after it. Every call reads at least one character of the
text, whose length bounds the depth of calls. -/
def value? (depth : Nat) (chars : List Char) : Option (JsonValue × List Char) :=
  match depth with
  | 0 => none
  | depth + 1 =>
      match skipSpace chars with
      | 'n' :: 'u' :: 'l' :: 'l' :: rest => some (.null, rest)
      | 't' :: 'r' :: 'u' :: 'e' :: rest => some (.bool true, rest)
      | 'f' :: 'a' :: 'l' :: 's' :: 'e' :: rest => some (.bool false, rest)
      | '"' :: rest => do
          let (text, rest) ← string? rest
          return (.text text, rest)
      | '[' :: rest =>
          match skipSpace rest with
          | ']' :: rest => some (.array [], rest)
          | rest => do
              let (items, rest) ← items? depth rest
              return (.array items, rest)
      | '\x7b' :: rest =>
          match skipSpace rest with
          | '\x7d' :: rest => some (.object [], rest)
          | rest => do
              let (members, rest) ← members? depth rest
              return (.object members, rest)
      | rest => do
          let rest ← skipNumber? rest
          return (.number, rest)

def items? (depth : Nat) (chars : List Char) : Option (List JsonValue × List Char) :=
  match depth with
  | 0 => none
  | depth + 1 => do
      let (item, rest) ← value? depth chars
      match skipSpace rest with
      | ']' :: rest => return ([item], rest)
      | ',' :: rest =>
          let (items, rest) ← items? depth rest
          return (item :: items, rest)
      | _ => none

def members? (depth : Nat) (chars : List Char) :
    Option (List (Option String × JsonValue) × List Char) :=
  match depth with
  | 0 => none
  | depth + 1 =>
      match skipSpace chars with
      | '"' :: rest => do
          let (key, rest) ← string? rest
          match skipSpace rest with
          | ':' :: rest =>
              let (value, rest) ← value? depth rest
              match skipSpace rest with
              | '\x7d' :: rest => return ([(key, value)], rest)
              | ',' :: rest =>
                  let (members, rest) ← members? depth rest
                  return ((key, value) :: members, rest)
              | _ => none
          | _ => none
      | _ => none

end

def read? (text : String) : Option JsonValue := do
  let chars := text.toList
  let (value, rest) ← value? (2 * chars.length + 2) chars
  if (skipSpace rest).isEmpty then return value else none

def hexDigit (digit : Nat) : Char :=
  if digit < 10 then Char.ofNat (48 + digit) else Char.ofNat (87 + digit)

def escaped (char : Char) : List Char :=
  match char with
  | '"' => ['\\', '"']
  | '\\' => ['\\', '\\']
  | '\x08' => ['\\', 'b']
  | '\x0c' => ['\\', 'f']
  | '\n' => ['\\', 'n']
  | '\r' => ['\\', 'r']
  | '\t' => ['\\', 't']
  | char =>
      if char.toNat < 0x20 then
        ['\\', 'u', '0', '0', hexDigit (char.toNat / 16), hexDigit (char.toNat % 16)]
      else [char]

def quoted (text : String) : String :=
  String.ofList ('"' :: text.toList.flatMap escaped ++ ['"'])

end StrictJson

end TensorRuntime
