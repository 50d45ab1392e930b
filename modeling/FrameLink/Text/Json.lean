import FrameLink.Text.Literal
import FrameLink.Bytes.Hex

/-!
JSON documents and the strict reading of JSON text. Blanks between tokens are space, tab, line
feed and carriage return. A string holds no control character, knows the escapes `\"`, `\\`, `/`,
`b`, `f`, `n`, `r`, `t` and four-digit `\u` codes, and a surrogate code is only allowed as the
first half of a pair directly followed by the second. A number is a `Literal` and keeps what it
reads as: a natural number, a negative integer, or a 64-bit float; a literal past the largest
float is no number. At most 127 arrays and objects may be open at once. An object keeps its
members sorted by key, and of two members with one key the later one.
-/

namespace FrameLink

/-- A JSON document. A number is what its literal reads as, never `Reading.outOfRange`; object
members are sorted by key, one member a key. -/
inductive JsonValue where
  | null
  | bool (b : Bool)
  | number (n : Reading)
  | str (s : String)
  | arr (items : List JsonValue)
  | obj (members : List (String × JsonValue))

namespace JsonValue

def isSpace (c : Char) : Bool := c == ' ' || c == '\t' || c == '\n' || c == '\r'

def isLiteralChar (c : Char) : Bool :=
  c.isDigit || c == '-' || c == '+' || c == '.' || c == 'e' || c == 'E'

def code? (a b c d : Char) : Option Nat := do
  let a ← Hex.digitValue? a
  let b ← Hex.digitValue? b
  let c ← Hex.digitValue? c
  let d ← Hex.digitValue? d
  pure (((a * 16 + b) * 16 + c) * 16 + d)

/-- The character a one-letter escape stands for. -/
def escaped? : Char → Option Char
  | '"' => some '"'
  | '\\' => some '\\'
  | '/' => some '/'
  | 'b' => some '\x08'
  | 'f' => some '\x0c'
  | 'n' => some '\n'
  | 'r' => some '\r'
  | 't' => some '\t'
  | _ => none

def isHighSurrogate (n : Nat) : Bool := 0xd800 ≤ n && n ≤ 0xdbff

def isLowSurrogate (n : Nat) : Bool := 0xdc00 ≤ n && n ≤ 0xdfff

/-- The rest of a string after its opening quote: its characters up to the closing quote (those read
so far in `acc`, last first), and the text after the quote. -/
def stringBody (acc : List Char) : List Char → Option (String × List Char)
  | [] => none
  | '"' :: rest => some (String.ofList acc.reverse, rest)
  | '\\' :: 'u' :: a :: b :: c :: d :: rest =>
    match code? a b c d with
    | none => none
    | some n =>
      if isLowSurrogate n then none
      else if isHighSurrogate n then
        match rest with
        | '\\' :: 'u' :: e :: f :: g :: h :: rest' =>
          match code? e f g h with
          | some m =>
            if isLowSurrogate m then
              stringBody (Char.ofNat (0x10000 + (n - 0xd800) * 0x400 + (m - 0xdc00)) :: acc) rest'
            else none
          | none => none
        | _ => none
      else stringBody (Char.ofNat n :: acc) rest
  | '\\' :: e :: rest =>
    match escaped? e with
    | some c => stringBody (c :: acc) rest
    | none => none
  | c :: rest => if c.toNat < 0x20 then none else stringBody (c :: acc) rest

/-- The number at the front of `cs`: the whole run of literal characters must be one literal, since
no other token may follow a number directly. -/
def number? (cs : List Char) : Option (JsonValue × List Char) :=
  let run := cs.takeWhile isLiteralChar
  match Literal.ofChars? run with
  | some l =>
    match l.reading with
    | .outOfRange => none
    | r => some (.number r, cs.dropWhile isLiteralChar)
  | none => none

/-- The members of an object with `m` put in: sorted by key, `m` in place of a member of its key. -/
def putMember (m : String × JsonValue) : List (String × JsonValue) → List (String × JsonValue)
  | [] => [m]
  | n :: ns =>
    if m.1 < n.1 then m :: n :: ns
    else if m.1 = n.1 then m :: ns
    else n :: putMember m ns

mutual

/-- The value at the front of `cs`, blanks skipped, and the text after it. `room` is one more than
the arrays and objects that may still open; `fuel` bounds the calls. -/
def value : Nat → Nat → List Char → Option (JsonValue × List Char)
  | 0, _, _ => none
  | fuel + 1, room, cs =>
    match cs.dropWhile isSpace with
    | 'n' :: 'u' :: 'l' :: 'l' :: rest => some (.null, rest)
    | 't' :: 'r' :: 'u' :: 'e' :: rest => some (.bool true, rest)
    | 'f' :: 'a' :: 'l' :: 's' :: 'e' :: rest => some (.bool false, rest)
    | '"' :: rest => (stringBody [] rest).map fun (s, r) => (.str s, r)
    | '[' :: rest =>
      if room ≤ 1 then none
      else match rest.dropWhile isSpace with
        | ']' :: rest => some (.arr [], rest)
        | _ =>
          match value fuel (room - 1) rest with
          | some (v, r) => items fuel (room - 1) [v] r
          | none => none
    | '{' :: rest =>
      if room ≤ 1 then none
      else match rest.dropWhile isSpace with
        | '}' :: rest => some (.obj [], rest)
        | _ =>
          match member fuel (room - 1) rest with
          | some (m, r) => members fuel (room - 1) [m] r
          | none => none
    | cs => number? cs

/-- The rest of an array after an item: more items after commas, up to the closing bracket. -/
def items : Nat → Nat → List JsonValue → List Char → Option (JsonValue × List Char)
  | 0, _, _, _ => none
  | fuel + 1, room, acc, cs =>
    match cs.dropWhile isSpace with
    | ',' :: rest =>
      match value fuel room rest with
      | some (v, r) => items fuel room (v :: acc) r
      | none => none
    | ']' :: rest => some (.arr acc.reverse, rest)
    | _ => none

def member : Nat → Nat → List Char → Option ((String × JsonValue) × List Char)
  | 0, _, _ => none
  | fuel + 1, room, cs =>
    match cs.dropWhile isSpace with
    | '"' :: rest =>
      match stringBody [] rest with
      | some (k, r) =>
        match r.dropWhile isSpace with
        | ':' :: r => (value fuel room r).map fun (v, r) => ((k, v), r)
        | _ => none
      | none => none
    | _ => none

/-- The rest of an object after a member: more members after commas, up to the closing brace. -/
def members : Nat → Nat → List (String × JsonValue) → List Char → Option (JsonValue × List Char)
  | 0, _, _, _ => none
  | fuel + 1, room, acc, cs =>
    match cs.dropWhile isSpace with
    | ',' :: rest =>
      match member fuel room rest with
      | some (m, r) => members fuel room (putMember m acc) r
      | none => none
    | '}' :: rest => some (.obj acc, rest)
    | _ => none

end

/-- The document a text holds, blanks around it allowed. Each call reads a character before the
next, so one call more than the text has characters is enough. -/
def read? (text : String) : Option JsonValue :=
  let cs := text.toList
  match value (cs.length + 1) 128 cs with
  | some (v, rest) => if (rest.dropWhile isSpace).isEmpty then some v else none
  | none => none

def get? (v : JsonValue) (k : String) : Option JsonValue :=
  match v with
  | .obj ms => ms.lookup k
  | _ => none

def natural? : JsonValue → Option Nat
  | .number (.natural n) => some n
  | _ => none

def integer? : JsonValue → Option Int
  | .number (.natural n) => if n < Nat.pow 2 63 then some n else none
  | .number (.negative n) => some (-(n : Int))
  | _ => none

def floatBits? : JsonValue → Option Nat
  | .number (.natural n) => some (Decimal.integerBits n)
  | .number (.negative n) => some (Decimal.integerBits (-(n : Int)))
  | .number (.double bits) => some bits
  | _ => none

end JsonValue

end FrameLink
