import HomeCore.Types.Json

/-! Text operations of the standard library and of serde_json that the engine
calls on payloads and topics. -/
namespace HomeCore

/-- `str::split` on one character. -/
def splitText (separator : Char) (text : String) : List String :=
  (text.toList.splitOn separator).map String.ofList

/-- `char::is_whitespace`. -/
def isWhitespace (c : Char) : Bool :=
  (0x09 ≤ c.toNat && c.toNat ≤ 0x0D) || (0x2000 ≤ c.toNat && c.toNat ≤ 0x200A) ||
    c.toNat ∈ [0x20, 0x85, 0xA0, 0x1680, 0x2028, 0x2029, 0x202F, 0x205F, 0x3000]

def trimStart (text : List Char) : List Char := text.dropWhile isWhitespace

def trim (text : List Char) : List Char :=
  ((trimStart text).reverse.dropWhile isWhitespace).reverse

def isContinuation (b : UInt8) : Bool := 0x80 ≤ b && b ≤ 0xBF

/-- The second bytes a leading byte admits, and how many plain continuation
bytes follow it. -/
def leading (b : UInt8) : Option ((UInt8 → Bool) × Nat) :=
  if 0xC2 ≤ b && b ≤ 0xDF then some (isContinuation, 0)
  else if b == 0xE0 then some (fun c => 0xA0 ≤ c && c ≤ 0xBF, 1)
  else if b == 0xED then some (fun c => 0x80 ≤ c && c ≤ 0x9F, 1)
  else if 0xE1 ≤ b && b ≤ 0xEF then some (isContinuation, 1)
  else if b == 0xF0 then some (fun c => 0x90 ≤ c && c ≤ 0xBF, 2)
  else if 0xF1 ≤ b && b ≤ 0xF3 then some (isContinuation, 2)
  else if b == 0xF4 then some (fun c => 0x80 ≤ c && c ≤ 0x8F, 2)
  else none

/-- The payload bits of the leading byte of a sequence of `more + 2` bytes. -/
def leadingBits (b : UInt8) (more : Nat) : Nat :=
  b.toNat % 2 ^ (5 - more)

/-- Reads `count` plain continuation bytes into `code`; `none` where one is
missing, with the bytes that were left unread. -/
def continuations : Nat → Nat → List UInt8 → Option Nat × List UInt8
  | 0, code, rest => (some code, rest)
  | _ + 1, _, [] => (none, [])
  | count + 1, code, b :: rest =>
    if isContinuation b then continuations count (code * 64 + b.toNat % 64) rest
    else (none, b :: rest)

/-- `String::from_utf8_lossy`: a maximal ill-formed piece becomes one
replacement character. The fuel is the number of bytes left. -/
def utf8Chars : Nat → List UInt8 → List Char
  | 0, _ => []
  | _ + 1, [] => []
  | fuel + 1, b :: rest =>
    if b < 0x80 then Char.ofNat b.toNat :: utf8Chars fuel rest
    else match leading b with
      | none => '\uFFFD' :: utf8Chars fuel rest
      | some (second, more) => match rest with
        | [] => ['\uFFFD']
        | c :: tail =>
          if second c then
            match continuations more (leadingBits b more * 64 + c.toNat % 64) tail with
            | (some code, left) => Char.ofNat code :: utf8Chars fuel left
            | (none, left) => '\uFFFD' :: utf8Chars fuel left
          else '\uFFFD' :: utf8Chars fuel (c :: tail)

def fromUtf8Lossy (bytes : List UInt8) : String :=
  String.ofList (utf8Chars bytes.length bytes)

/-- An array index of a JSON pointer: digits, with no sign or leading zero. -/
def parseIndex (token : List Char) : Option Nat :=
  if token.isEmpty || !token.all Char.isDigit || (token.head? == some '0' && 1 < token.length) then
    none
  else
    let n := token.foldl (fun n c => n * 10 + (c.toNat - 48)) 0
    if n < 2 ^ 64 then some n else none

/-- `~1` stands for a slash and, read after it, `~0` for a tilde. -/
def unescapeToken : List Char → List Char
  | '~' :: '1' :: rest => '/' :: unescapeToken rest
  | '~' :: '0' :: rest => '~' :: unescapeToken rest
  | c :: rest => c :: unescapeToken rest
  | [] => []

namespace Json

def child (value : Json) (token : List Char) : Option Json :=
  match value with
  | .obj _ => value.get (String.ofList token)
  | .arr items => (parseIndex token).bind (items[·]?)
  | _ => none

/-- `Value::pointer`. -/
def pointer (value : Json) (path : String) : Option Json :=
  match path.toList with
  | [] => some value
  | '/' :: rest => (rest.splitOn '/').foldlM (fun v token => v.child (unescapeToken token)) value
  | _ => none

end Json
end HomeCore
