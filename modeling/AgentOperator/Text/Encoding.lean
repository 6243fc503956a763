import AgentOperator.Text.Character

/-!
Three ways to write text: between double quotes, in the form encoding of queries, and in Base64.
-/
namespace AgentOperator.Text

/-! ### Quoted

A backslash stands before a quote or backslash; usual control characters have short escapes, and
what cannot be shown by itself is its code point in braces. -/

def hex (value : Nat) : List Char := Nat.toDigits 16 value

def escapeChar (c : Char) : List Char :=
  match c with
  | '"' => ['\\', '"']
  | '\\' => ['\\', '\\']
  | '\n' => ['\\', 'n']
  | '\r' => ['\\', 'r']
  | '\t' => ['\\', 't']
  | c =>
    if c.toNat = 0 then ['\\', '0']
    else if isPrintable c && !isExtending c then [c]
    else ['\\', 'u', '\x7b'] ++ hex c.toNat ++ ['\x7d']

def quoted (text : String) : String :=
  "\"" ++ String.ofList (text.toList.flatMap escapeChar) ++ "\""

/-! ### Form encoding

A blank is a plus, other bytes that are not plain are hexadecimal. -/

namespace FormEncoded

def isPlain (byte : UInt8) : Bool :=
  let code := byte.toNat
  (48 ≤ code && code ≤ 57) || (65 ≤ code && code ≤ 90) || (97 ≤ code && code ≤ 122) ||
    code = 42 || code = 45 || code = 46 || code = 95

def hexDigit (value : Nat) : Char := (Nat.digitChar value).toUpper

def encodeByte (byte : UInt8) : List Char :=
  if byte.toNat = 32 then ['+']
  else if isPlain byte then [Char.ofNat byte.toNat]
  else ['%', hexDigit (byte.toNat / 16), hexDigit (byte.toNat % 16)]

def encode (text : String) : String :=
  String.ofList (text.toUTF8.toList.flatMap encodeByte)

end FormEncoded

/-! ### Base64

With the standard alphabet and padding. Reading takes exactly what writing gives: the padding must
be there, and the bits that a last group leaves over must be zero. -/

namespace Base64

def alphabet : List Char :=
  "ABCDEFGHIJKLMNOPQRSTUVWXYZabcdefghijklmnopqrstuvwxyz0123456789+/".toList

def digit (value : Nat) : Char := alphabet.getD value 'A'

def value? (c : Char) : Option Nat := alphabet.idxOf? c

def encode : List UInt8 → List Char
  | [] => []
  | [a] =>
    let bits := a.toNat * 16
    [digit (bits / 64), digit (bits % 64), '=', '=']
  | [a, b] =>
    let bits := (a.toNat * 256 + b.toNat) * 4
    [digit (bits / 4096), digit (bits / 64 % 64), digit (bits % 64), '=']
  | a :: b :: c :: rest =>
    let bits := (a.toNat * 256 + b.toNat) * 256 + c.toNat
    digit (bits / 262144) :: digit (bits / 4096 % 64) :: digit (bits / 64 % 64) ::
      digit (bits % 64) :: encode rest

def decode? : List Char → Option (List UInt8)
  | [] => some []
  | [a, b, '=', '='] => do
    let bits := (← value? a) * 64 + (← value? b)
    if bits % 16 = 0 then some [(bits / 16).toUInt8] else none
  | [a, b, c, '='] => do
    let bits := ((← value? a) * 64 + (← value? b)) * 64 + (← value? c)
    if bits % 4 = 0 then some [(bits / 1024).toUInt8, (bits / 4 % 256).toUInt8] else none
  | a :: b :: c :: d :: rest => do
    let bits :=
      (((← value? a) * 64 + (← value? b)) * 64 + (← value? c)) * 64 + (← value? d)
    let tail ← decode? rest
    some ((bits / 65536).toUInt8 :: (bits / 256 % 256).toUInt8 :: (bits % 256).toUInt8 :: tail)
  | _ => none

def encodeText (text : String) : String :=
  String.ofList (encode text.toUTF8.toList)

end Base64
end AgentOperator.Text
