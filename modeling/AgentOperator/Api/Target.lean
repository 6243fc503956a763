/-!
Targets of requests: a path and the parts of a query, taken out of one text. The query begins at the
first question mark, and what follows a number sign is no part of the target. A character that
cannot stand where it does is refused, it is not encoded.
-/
namespace AgentOperator.Api

structure Target where
  path : String
  /-- What stands between the separators of the query, where empty parts do not count. -/
  query : List String := []
  deriving DecidableEq, Repr

inductive TargetFault where
  | invalidCharacter
  | tooLong
  deriving DecidableEq, Repr

def TargetFault.message : TargetFault → String
  | .invalidCharacter => "invalid uri character"
  | .tooLong => "uri too long"

namespace Target

def isPathChar (c : Char) : Bool :=
  let code := c.toNat
  code = 0x21 || code = 0x22 || (0x24 ≤ code && code ≤ 0x3B) || code = 0x3D ||
    (0x40 ≤ code && code ≤ 0x5F) || (0x61 ≤ code && code ≤ 0x7E) || 0x80 ≤ code

def isQueryChar (c : Char) : Bool :=
  let code := c.toNat
  code = 0x21 || (0x24 ≤ code && code ≤ 0x3B) || code = 0x3D || (0x3F ≤ code && code ≤ 0x7E) ||
    0x80 ≤ code

def longest : Nat := 65534

def ofText (text : String) : Except TargetFault Target :=
  let shown := text.toList.takeWhile (· ≠ '#')
  let path := shown.takeWhile (· ≠ '?')
  let query := (shown.dropWhile (· ≠ '?')).drop 1
  if longest < text.utf8ByteSize then .error .tooLong
  else if path.all isPathChar && query.all isQueryChar then
    .ok {
      path := String.ofList path
      query := ((String.ofList query).splitOn "&").filter (· ≠ "") }
  else .error .invalidCharacter

end Target
end AgentOperator.Api
