import FlowDefs.Json.Value
set_option autoImplicit false

namespace FlowDefs.Json

def hexDigit (n : Nat) : Char :=
  if n < 10 then Char.ofNat ('0'.toNat + n) else Char.ofNat ('a'.toNat + (n - 10))

-- Only quotes, backslashes and control characters below a space are escaped.
def escapeChar (c : Char) : List Char :=
  if c = '"' then ['\\', '"']
  else if c = '\\' then ['\\', '\\']
  else if c = '\x08' then ['\\', 'b']
  else if c = '\x0c' then ['\\', 'f']
  else if c = '\n' then ['\\', 'n']
  else if c = '\r' then ['\\', 'r']
  else if c = '\t' then ['\\', 't']
  else if c.toNat < 0x20 then
    ['\\', 'u', '0', '0', hexDigit (c.toNat / 16), hexDigit (c.toNat % 16)]
  else [c]

def quote (text : String) : String :=
  "\"" ++ String.ofList (text.toList.flatMap escapeChar) ++ "\""

mutual
def compact : Json → String
  | .null => "null"
  | .bool value => if value then "true" else "false"
  | .number lexeme => lexeme
  | .string value => quote value
  | .array [] => "[]"
  | .array (x :: xs) => "[" ++ compact x ++ compactItems xs ++ "]"
  | .object [] => "\x7b\x7d"
  | .object ((name, x) :: xs) =>
    "\x7b" ++ quote name ++ ":" ++ compact x ++ compactMembers xs ++ "\x7d"
def compactItems : List Json → String
  | [] => ""
  | x :: xs => "," ++ compact x ++ compactItems xs
def compactMembers : List (String × Json) → String
  | [] => ""
  | (name, x) :: xs => "," ++ quote name ++ ":" ++ compact x ++ compactMembers xs
end

def newLine (depth : Nat) : String := "\n" ++ String.ofList (List.replicate (2 * depth) ' ')

mutual
def prettyAt (depth : Nat) : Json → String
  | .null => "null"
  | .bool value => if value then "true" else "false"
  | .number lexeme => lexeme
  | .string value => quote value
  | .array [] => "[]"
  | .array (x :: xs) =>
    "[" ++ newLine (depth + 1) ++ prettyAt (depth + 1) x ++ prettyItems (depth + 1) xs
      ++ newLine depth ++ "]"
  | .object [] => "\x7b\x7d"
  | .object ((name, x) :: xs) =>
    "\x7b" ++ newLine (depth + 1) ++ quote name ++ ": " ++ prettyAt (depth + 1) x
      ++ prettyMembers (depth + 1) xs ++ newLine depth ++ "\x7d"
def prettyItems (depth : Nat) : List Json → String
  | [] => ""
  | x :: xs => "," ++ newLine depth ++ prettyAt depth x ++ prettyItems depth xs
def prettyMembers (depth : Nat) : List (String × Json) → String
  | [] => ""
  | (name, x) :: xs =>
    "," ++ newLine depth ++ quote name ++ ": " ++ prettyAt depth x ++ prettyMembers depth xs
end

def pretty (value : Json) : String := prettyAt 0 value

end FlowDefs.Json
