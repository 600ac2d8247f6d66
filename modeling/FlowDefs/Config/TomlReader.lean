import FlowDefs.Config.Toml
import FlowDefs.Number.Reading
set_option autoImplicit false

namespace FlowDefs.Toml

def skipSpace (cs : List Char) : List Char := cs.dropWhile fun c => c = ' ' || c = '\t'

-- Skips spaces, line ends and comments; the flag tells whether a comment is open.
def skipLayout : Bool → List Char → List Char
  | _, [] => []
  | true, '\n' :: cs => skipLayout false cs
  | true, _ :: cs => skipLayout true cs
  | false, '#' :: cs => skipLayout true cs
  | false, ' ' :: cs => skipLayout false cs
  | false, '\t' :: cs => skipLayout false cs
  | false, '\n' :: cs => skipLayout false cs
  | false, '\r' :: '\n' :: cs => skipLayout false cs
  | false, cs => cs

-- What follows an entry on its line has to be layout.
def endLine? (cs : List Char) : Option (List Char) :=
  match skipSpace cs with
  | [] => some []
  | '#' :: cs => some (skipLayout true cs)
  | '\n' :: cs => some cs
  | '\r' :: '\n' :: cs => some cs
  | _ => none

def isControl (c : Char) : Bool := (c.toNat < 0x20 && c ≠ '\t') || c.toNat = 0x7F

def readRadixNat? (radix : Nat) (digits : List Char) : Option Nat :=
  digits.foldlM (fun n c => (Number.digitValue? radix c).map fun d => radix * n + d) 0

def escapedScalar? (digits : List Char) : Option Char := do
  let code ← readRadixNat? 16 digits
  if code.isValidChar then some (Char.ofNat code) else none

def simpleEscape? : Char → Option Char
  | 'b' => some '\x08'
  | 't' => some '\t'
  | 'n' => some '\n'
  | 'f' => some '\x0c'
  | 'r' => some '\r'
  | '"' => some '"'
  | '\\' => some '\\'
  | _ => none

-- A string with escapes, after its opening quote.
def readBasic : List Char → Option (List Char × List Char)
  | [] => none
  | '"' :: cs => some ([], cs)
  | '\\' :: 'u' :: a :: b :: c :: d :: cs => do
    let scalar ← escapedScalar? [a, b, c, d]
    let (value, rest) ← readBasic cs
    some (scalar :: value, rest)
  | '\\' :: 'U' :: a :: b :: c :: d :: e :: f :: g :: h :: cs => do
    let scalar ← escapedScalar? [a, b, c, d, e, f, g, h]
    let (value, rest) ← readBasic cs
    some (scalar :: value, rest)
  | '\\' :: e :: cs => do
    let scalar ← simpleEscape? e
    let (value, rest) ← readBasic cs
    some (scalar :: value, rest)
  | c :: cs =>
    if isControl c then none
    else do
      let (value, rest) ← readBasic cs
      some (c :: value, rest)

def readVerbatim : List Char → Option (List Char × List Char)
  | [] => none
  | '\'' :: cs => some ([], cs)
  | c :: cs =>
    if isControl c then none
    else do
      let (value, rest) ← readVerbatim cs
      some (c :: value, rest)

def isBareKeyChar (c : Char) : Bool := c.isAlphanum || c = '_' || c = '-'

def readSimpleKey (cs : List Char) : Option (String × List Char) :=
  match cs with
  | '"' :: cs => (readBasic cs).map fun (key, rest) => (String.ofList key, rest)
  | '\'' :: cs => (readVerbatim cs).map fun (key, rest) => (String.ofList key, rest)
  | cs =>
    let key := cs.takeWhile isBareKeyChar
    if key.isEmpty then none else some (String.ofList key, cs.dropWhile isBareKeyChar)

-- Here and below, every step consumes a character, so the length of the text bounds the recursion.
def readKey : Nat → List Char → Option (List String × List Char)
  | 0, _ => none
  | fuel + 1, cs => do
    let (key, rest) ← readSimpleKey (skipSpace cs)
    match skipSpace rest with
    | '.' :: rest =>
      let (keys, rest) ← readKey fuel rest
      some (key :: keys, rest)
    | rest => some ([key], rest)

def splitUnderscores : List Char → List (List Char)
  | [] => [[]]
  | c :: cs =>
    if c = '_' then [] :: splitUnderscores cs
    else
      match splitUnderscores cs with
      | [] => [[c]]
      | part :: parts => (c :: part) :: parts

def readDigits? (radix : Nat) (cs : List Char) : Option Nat :=
  let parts := splitUnderscores cs
  if parts.any List.isEmpty then none else readRadixNat? radix parts.flatten

def readDecimal? (cs : List Char) : Option Nat :=
  match cs with
  | ['0'] => some 0
  | '0' :: _ => none
  | cs => readDigits? 10 cs

def readInteger? (cs : List Char) : Option Int :=
  let value : Option Int := match cs with
    | '0' :: 'x' :: digits => (readDigits? 16 digits).map Int.ofNat
    | '0' :: 'o' :: digits => (readDigits? 8 digits).map Int.ofNat
    | '0' :: 'b' :: digits => (readDigits? 2 digits).map Int.ofNat
    | '+' :: digits => (readDecimal? digits).map Int.ofNat
    | '-' :: digits => (readDecimal? digits).map fun n => -(n : Int)
    | digits => (readDecimal? digits).map Int.ofNat
  value.filter fun n => -0x8000000000000000 ≤ n && n < 0x8000000000000000

def isScalarChar (c : Char) : Bool :=
  c.isAlphanum || c = '_' || c = '-' || c = '+' || c = '.' || c = ':'

def readScalar (cs : List Char) : Option (Toml × List Char) :=
  let rest := cs.dropWhile isScalarChar
  match cs.takeWhile isScalarChar with
  | ['t', 'r', 'u', 'e'] => some (.boolean true, rest)
  | ['f', 'a', 'l', 's', 'e'] => some (.boolean false, rest)
  | digits => (readInteger? digits).map fun n => (.integer n, rest)

mutual
def readValue : Nat → List Char → Option (Toml × List Char)
  | 0, _ => none
  | fuel + 1, cs =>
    match cs with
    | '"' :: cs => (readBasic cs).map fun (value, rest) => (.string (String.ofList value), rest)
    | '\'' :: cs =>
      (readVerbatim cs).map fun (value, rest) => (.string (String.ofList value), rest)
    | '[' :: cs => (readItems fuel cs).map fun (items, rest) => (.array items, rest)
    | '\x7b' :: cs =>
      match skipSpace cs with
      | '\x7d' :: rest => some (.table .inline [], rest)
      | cs => (readPairs fuel [] cs).map fun (entries, rest) => (.table .inline entries, rest)
    | cs => readScalar cs
-- The items of an array, over any number of lines; a comma may follow the last one.
def readItems : Nat → List Char → Option (List Toml × List Char)
  | 0, _ => none
  | fuel + 1, cs =>
    match skipLayout false cs with
    | ']' :: rest => some ([], rest)
    | cs => do
      let (item, rest) ← readValue fuel cs
      match skipLayout false rest with
      | ']' :: rest => some ([item], rest)
      | ',' :: rest =>
        let (items, rest) ← readItems fuel rest
        some (item :: items, rest)
      | _ => none
-- The entries of an inline table, on one line and without a comma after the last one.
def readPairs : Nat → Entries → List Char → Option (Entries × List Char)
  | 0, _, _ => none
  | fuel + 1, entries, cs => do
    let (key, rest) ← readKey fuel cs
    match rest with
    | '=' :: rest =>
      let (value, rest) ← readValue fuel (skipSpace rest)
      let entries ← insert value key entries
      match skipSpace rest with
      | '\x7d' :: rest => some (entries, rest)
      | ',' :: rest => readPairs fuel entries rest
      | _ => none
    | _ => none
end

-- The remaining lines, with the tables so far and the path of the open one.
def readLines : Nat → Entries → List String → List Char → Option Entries
  | 0, _, _, _ => none
  | fuel + 1, root, opened, cs =>
    match skipLayout false cs with
    | [] => some root
    | '[' :: cs => do
      let (path, rest) ← readKey fuel cs
      match rest with
      | ']' :: rest =>
        let rest ← endLine? rest
        let root ← openTable path root
        readLines fuel root path rest
      | _ => none
    | cs => do
      let (key, rest) ← readKey fuel cs
      match rest with
      | '=' :: rest =>
        let (value, rest) ← readValue fuel (skipSpace rest)
        let rest ← endLine? rest
        let root ← insertUnder opened key value root
        readLines fuel root opened rest
      | _ => none

def ofText? (text : String) : Option Entries :=
  let cs := text.toList
  readLines (2 * cs.length + 2) [] [] cs

end FlowDefs.Toml
