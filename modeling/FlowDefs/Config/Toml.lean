set_option autoImplicit false

namespace FlowDefs

-- How a table came to be, which decides what may still be added to it.
inductive TableOrigin where
  | header
  -- On the way to the table of a header.
  | implied
  -- On the way to a dotted key.
  | dotted
  | inline
deriving DecidableEq, Repr

inductive Toml where
  | string (value : String)
  | integer (value : Int)
  | boolean (value : Bool)
  | array (items : List Toml)
  | table (origin : TableOrigin) (entries : List (String × Toml))

namespace Toml

abbrev Entries := List (String × Toml)

def update (key : String) (change : Option Toml → Option Toml) : Entries → Option Entries
  | [] => (change none).map fun value => [(key, value)]
  | (name, value) :: entries =>
    if name = key then (change (some value)).map fun value => (name, value) :: entries
    else (update key change entries).map ((name, value) :: ·)

-- Opens the table of a header. Only a table that is implied so far can be opened.
def openTable : List String → Entries → Option Entries
  | [], _ => none
  | [key], entries =>
    update key (fun
      | none => some (.table .header [])
      | some (.table .implied inner) => some (.table .header inner)
      | some _ => none) entries
  | key :: next :: path, entries =>
    update key (fun
      | none => (openTable (next :: path) []).map (.table .implied)
      | some (.table .inline _) => none
      | some (.table origin inner) => (openTable (next :: path) inner).map (.table origin)
      | some _ => none) entries

def insert (value : Toml) : List String → Entries → Option Entries
  | [], _ => none
  | [key], entries => update key (fun old => if old.isSome then none else some value) entries
  | key :: next :: path, entries =>
    update key (fun
      | none => (insert value (next :: path) []).map (.table .dotted)
      | some (.table .dotted inner) => (insert value (next :: path) inner).map (.table .dotted)
      | some _ => none) entries

def insertUnder (table : List String) (key : List String) (value : Toml) :
    Entries → Option Entries :=
  match table with
  | [] => insert value key
  | name :: path =>
    update name fun
      | some (.table origin inner) => (insertUnder path key value inner).map (.table origin)
      | _ => none

end Toml

end FlowDefs
