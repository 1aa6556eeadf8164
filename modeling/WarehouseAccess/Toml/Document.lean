import WarehouseAccess.Number.Binary64
/-!
# TOML documents

What a document says once its tables are assembled, and how that is done.  The entries of a table
keep the order of the document.

A document is a sequence of lines, each of which opens a table or puts a value under a dotted key
of the table that is open.  `TomlNode` is a document in the making: besides its entries a table
remembers how it came about, since only that tells whether a later line may add to it.

* A table opened by its header is opened once.
* A header may open a table that so far was only named on the way to another one.
* Dotted keys add to tables that dotted keys made, and to no others.
-/

namespace WarehouseAccess

/-- A value of a TOML document. -/
inductive Toml where
  | text (s : String)
  /-- An integer of 64 bits with sign. -/
  | integer (n : Int)
  | float (x : Binary64)
  | boolean (b : Bool)
  /-- A date, a time of day or both, as it is spelled. -/
  | moment (spelled : String)
  | array (items : List Toml)
  | table (entries : List (String × Toml))
deriving Inhabited, Repr

/-! ### Assembling tables -/

/-- How a table came about. -/
inductive TableOrigin where
  /-- By its own header. -/
  | opened
  /-- On the way to a table whose header names it. -/
  | passed
  /-- By a dotted key. -/
  | dotted
deriving DecidableEq, Repr

/-- A part of a document that is being assembled. -/
inductive TomlNode where
  | value (v : Toml)
  | table (origin : TableOrigin) (entries : List (String × TomlNode))
  /-- A list of tables, each opened by a header of its own. -/
  | tables (items : List (List (String × TomlNode)))

namespace TomlNode

/-- The entries of a table. -/
abbrev Entries := List (String × TomlNode)

/-- Replaces the node under a key where it stands. -/
def replace (key : String) (node : TomlNode) : Entries → Entries
  | [] => []
  | (k, n) :: rest => if k == key then (k, node) :: rest else (k, n) :: replace key node rest

/-- Changes the last list of a nonempty list of entries. -/
def onLast (f : Entries → Option Entries) : List Entries → Option (List Entries)
  | [] => none
  | [e] => (f e).map ([·])
  | e :: rest => (onLast f rest).map (e :: ·)

/-- Changes the entries of the table that a path of header keys leads to.  Missing tables are made
on the way; a list of tables stands for its last one. -/
def atPath (f : Entries → Option Entries) : List String → Entries → Option Entries
  | [], entries => f entries
  | key :: path, entries =>
    match entries.lookup key with
    | none => (atPath f path []).map fun inner => entries ++ [(key, .table .passed inner)]
    | some (.table origin inner) =>
      (atPath f path inner).map fun inner => replace key (.table origin inner) entries
    | some (.tables items) =>
      (onLast (atPath f path) items).map fun items => replace key (.tables items) entries
    | some (.value _) => none

/-- Opens the table that a header names. -/
def openTable (path : List String) (key : String) (root : Entries) : Option Entries :=
  atPath (fun entries =>
    match entries.lookup key with
    | none => some (entries ++ [(key, .table .opened [])])
    | some (.table .passed inner) =>
      some (entries.filter (·.1 != key) ++ [(key, .table .opened inner)])
    | some _ => none) path root

/-- Opens one more table of the list that a header names. -/
def openListed (path : List String) (key : String) (root : Entries) : Option Entries :=
  atPath (fun entries =>
    match entries.lookup key with
    | none => some (entries ++ [(key, .tables [[]])])
    | some (.tables items) => some (replace key (.tables (items ++ [[]])) entries)
    | some _ => none) path root

/-- Puts a value under a dotted key.  `within` tells whether the table was reached through an
earlier part of the key, and `byKey` whether it came about so. -/
def put (value : Toml) : (within byKey : Bool) → List String → Entries → Option Entries
  | _, _, [], _ => none
  | within, byKey, [key], entries =>
    if within == byKey && (entries.lookup key).isNone then
      some (entries ++ [(key, .value value)])
    else none
  | _, _, key :: path, entries =>
    match entries.lookup key with
    | none => (put value true true path []).map fun inner =>
        entries ++ [(key, .table .dotted inner)]
    | some (.table origin inner) =>
      if origin == .opened then none
      else (put value true (origin == .dotted) path inner).map fun inner =>
        replace key (.table origin inner) entries
    | some (.tables items) =>
      (onLast (put value true false path) items).map fun items =>
        replace key (.tables items) entries
    | some (.value _) => none

mutual

/-- The finished value of a node. -/
def toToml : TomlNode → Toml
  | .value v => v
  | .table _ entries => .table (entriesToToml entries)
  | .tables items => .array (itemsToToml items)

/-- The finished values of entries. -/
def entriesToToml : Entries → List (String × Toml)
  | [] => []
  | (key, node) :: rest => (key, node.toToml) :: entriesToToml rest

/-- The finished values of a list of tables. -/
def itemsToToml : List Entries → List Toml
  | [] => []
  | entries :: rest => .table (entriesToToml entries) :: itemsToToml rest

end

end TomlNode

end WarehouseAccess
