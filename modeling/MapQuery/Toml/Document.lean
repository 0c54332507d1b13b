import MapQuery.Toml.Fault

/-!
# TOML documents in the making

A document is built statement by statement: a header opens a table, or one more item of a list of
tables, and each entry goes into the table that is open.

* a table is opened by a header at most once, and not when entries with dotted names made it;
* a list or an inline table is closed for good once it is written;
* a new item of a list of tables starts afresh: what was said about tables in it is forgotten.
-/

namespace MapQuery.Toml

/-! ## 1. Changes inside tables -/

/-- Changes a table inside a table: follows a name, makes the tables that are missing on the way,
    and changes the entries of the last one. With `throughLists`, a list on the way stands for its
    last item. -/
def Table.change (throughLists : Bool) (f : Table → Except Cause Table) (t : Table) :
    Name → Except Cause Table
  | [] => f t
  | name :: rest =>
    match t.find? name with
    | none => (change throughLists f [] rest).map fun inner => t.put name (.table inner)
    | some (.table inner) =>
      (change throughLists f inner rest).map fun inner => t.put name (.table inner)
    | some (.list items) =>
      match throughLists, items.getLast? with
      | true, some (.table inner) =>
        (change throughLists f inner rest).map fun inner =>
          t.put name (.list (items.dropLast ++ [.table inner]))
      | _, _ => .error .overwritten
    | some _ => .error .overwritten

/-- A value put under a name that is free in a table; `taken` says what is wrong if it is not. -/
def Table.putNew (taken : Cause) (name : String) (v : Value) (t : Table) : Except Cause Table :=
  match t.find? name with
  | some _ => .error taken
  | none => .ok (t.put name v)

/-- One more empty table at the end of the list under a name. -/
def Table.pushTable (name : String) (t : Table) : Except Cause Table :=
  match t.find? name with
  | none => .ok (t.put name (.list [.table []]))
  | some (.list items) => .ok (t.put name (.list (items ++ [.table []])))
  | some _ => .error .overwritten

/-- A value that no later statement may add to. -/
def Value.isClosed : Value → Bool
  | .list _ => true
  | .table _ => true
  | _ => false

/-- The tables around a value, and its own name in the innermost. -/
def Name.split (name : Name) : Name × String := (name.dropLast, name.getLast?.getD "")

/-- Does one of the names stand for the value itself or something around it? -/
def covers (names : List Name) (name : Name) : Bool := names.any (·.isPrefixOf name)

/-! ## 2. Drafts -/

/-- A document in the making. -/
structure Draft where
  table : Table := []
  /-- The table that is open. -/
  header : Name := []
  /-- Tables that no header may open any more. -/
  declared : List Name := []
  /-- Tables that entries made since the last header. -/
  pending : List Name := []
  /-- Values that are closed. -/
  closed : List Name := []

namespace Draft

/-- At a header, the tables that entries made can no longer be opened. -/
def settle (d : Draft) : Draft := { d with declared := d.declared ++ d.pending, pending := [] }

/-- The header of a table. -/
def openTable (d : Draft) (name : Name) : Except Cause Draft := do
  if d.declared.contains name || covers d.closed name then throw (.declaredTwice name)
  let table ← d.table.change true .ok name
  return { d with table := table, header := name, declared := d.declared ++ [name] }

/-- The header of one more item in a list of tables. -/
def openItem (d : Draft) (name : Name) : Except Cause Draft := do
  if covers d.closed name then throw (.immutable name)
  let (outer, last) := name.split
  let table ← d.table.change true (Table.pushTable last) outer
  return { d with
    table := table, header := name,
    declared := d.declared.filter (fun n => !name.isPrefixOf n) ++ [name],
    closed := d.closed.filter fun n => !name.isPrefixOf n }

/-- The tables that a dotted name leads through, inside the open one. -/
def passed (d : Draft) (name : Name) : List Name :=
  (List.range (name.length - 1)).map fun i => d.header ++ name.take (i + 1)

/-- An entry of the open table. -/
def assign (d : Draft) (name : Name) (v : Value) : Except Cause Draft := do
  match (d.passed name).find? d.declared.contains with
  | some n => throw (.redefined n)
  | none => pure ()
  let (outer, last) := name.split
  let outer := d.header ++ outer
  if covers d.closed outer then throw (.immutable outer)
  let table ← d.table.change true (Table.putNew .overwritten last v) outer
  return { d with
    table := table, pending := d.pending ++ d.passed name,
    closed := if v.isClosed then d.closed ++ [d.header ++ name] else d.closed }

end Draft

/-- An inline table in the making: its entries, and the names of those that are closed. -/
structure InlineDraft where
  table : Table := []
  closed : List Name := []

/-- An entry of an inline table. -/
def InlineDraft.assign (d : InlineDraft) (name : Name) (v : Value) : Except Cause InlineDraft := do
  if covers d.closed name then throw (.immutable name)
  let (outer, last) := name.split
  let table ← d.table.change false (Table.putNew (.repeated last) last v) outer
  return { table := table, closed := if v.isClosed then d.closed ++ [name] else d.closed }

end MapQuery.Toml
