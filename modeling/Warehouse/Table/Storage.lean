import Warehouse.Table.Fault
import Warehouse.Text.Case

/-! # How Synapse stores a table

The rows of a Synapse table are distributed over its nodes and kept in an index
structure. A distribution by hash takes exactly one column and a clustered index
takes at least one; the other choices take none, which the types below ensure. -/

namespace Warehouse

/-- How the rows of a table are distributed. -/
inductive Distribution where
  | hash (column : String)
  | roundRobin
  | replicate
deriving DecidableEq, Repr

namespace Distribution

/-- The word for a distribution. -/
def name : Distribution → String
  | hash _ => "HASH"
  | roundRobin => "ROUND_ROBIN"
  | replicate => "REPLICATE"

/-- The columns by which rows are distributed. -/
def columns : Distribution → List String
  | hash column => [column]
  | roundRobin | replicate => []

/-- The distribution is by hash. -/
def isHash : Distribution → Bool
  | hash _ => true
  | roundRobin | replicate => false

/-- The distribution of the given name, in any letter case, with its columns. -/
def make (name : String) (columns : List String) : Except TableFault Distribution :=
  let name := Text.upper name
  let withoutColumns (distribution : Distribution) :=
    if columns = [] then .ok distribution else .error (.distributionTakesNoColumns name)
  if name = "HASH" then
    match columns with
    | [column] => .ok (hash column)
    | _ => .error .hashNeedsOneColumn
  else if name = "ROUND_ROBIN" then withoutColumns roundRobin
  else if name = "REPLICATE" then withoutColumns replicate
  else .error (.unknownDistribution name)

end Distribution

/-- The structure in which the rows of a table are kept. -/
inductive Index where
  | heap
  | clusteredColumnstore
  | clustered (columns : List String) (columns_ne : columns ≠ [])
deriving DecidableEq, Repr

namespace Index

/-- The words for an index. -/
def type : Index → String
  | heap => "HEAP"
  | clusteredColumnstore => "CLUSTERED COLUMNSTORE INDEX"
  | clustered _ _ => "CLUSTERED INDEX"

/-- The indexed columns. -/
def columns : Index → List String
  | heap | clusteredColumnstore => []
  | clustered columns _ => columns

/-- The index of the given type, in any letter case and spacing, with its columns. -/
def make (type : String) (columns : List String) : Except TableFault Index :=
  let type := Text.capitalWords type
  let withoutColumns (index : Index) :=
    if columns = [] then .ok index else .error (.indexTakesNoColumns type)
  if type = "HEAP" then withoutColumns heap
  else if type = "CLUSTERED COLUMNSTORE INDEX" then withoutColumns clusteredColumnstore
  else if type = "CLUSTERED INDEX" then
    if missing : columns = [] then .error .clusteredNeedsColumns
    else .ok (clustered columns missing)
  else .error (.unknownIndex type)

end Index

/-- Distribution and index of a table. -/
structure Storage where
  distribution : Distribution
  index : Index
deriving DecidableEq, Repr

/-- What applies when nothing is said: rows go round robin into a heap. -/
def Storage.standard : Storage := ⟨.roundRobin, .heap⟩

end Warehouse
