import PageFlow.Engine.Context

/-! Reading tables as records or as grids. -/
namespace PageFlow
namespace Actions

open Engine

def tableJson (p : ExtractTableParams) (rows : List TableRow) : Json :=
  match p.format with
  | .records => .arr (Table.records rows p.hasHeader)
  | .grid => (Table.grid rows p.hasHeader).toJson

def readTable (p : ExtractTableParams) (e : Element) : Attempt Json := do
  let rows ← Engine.rows e
  pure (tableJson p rows)

def extractTable : Executor := fun c => do
  let p ← c.paramsOr ExtractTableParams.read .default
  let tables ← forEachElement c (readTable p)
  pure (some (.value (.json tables.toJson)))

end Actions
end PageFlow
