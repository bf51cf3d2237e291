import RecordSheets.Json.Value

/-!
# Labels of enumerated values

Three columns hold enumerated values: the ship type, the group and the nation. Their raw values are replaced by labels; a
value that its column's table does not have stays as it is.
-/

namespace RecordSheets

/-- Raw values with their labels. -/
abbrev LabelTable := List (String × String)

namespace LabelTable

def shipTypes : LabelTable := [
  ("Battleship", "战列舰"), ("Destroyer", "驱逐舰"), ("Cruiser", "巡洋舰"), ("AirCarrier", "航空母舰"), ("Submarine", "潜艇")]

def groups : LabelTable := [
  ("demoWithoutStats", "测试"), ("demoWithStats", "测试"), ("earlyAccess", "抢先体验"), ("specialUnsellable", "不可出售"),
  ("special", "加值"), ("start", "初始"), ("superShip", "超战"), ("ultimate", "特种"), ("upgradeableExclusive", "全局研发"),
  ("upgradeableUltimate", "全局特种"), ("upgradeable", "研发")]

def nations : LabelTable := [
  ("Commonwealth", "英联邦"), ("Europe", "欧洲"), ("France", "法国"), ("Germany", "德国"), ("Italy", "意大利"),
  ("Spain", "西班牙"), ("Japan", "日本"), ("Netherlands", "荷兰"), ("Russia", "苏联"), ("United_Kingdom", "英国"),
  ("USA", "美国"), ("Pan_Asia", "泛亚"), ("Pan_America", "泛美洲")]

/-- The enumerated columns with their tables. -/
def byColumn : List (String × LabelTable) := [("舰种", shipTypes), ("类型", groups), ("国家", nations)]

/-- The table of a column. -/
def ofColumn? (column : String) : Option LabelTable := byColumn.lookup column

/-- The label of a raw value; letter case counts. -/
def label? (table : LabelTable) (raw : String) : Option String := table.lookup raw

end LabelTable

/-- Replaces the raw value of one enumerated column of a row by its label. -/
def Fields.labelColumn (row : Fields) (column : String) (table : LabelTable) : Fields :=
  match row.get? column with
  | some (.str raw) =>
    match table.label? raw with
    | some label => row.insert column (.str label)
    | none => row
  | _ => row

/-- Replaces the raw values of the enumerated columns of a row by their labels. -/
def Fields.withLabels (row : Fields) : Fields :=
  LabelTable.byColumn.foldl (fun row (column, table) => row.labelColumn column table) row

end RecordSheets
