import HomeCore.Toml
import HomeCore.Types.Text

/-! The settings page saves the rows of an array of tables: rows that are there are edited where they
stand, by position, further rows are added at the end, and rows beyond the items are dropped. -/
namespace HomeCore.ConfigWriter
open Toml

/-- Causes, with what they were met in first. -/
abbrev Failure := List String

def withContext {α : Type} (context : String) (result : Except Failure α) : Except Failure α :=
  result.mapError (context :: ·)

/-- What `toml_edit` does, for values written in the ways of `φ`. -/
structure TomlEdit (φ : Type) where
  parse : String → Except String (Table φ)
  print : Table φ → String
  /-- How a value is written that came from no document. -/
  fresh : Value → φ
  /-- How a new value is written with the decor of an old one. -/
  decorated : φ → φ → φ
  /-- Whether `to_string().trim()` of two values is the same text. -/
  sameText : Formatted φ → Formatted φ → Bool
  debug : String → String
  debugItem : Item φ → String
  sameText_value : ∀ a b, sameText a b = true → a.value = b.value

/-- `Number::as_i64`. -/
def asI64 : Number → Option Int
  | .posInt n => if n < 2 ^ 63 then some n else none
  | .negInt n => some n
  | .float _ => none

/-- `i as f64`. -/
def asDouble (i : Int) : Double := .finite (i.sign * Number.roundNat i.natAbs)

mutual

/-- The items that it makes are values. -/
def jsonToTomlItem : Json → Except Failure Value
  | .null => .error ["null is not a valid TOML value"]
  | .bool b => .ok (.boolean b)
  | .str s => .ok (.string s)
  | .num n => match asI64 n with
    | some i => .ok (.integer i)
    | none => .ok (.float (.finite n.asF64))
  | .arr items => (jsonToTomlItems items).map .array
  | .obj _ => .error ["nested objects in patch values not supported — use dotted section path"]

def jsonToTomlItems : List Json → Except Failure (List Value)
  | [] => .ok []
  | item :: rest => do
    let value ← jsonToTomlItem item
    return value :: (← jsonToTomlItems rest)

end

def leadingKeys : List String := ["name", "id", "type"]

/-- 70.0 edited to 71 is 71.0. -/
def keptFloat (old value : Value) : Value :=
  match old, value with
  | .float _, .integer i => .float (asDouble i)
  | _, value => value

def objectsOf : Nat → List Json → Except Failure (List AttrMap)
  | _, [] => .ok []
  | idx, item :: rest => match item.asObject with
    | none => .error [s!"items[{idx}] must be a JSON object (TOML table)"]
    | some obj => do return obj :: (← objectsOf (idx + 1) rest)

namespace TomlEdit
variable {φ : Type} (toml : TomlEdit φ)

def fieldItem (k : String) (v : Json) : Except Failure Value :=
  withContext s!"field {toml.debug k}: unsupported value type" (jsonToTomlItem v)

def fieldValue (value : Value) : Formatted φ := ⟨value, toml.fresh value⟩

def addField (tbl : Table φ) (entry : String × Json) : Except Failure (Table φ) := do
  let value ← toml.fieldItem entry.1 entry.2
  return tbl.set entry.1 (.value (toml.fieldValue value))

/-- The keys that a row is read by are written first. -/
def rowEntries (obj : AttrMap) : List (String × Json) :=
  (leadingKeys.filterMap fun k => obj[k]?.map (k, ·)) ++ obj.toList.filter (!leadingKeys.contains ·.1)

def newRow (obj : AttrMap) : Except Failure (Table φ) := (rowEntries obj).foldlM toml.addField []

def sameValue (a b : Formatted φ) : Bool := toml.sameText a b

def updateField (tbl : Table φ) (entry : String × Json) : Except Failure (Table φ) := do
  let value ← toml.fieldItem entry.1 entry.2
  match tbl.get entry.1 with
  | some (.value old) =>
    let new := toml.fieldValue (keptFloat old.value value)
    return if toml.sameValue old new then tbl
      else tbl.set entry.1 (.value { new with format := toml.decorated old.format new.format })
  | _ => return tbl.set entry.1 (.value (toml.fieldValue value))

/-- Only plain values go that the item no longer has. -/
def updateRow (tbl : Table φ) (obj : AttrMap) : Except Failure (Table φ) :=
  let gone := (tbl.map (·.1)).filter fun k => (tbl.get k).any Item.isValue && !obj.contains k
  obj.toList.foldlM toml.updateField (gone.foldl Table.remove tbl)

def editRow (row : Option (Table φ)) (obj : AttrMap) : Except Failure (Table φ) :=
  match row with
  | some tbl => toml.updateRow tbl obj
  | none => toml.newRow obj

def editRows : Nat → List (Table φ) → List AttrMap → Except Failure (List (Table φ))
  | _, _, [] => .ok []
  | idx, rows, obj :: rest => do
    let row ← withContext s!"items[{idx}]" (toml.editRow rows.head? obj)
    return row :: (← editRows (idx + 1) rows.tail rest)

def replaceIn (leaf : String) (items : List Json) (parent : Table φ) : Except Failure (Table φ) :=
  if leaf = "" then .error ["section path is empty"]
  else do
    let objects ← objectsOf 0 items
    match parent.get leaf with
    | some (.arrayOfTables rows) =>
      return parent.set leaf (.arrayOfTables (← toml.editRows 0 rows objects))
    | _ => return (parent.remove leaf).set leaf (.arrayOfTables (← toml.editRows 0 [] objects))

/-- The table that the segments lead to, edited; what is missing on the way is made. -/
def walkToTable (sectionPath : String) (edit : Table φ → Except Failure (Table φ)) :
    List String → Table φ → Except Failure (Table φ)
  | [], current => edit current
  | seg :: rest, current => match current.get seg with
    | none => do return current.set seg (.table true (← walkToTable sectionPath edit rest []))
    | some (.table implicit t) => do
      return current.set seg (.table implicit (← walkToTable sectionPath edit rest t))
    | some other =>
      .error [s!"section path {toml.debug sectionPath} crosses non-table at {toml.debug seg}: {toml.debugItem other}"]

/-- The leaf is what follows the last dot, and the parent is walked to by what is before it. -/
def editDocument (doc : Table φ) (sectionPath : String) (items : List Json) : Except Failure (Table φ) :=
  let segments := splitText '.' sectionPath
  toml.walkToTable (".".intercalate segments.dropLast) (toml.replaceIn (segments.getLastD "") items)
    segments.dropLast doc

def replaceArrayOfTables (current sectionPath : String) (items : List Json) : Except Failure String := do
  let doc ← withContext "parse current homecore.toml" ((toml.parse current).mapError ([·]))
  let edited ← toml.editDocument doc sectionPath items
  return toml.print edited

end TomlEdit
end HomeCore.ConfigWriter
