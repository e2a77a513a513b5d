import NodeBridge.Config.Format
import NodeBridge.Toml.Parser

/-
This file reads configurations from TOML texts.
-/

namespace NodeBridge.Config

/-- Negative numbers are no counts, and neither are those that need more than 64 bits. -/
def tomlCount? : Toml → Option UInt64
  | .integer value =>
      if 0 ≤ value ∧ value.toNat < UInt64.size then some (UInt64.ofNat value.toNat) else none
  | _ => none

/-- A list of entries may be longer than the section, and a moment has no known entry. -/
def tomlFormat : Format Toml where
  text?
    | .text value => some value
    | _ => none
  flag?
    | .boolean value => some value
    | _ => none
  count? := tomlCount?
  entries? _
    | .table _ members => some (.named members)
    | .list items => some (.ordered items)
    | .tables elements => some (.ordered (elements.map (.table .header)))
    | .moment _ => some (.named [])
    | _ => none

/-- The root table of the text holds the sections. -/
def ofToml? (source : String) : Option Config := do
  let members ← Toml.parse? source
  tomlFormat.config? (.table .header members)

end NodeBridge.Config
