import PooleOS.BootText.Paths

/- The boot configuration PBC1: `native/bootcfg/src/lib.rs`, and its oracle
`runtime/native_boot_config.py`. -/
namespace PooleOS.BootText

/-- `classify_key` knows the header keys and the fields of `entry.<id>.<field>`. -/
def configFormat : Format where
  magic := ascii "POOLEOS-BOOTCFG/1.0"
  family := ascii "POOLEOS-BOOTCFG/"
  endMarker := ascii "end=PBC1"
  maxBytes := 16 * 1024
  maxLineBytes := 320
  maxLines := 64
  minLines := 6
  tooLarge := .configTooLarge
  headerKeys := [ascii "entry_count", ascii "default_entry", ascii "timeout_ms", ascii "boot_attempt_limit"]
  group := ascii "entry."
  fields := [ascii "mode", ascii "slot", ascii "manifest", ascii "manifest_max_bytes"]
  paired := by decide
  plain := by decide

def maxEntries : Nat := 8
def maxManifestBytes : Nat := 1024 * 1024
def maxTimeoutMs : Nat := 30000
def maxBootAttempts : Nat := 8
def maxEntrySlot : Nat := 4

inductive BootMode
  | normal | safe | previous | recovery | diagnostic
  deriving DecidableEq, Repr

def BootMode.asStr : BootMode → Bytes
  | .normal => ascii "normal"
  | .safe => ascii "safe"
  | .previous => ascii "previous"
  | .recovery => ascii "recovery"
  | .diagnostic => ascii "diagnostic"

def BootMode.parse (value : Bytes) : Except Error BootMode :=
  if value = ascii "normal" then .ok .normal
  else if value = ascii "safe" then .ok .safe
  else if value = ascii "previous" then .ok .previous
  else if value = ascii "recovery" then .ok .recovery
  else if value = ascii "diagnostic" then .ok .diagnostic
  else .error .mode

structure Entry where
  id : Bytes
  mode : BootMode
  slot : Nat
  manifest : Bytes
  manifestMaxBytes : Nat
  deriving DecidableEq

structure BootConfig where
  defaultEntry : Bytes
  timeoutMs : Nat
  bootAttemptLimit : Nat
  entries : List Entry
  deriving DecidableEq

section Parse

/-- What the loop over the entries carries. -/
structure Scan where
  previousId : Bytes
  defaultFound : Bool
  storage : List Entry

/-- One round of the loop over the entries. -/
def parseEntry (bytes defaultEntry : Bytes) (scan : Scan) (entryIndex : Nat) : Except Error Scan := do
  let base := 5 + entryIndex * 4
  let (modeKey, modeValue) ← pairAt bytes base
  let id ← recordKey configFormat modeKey (ascii "mode")
  demand (¬ (scan.previousId ≠ [] ∧ ¬ scan.previousId < id)) .entryOrder
  let (slotKey, slotValue) ← pairAt bytes (base + 1)
  let (manifestKey, manifestValue) ← pairAt bytes (base + 2)
  let (limitKey, limitValue) ← pairAt bytes (base + 3)
  [(slotKey, ascii "slot"), (manifestKey, ascii "manifest"), (limitKey, ascii "manifest_max_bytes")].forM
    fun (key, field) => do
      let other ← recordKey configFormat key field
      demand (other = id) .keyOrder
  validateManifestPath manifestValue
  let manifestMaxBytes ← parseRange limitValue 1 maxManifestBytes
  let mode ← BootMode.parse modeValue
  let slot ← parseRange slotValue 1 maxEntrySlot
  return ⟨id, scan.defaultFound || id = defaultEntry, scan.storage ++ [⟨id, mode, slot, manifestValue, manifestMaxBytes⟩]⟩

/-- `parse` with storage for so many entries. -/
def parseConfig (bytes : Bytes) (capacity : Nat) : Except Error BootConfig := do
  let lineCount ← openText configFormat bytes
  let countValue ← expectValue configFormat bytes 1 (ascii "entry_count")
  let entryCount ← parseRange countValue 1 maxEntries
  checkLines configFormat bytes lineCount (6 + entryCount * 4)
  demand (entryCount ≤ capacity) .outputCapacity
  let defaultEntry ← expectValue configFormat bytes 2 (ascii "default_entry")
  demand (validLowerIdentifier defaultEntry = true) .identifier
  let timeoutValue ← expectValue configFormat bytes 3 (ascii "timeout_ms")
  let timeoutMs ← parseRange timeoutValue 0 maxTimeoutMs
  let attemptValue ← expectValue configFormat bytes 4 (ascii "boot_attempt_limit")
  let bootAttemptLimit ← parseRange attemptValue 1 maxBootAttempts
  let scan ← (List.range entryCount).foldlM (parseEntry bytes defaultEntry) ⟨[], false, []⟩
  demand (scan.defaultFound = true) .defaultEntry
  return ⟨defaultEntry, timeoutMs, bootAttemptLimit, scan.storage⟩

end Parse

namespace Oracle

/-- The oracle keeps the mode as text. -/
structure Entry where
  id : Bytes
  mode : Bytes
  slot : Nat
  manifest : Bytes
  manifestMaxBytes : Nat
  deriving DecidableEq

structure Config where
  defaultEntry : Bytes
  timeoutMs : Nat
  bootAttemptLimit : Nat
  entries : List Entry
  deriving DecidableEq

def modes : List Bytes := [ascii "normal", ascii "safe", ascii "previous", ascii "recovery", ascii "diagnostic"]

/-- `_expect`, which counts the first line. -/
def expect (pairs : List (Bytes × Bytes)) (index : Nat) (key : Bytes) : Except Error Bytes := do
  let (actual, value) ← orError pairs[index - 1]? .truncated
  demand (actual = key) (classifyKey configFormat actual).error
  return value

/-- `_entry_key`: a known key of an entry has two dots. -/
def entryKey (key field : Bytes) : Except Error Bytes := do
  demand (classifyKey configFormat key ≠ .invalidIdentifier) .identifier
  demand (classifyKey configFormat key ≠ .unknown) .unknownKey
  demand (ascii "entry." <+: key) .keyOrder
  match key.splitOn dot with
  | [_, identifier, actualField] => do
    demand (actualField = field) .keyOrder
    return identifier
  | _ => .error .keyOrder

structure Scan where
  previous : Bytes
  entries : List Entry

def parseEntry (pairs : List (Bytes × Bytes)) (scan : Scan) (index : Nat) : Except Error Scan := do
  let base := 4 + index * 4
  let (modeKey, mode) ← orError pairs[base]? .truncated
  let identifier ← entryKey modeKey (ascii "mode")
  demand (¬ (scan.previous ≠ [] ∧ ¬ scan.previous < identifier)) .entryOrder
  let (slotKey, slotText) ← orError pairs[base + 1]? .truncated
  let (manifestKey, manifest) ← orError pairs[base + 2]? .truncated
  let (limitKey, limitText) ← orError pairs[base + 3]? .truncated
  [(slotKey, ascii "slot"), (manifestKey, ascii "manifest"), (limitKey, ascii "manifest_max_bytes")].forM
    fun (key, field) => do
      let other ← entryKey key field
      demand (other = identifier) .keyOrder
  demand (mode ∈ modes) .mode
  let slot ← parseRange slotText 1 maxEntrySlot
  validateManifestPath manifest
  let manifestMaxBytes ← parseRange limitText 1 maxManifestBytes
  return ⟨identifier, scan.entries ++ [⟨identifier, mode, slot, manifest, manifestMaxBytes⟩]⟩

def parseConfig (data : Bytes) (capacity : Nat) : Except Error Config := do
  let lines ← frame configFormat data
  let pairs ← configPairs (inner lines)
  let countText ← expect pairs 1 (ascii "entry_count")
  let entryCount ← parseRange countText 1 maxEntries
  demand (6 + entryCount * 4 ≤ lines.length) .truncated
  let extra := (pairs[6 + entryCount * 4 - 1 - 1]?.map fun pair => classifyKey configFormat pair.1).getD .known
  demand (lines.length = 6 + entryCount * 4) extra.error
  demand (entryCount ≤ capacity) .outputCapacity
  let defaultEntry ← expect pairs 2 (ascii "default_entry")
  demand (validLowerIdentifier defaultEntry = true) .identifier
  let timeoutText ← expect pairs 3 (ascii "timeout_ms")
  let timeoutMs ← parseRange timeoutText 0 maxTimeoutMs
  let attemptText ← expect pairs 4 (ascii "boot_attempt_limit")
  let bootAttemptLimit ← parseRange attemptText 1 maxBootAttempts
  let scan ← (List.range entryCount).foldlM (parseEntry pairs) ⟨[], []⟩
  demand (defaultEntry ∈ scan.entries.map Entry.id) .defaultEntry
  return ⟨defaultEntry, timeoutMs, bootAttemptLimit, scan.entries⟩

end Oracle

end PooleOS.BootText
