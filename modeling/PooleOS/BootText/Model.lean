import PooleOS.Lib.Result
import PooleOS.Lib.Lines
import PooleOS.Lib.Numerals

/- What the crates `native/manifest` and `native/bootcfg` have in common: the lexer, keys
and values, the check for duplicate keys, numbers and identifiers. They differ in limits
and in the keys they know, which a `Format` gives. -/
namespace PooleOS.BootText

/-- The errors of both crates. `manifestTooLarge` and `configTooLarge` are the same check. -/
inductive Error
  | empty | manifestTooLarge | configTooLarge | missingFinalLf | character | emptyLine | lineTooLong
  | tooManyLines | magic | version | syntaxError | duplicateKey | unknownKey | keyOrder | truncated
  | endMarker | number | numberCanonical | numericOverflow | range | identifier | artifactOrder
  | artifactType | format | path | digest | entryContract | outputCapacity | duplicatePath | kernelCount
  | versionFloor | binding | entryOrder | mode | defaultEntry
  deriving DecidableEq, Repr

/-- What the two formats differ in. -/
structure Format where
  magic : Bytes
  family : Bytes
  endMarker : Bytes
  maxBytes : Nat
  maxLineBytes : Nat
  maxLines : Nat
  minLines : Nat
  tooLarge : Error
  headerKeys : List Bytes
  group : Bytes
  fields : List Bytes
  paired : 2 ≤ minLines
  plain : ∀ field ∈ fields, (46 : UInt8) ∉ field

/-- The line feed, the equals sign and the dot. -/
def lf : UInt8 := 10
def equals : UInt8 := 61
def dot : UInt8 := 46

/-- `b'!'..=b'~'`. -/
def isPrintable (byte : UInt8) : Bool := 33 ≤ byte && byte ≤ 126

def maxIdentifierBytes : Nat := 31

section Values

def u64Max : Nat := 2 ^ 64 - 1

/-- One round of the loop of `parse_number`: `checked_mul`, then `checked_add`. -/
def pushDigit (result : Nat) (byte : UInt8) : Except Error Nat := do
  demand (result * 10 ≤ u64Max) .numericOverflow
  demand (result * 10 + digitValue byte ≤ u64Max) .numericOverflow
  return result * 10 + digitValue byte

def parseNumber (value : Bytes) : Except Error Nat := do
  demand (value ≠ [] ∧ value.all isDigit = true) .number
  demand (¬ (1 < value.length ∧ value.head? = some 48)) .numberCanonical
  value.foldlM pushDigit 0

def parseRange (value : Bytes) (minimum maximum : Nat) : Except Error Nat := do
  let number ← parseNumber value
  demand (minimum ≤ number ∧ number ≤ maximum) .range
  return number

/-- `valid_lower_identifier`, which `bootcfg` calls `valid_identifier`. -/
def validLowerIdentifier (value : Bytes) : Bool :=
  match value with
  | [] => false
  | first :: rest => value.length ≤ maxIdentifierBytes && isLower first &&
      rest.all fun byte => isLower byte || isDigit byte || byte == 95

/-- The letters of upper-case identifiers and of path components. -/
def isUpperLetter (byte : UInt8) : Bool := isUpper byte || isDigit byte || byte == 95 || byte == 45

def validUpperIdentifier (value : Bytes) (maximum : Nat) : Bool :=
  match value with
  | [] => false
  | first :: rest => value.length ≤ maximum && isUpper first && rest.all isUpperLetter

end Values

section Keys

/-- The line at an index. Every caller has passed `validateLexical`, whose bytes are ASCII,
so `from_utf8` succeeds. -/
def lineAt (bytes : Bytes) (index : Nat) : Except Error Bytes := orError (lines lf bytes)[index]? .truncated

def splitKeyValue (line : Bytes) : Except Error (Bytes × Bytes) := do
  let (key, value) ← orError (splitOnce equals line) .syntaxError
  demand (¬ (key = [] ∨ value = [] ∨ equals ∈ value)) .syntaxError
  return (key, value)

/-- `split_key_value(line_at(bytes, index)?)`. -/
def pairAt (bytes : Bytes) (index : Nat) : Except Error (Bytes × Bytes) := lineAt bytes index >>= splitKeyValue

inductive KeyClass
  | known | invalidIdentifier | unknown
  deriving DecidableEq, Repr

/-- What a key in a wrong place is refused with. -/
def KeyClass.error : KeyClass → Error
  | .known => .keyOrder
  | .invalidIdentifier => .identifier
  | .unknown => .unknownKey

/-- `str::strip_prefix`. -/
def stripStart (start text : Bytes) : Option Bytes :=
  if start <+: text then some (text.drop start.length) else none

variable (format : Format)

def classifyKey (key : Bytes) : KeyClass :=
  if key ∈ format.headerKeys then .known
  else
    match stripStart format.group key with
    | none => .unknown
    | some rest =>
      match splitOnce dot rest with
      | none => .unknown
      | some (identifier, field) =>
        if ¬ validLowerIdentifier identifier then .invalidIdentifier
        else if field ∈ format.fields then .known
        else .unknown

def expectValue (bytes : Bytes) (index : Nat) (expectedKey : Bytes) : Except Error Bytes := do
  let (key, value) ← pairAt bytes index
  demand (key = expectedKey) (classifyKey format key).error
  return value

/-- `artifact_key` and `entry_key`: the identifier in a key of a record. -/
def recordKey (key expectedField : Bytes) : Except Error Bytes := do
  let rest ← orError (stripStart format.group key) (classifyKey format key).error
  let (identifier, field) ← orError (splitOnce dot rest) .unknownKey
  demand (validLowerIdentifier identifier = true) .identifier
  demand (field ∈ format.fields) .unknownKey
  demand (field = expectedField) .keyOrder
  return identifier

end Keys

section Texts

variable (format : Format)

/-- One round of the loop over the lines. -/
def countLine (count : Nat) (line : Bytes) : Except Error Nat := do
  demand (line ≠ []) .emptyLine
  demand (line.length ≤ format.maxLineBytes) .lineTooLong
  demand (count + 1 ≤ format.maxLines) .tooManyLines
  return count + 1

def validateLexical (bytes : Bytes) : Except Error Nat := do
  demand (bytes ≠ []) .empty
  demand (bytes.length ≤ format.maxBytes) format.tooLarge
  demand (bytes.getLast? = some lf) .missingFinalLf
  demand (∀ byte ∈ bytes, byte = lf ∨ isPrintable byte = true) .character
  (lines lf bytes).foldlM (countLine format) 0

def validateDuplicateKeys (bytes : Bytes) (lineCount : Nat) : Except Error Unit := do
  demand (2 ≤ lineCount) .truncated
  (List.range' 1 (lineCount - 1 - 1)).forM fun leftIndex => do
    let (left, _) ← pairAt bytes leftIndex
    (List.range' (leftIndex + 1) (lineCount - 1 - (leftIndex + 1))).forM fun rightIndex => do
      let (right, _) ← pairAt bytes rightIndex
      demand (left ≠ right) .duplicateKey

/-- The first checks of `parse`, up to the duplicate keys: the number of lines. -/
def openText (bytes : Bytes) : Except Error Nat := do
  let lineCount ← validateLexical format bytes
  let first ← lineAt bytes 0
  demand (first = format.magic) (if format.family <+: first then .version else .magic)
  demand (format.minLines ≤ lineCount) .truncated
  let last ← lineAt bytes (lineCount - 1)
  demand (last = format.endMarker) .endMarker
  validateDuplicateKeys bytes lineCount
  return lineCount

/-- The check of `parse` that there are as many lines as the header says. -/
def checkLines (bytes : Bytes) (lineCount expectedLines : Nat) : Except Error Unit := do
  demand (expectedLines ≤ lineCount) .truncated
  if expectedLines < lineCount then
    let (key, _) ← pairAt bytes (expectedLines - 1)
    throw (classifyKey format key).error
  else return ()

end Texts

namespace Oracle

/-- `int(value)` of the manifest, which reads digits without a bound. -/
def manifestNumber (value : Bytes) (minimum maximum : Nat) : Except Error Nat := do
  demand (value ≠ [] ∧ value.all isDigit = true) .number
  demand (¬ (1 < value.length ∧ value.head? = some 48)) .numberCanonical
  let number := decimalValue 0 value
  demand (minimum ≤ number ∧ number ≤ maximum) .range
  return number

/-- One round of the loop of `_parse_number` of the configuration. -/
def pushDigit (number : Nat) (character : UInt8) : Except Error Nat := do
  let digit := digitValue character
  demand (number ≤ (u64Max - digit) / 10) .numericOverflow
  return number * 10 + digit

def parseNumber (value : Bytes) : Except Error Nat := do
  demand (value ≠ [] ∧ value.all isDigit = true) .number
  demand (¬ (1 < value.length ∧ value.head? = some 48)) .numberCanonical
  value.foldlM pushDigit 0

def parseRange (value : Bytes) (minimum maximum : Nat) : Except Error Nat := do
  let number ← parseNumber value
  demand (minimum ≤ number ∧ number ≤ maximum) .range
  return number

/-- `_key_value`: a line with one equals sign, around which it is split. -/
def keyValue (line : Bytes) : Except Error (Bytes × Bytes) := do
  demand (line.count equals = 1) .syntaxError
  let (key, value) ← orError (splitOnce equals line) .syntaxError
  demand (¬ (key = [] ∨ value = [])) .syntaxError
  return (key, value)

variable (format : Format)

/-- `_lex`, with which the parser of the manifest begins too. -/
def lex (data : Bytes) : Except Error (List Bytes) := do
  demand (data ≠ []) .empty
  demand (data.length ≤ format.maxBytes) format.tooLarge
  demand (data.getLast? = some lf) .missingFinalLf
  demand (∀ byte ∈ data, byte = lf ∨ isPrintable byte = true) .character
  let lines := data.dropLast.splitOn lf
  demand (∀ line ∈ lines, line ≠ []) .emptyLine
  demand (∀ line ∈ lines, line.length ≤ format.maxLineBytes) .lineTooLong
  demand (lines.length ≤ format.maxLines) .tooManyLines
  return lines

/-- The checks of the first line, of the number of lines and of the last line. -/
def frame (data : Bytes) : Except Error (List Bytes) := do
  let lines ← lex format data
  let first := lines.headD []
  demand (first = format.magic) (if format.family <+: first then .version else .magic)
  demand (format.minLines ≤ lines.length) .truncated
  demand (lines.getLastD [] = format.endMarker) .endMarker
  return lines

/-- `lines[1:-1]`. -/
def inner (lines : List Bytes) : List Bytes := lines.tail.dropLast

/-- The loop of the manifest, which splits a line and looks its key up in the set of keys
before the next line. -/
def manifestPairs (lines : List Bytes) : Except Error (List (Bytes × Bytes)) :=
  lines.foldlM (fun entries line => do
    let (key, value) ← keyValue line
    demand (key ∉ entries.map Prod.fst) .duplicateKey
    return entries ++ [(key, value)]) []

/-- The configuration splits all lines first, then looks for a key twice. -/
def configPairs (lines : List Bytes) : Except Error (List (Bytes × Bytes)) := do
  let pairs ← lines.mapM keyValue
  let _ ← pairs.foldlM (fun seen pair => do
    demand (pair.1 ∉ seen) .duplicateKey
    return seen ++ [pair.1]) ([] : List Bytes)
  return pairs

end Oracle

end PooleOS.BootText
