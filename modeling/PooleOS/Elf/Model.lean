import PooleOS.Lib.Panic

/- The PKELF1 loader (`native/elf/src/lib.rs`): every header, segment, dynamic
entry and relocation is checked before the destination is written. An access out
of bounds and an arithmetic overflow are outcomes of their own, so that their
absence is a theorem. -/
namespace PooleOS.Elf

inductive Error
  | empty
  | headerTruncated
  | fileTooLarge
  | magic
  | class_
  | encoding
  | identVersion
  | osAbi
  | abiVersion
  | identPadding
  | fileType
  | machine
  | version
  | headerFlags
  | headerSize
  | programHeaderOffset
  | programHeaderSize
  | programHeaderCount
  | programHeaderBounds
  | sectionTable
  | unsupportedSegment
  | programHeaderOrder
  | phdrSegment
  | loadFlags
  | loadAlignment
  | loadAddress
  | segmentSize
  | segmentBounds
  | segmentLayout
  | fileCoverage
  | entryPoint
  | dynamicSegment
  | dynamicOrder
  | dynamicEntry
  | relocationTable
  | relocationCount
  | relocationEntrySize
  | relocationType
  | relocationSymbol
  | relocationOrder
  | relocationTarget
  | relocationAddend
  | relocationValue
  | relroSegment
  | stackSegment
  | physicalBase
  | virtualBase
  | outputCapacity
  | arithmeticOverflow
deriving DecidableEq, Repr

abbrev Stop : Type := PooleOS.Stop Error

abbrev Outcome (α : Type) : Type := PooleOS.Outcome Error α

def i64Bound : Nat := 9223372036854775808
def pageSize : Nat := 4096
def virtualBaseAlignment : Nat := 2 * 1024 * 1024
def maxFileBytes : Nat := 1024 * 1024
def maxImageBytes : Nat := 64 * 1024 * 1024
def minPhysicalBase : Nat := 0x00100000
def maxPhysicalExclusive : Nat := 4503599627370496
def minVirtualBase : Nat := 0xffffffff80000000
def maxVirtualExclusive : Nat := 0xffffffffc0000000
def programHeaderCount : Nat := 7
def maxRelocations : Nat := 4096
def elfHeaderBytes : Nat := 64
def programHeaderBytes : Nat := 56
def dynamicEntryBytes : Nat := 16
def dynamicEntryCount : Nat := 4
def dynamicBytes : Nat := dynamicEntryBytes * dynamicEntryCount
def relaEntryBytes : Nat := 24
def ptLoad : Nat := 1
def ptDynamic : Nat := 2
def ptPhdr : Nat := 6
def ptGnuStack : Nat := 0x6474e551
def ptGnuRelro : Nat := 0x6474e552
def pfX : Nat := 1
def pfW : Nat := 2
def pfR : Nat := 4
def dtNull : Int := 0
def dtRela : Int := 7
def dtRelasz : Int := 8
def dtRelaent : Int := 9
def rX8664Relative : Nat := 8

structure Permissions where
  read : Bool
  write : Bool
  execute : Bool
deriving DecidableEq, Repr

namespace Permissions

/-- `Permissions::READ`. -/
def readOnly : Permissions := ⟨true, false, false⟩

/-- `Permissions::READ_EXECUTE`. -/
def readExecute : Permissions := ⟨true, false, true⟩

/-- `Permissions::READ_WRITE`. -/
def readWrite : Permissions := ⟨true, true, false⟩

end Permissions

structure SegmentPlan where
  fileOffset : Nat
  virtualOffset : Nat
  fileSize : Nat
  memorySize : Nat
  permissions : Permissions
deriving DecidableEq, Repr

structure MappingPlan where
  virtualOffset : Nat
  memorySize : Nat
  permissions : Permissions
deriving DecidableEq, Repr

structure ImagePlan where
  fileSize : Nat
  imageSize : Nat
  entryOffset : Nat
  entryVirtual : Nat
  entryPhysical : Nat
  physicalBase : Nat
  virtualBase : Nat
  relocationCount : Nat
  relroOffset : Nat
  relroSize : Nat
  segments : Fin 3 → SegmentPlan
  mappings : Fin 4 → MappingPlan

structure ProgramHeader where
  segmentType : Nat
  flags : Nat
  offset : Nat
  virtualAddress : Nat
  physicalAddress : Nat
  fileSize : Nat
  memorySize : Nat
  alignment : Nat
deriving DecidableEq, Repr

/-- `ProgramHeader::EMPTY`. -/
def ProgramHeader.empty : ProgramHeader := ⟨0, 0, 0, 0, 0, 0, 0, 0⟩

structure RelocationContext where
  bytes : Bytes
  relocationAddress : Nat
  relocationSize : Nat
  relocationCount : Nat
  dynamic : ProgramHeader
  relro : ProgramHeader
  loads : Fin 3 → ProgramHeader
  imageSize : Nat
  virtualBase : Nat

section Reading

/-- The word of this many bytes at an offset, or the error. -/
def readWord (width : Nat) (bytes : Bytes) (offset : Nat) (error : Error) : Outcome Nat := do
  let last ← plus offset width
  let source ← orRefuse (bytes.range? offset last) error
  return Bytes.little source

def readU16 : Bytes → Nat → Error → Outcome Nat := readWord 2
def readU32 : Bytes → Nat → Error → Outcome Nat := readWord 4
def readU64 : Bytes → Nat → Error → Outcome Nat := readWord 8

/-- `i64::from_le_bytes` of the bytes of a word. -/
def asI64 (value : Nat) : Int := if value < i64Bound then value else (value : Int) - u64Values

def readI64 (bytes : Bytes) (offset : Nat) (error : Error) : Outcome Int := do
  return asI64 (← readU64 bytes offset error)

/-- `usize::try_from`, which holds every 64-bit value here. -/
def toUsize (value : Nat) (error : Error) : Outcome Nat := do
  require (value < u64Values) error
  return value

def toU32 (value : Nat) : Outcome Nat := do
  require (value < u32Values) .arithmeticOverflow
  return value

def add (left right : Nat) (error : Error) : Outcome Nat := addOr left right error

def RangeContains (start size innerStart innerSize : Nat) : Prop :=
  start + size < u64Values ∧ innerStart + innerSize < u64Values ∧ start ≤ innerStart ∧
    innerStart + innerSize ≤ start + size

instance (start size innerStart innerSize : Nat) : Decidable (RangeContains start size innerStart innerSize) :=
  inferInstanceAs (Decidable (_ ∧ _))

/-- Where a sum overflows, the ranges count as overlapping. -/
def RangesOverlap (leftStart leftSize rightStart rightSize : Nat) : Prop :=
  (leftStart + leftSize < u64Values ∧ rightStart + rightSize < u64Values) →
    leftStart < rightStart + rightSize ∧ rightStart < leftStart + leftSize

instance (leftStart leftSize rightStart rightSize : Nat) :
    Decidable (RangesOverlap leftStart leftSize rightStart rightSize) :=
  inferInstanceAs (Decidable (_ → _))

end Reading

section Validation

def parseProgramHeader (bytes : Bytes) (index : Nat) : Outcome ProgramHeader := do
  let table ← timesOr programHeaderBytes index .programHeaderBounds
  let sum ← addOr elfHeaderBytes table .programHeaderBounds
  let base ← toUsize sum .programHeaderBounds
  let segmentType ← readU32 bytes base .programHeaderBounds
  let flags ← readU32 bytes (← plus base 4) .programHeaderBounds
  let offset ← readU64 bytes (← plus base 8) .programHeaderBounds
  let virtualAddress ← readU64 bytes (← plus base 16) .programHeaderBounds
  let physicalAddress ← readU64 bytes (← plus base 24) .programHeaderBounds
  let fileSize ← readU64 bytes (← plus base 32) .programHeaderBounds
  let memorySize ← readU64 bytes (← plus base 40) .programHeaderBounds
  let alignment ← readU64 bytes (← plus base 48) .programHeaderBounds
  return ⟨segmentType, flags, offset, virtualAddress, physicalAddress, fileSize, memorySize, alignment⟩

def SupportedType (segmentType : Nat) : Prop :=
  segmentType = ptLoad ∨ segmentType = ptDynamic ∨ segmentType = ptPhdr ∨
    segmentType = ptGnuStack ∨ segmentType = ptGnuRelro

instance (segmentType : Nat) : Decidable (SupportedType segmentType) :=
  inferInstanceAs (Decidable (_ ∨ _))

def validateBaseAddresses (physicalBase virtualBase imageSize : Nat) : Outcome Unit := do
  require (¬ (physicalBase < minPhysicalBase ∨ ¬ MultipleOf pageSize physicalBase)) .physicalBase
  require (¬ maxPhysicalExclusive < (← add physicalBase imageSize .physicalBase)) .physicalBase
  require (¬ (¬ (minVirtualBase ≤ virtualBase ∧ virtualBase < maxVirtualExclusive) ∨
    ¬ MultipleOf virtualBaseAlignment virtualBase)) .virtualBase
  require (¬ maxVirtualExclusive < (← add virtualBase imageSize .virtualBase)) .virtualBase

/-- The types of the program headers, in their order. -/
def expectedTypes : Fin 7 → Nat :=
  ![ptPhdr, ptLoad, ptLoad, ptLoad, ptDynamic, ptGnuRelro, ptGnuStack]

/-- The checks of the identification bytes. -/
def validateIdent (bytes : Bytes) : Outcome Unit := do
  require ((← slice bytes 0 4) = [0x7f, 0x45, 0x4c, 0x46]) .magic
  require ((← byteAt bytes 4) = 2) .class_
  require ((← byteAt bytes 5) = 1) .encoding
  require ((← byteAt bytes 6) = 1) .identVersion
  require ((← byteAt bytes 7) = 0) .osAbi
  require ((← byteAt bytes 8) = 0) .abiVersion
  require (¬ ∃ byte ∈ (← slice bytes 9 16), byte ≠ 0) .identPadding

def validateHeader (bytes : Bytes) : Outcome (Nat × (Fin 7 → ProgramHeader)) := do
  require (bytes ≠ []) .empty
  require (¬ bytes.length < elfHeaderBytes) .headerTruncated
  require (¬ maxFileBytes < bytes.length) .fileTooLarge
  validateIdent bytes
  require ((← readU16 bytes 16 .headerTruncated) = 3) .fileType
  require ((← readU16 bytes 18 .headerTruncated) = 62) .machine
  require ((← readU32 bytes 20 .headerTruncated) = 1) .version
  let entry ← readU64 bytes 24 .headerTruncated
  require ((← readU64 bytes 32 .headerTruncated) = elfHeaderBytes) .programHeaderOffset
  let sectionOffset ← readU64 bytes 40 .headerTruncated
  require ((← readU32 bytes 48 .headerTruncated) = 0) .headerFlags
  require ((← readU16 bytes 52 .headerTruncated) = elfHeaderBytes) .headerSize
  require ((← readU16 bytes 54 .headerTruncated) = programHeaderBytes) .programHeaderSize
  require ((← readU16 bytes 56 .headerTruncated) = programHeaderCount) .programHeaderCount
  let sectionEntrySize ← readU16 bytes 58 .headerTruncated
  let sectionCount ← readU16 bytes 60 .headerTruncated
  let sectionNameIndex ← readU16 bytes 62 .headerTruncated
  require (¬ (sectionOffset ≠ 0 ∨ sectionCount ≠ 0 ∨ sectionNameIndex ≠ 0 ∨
    ¬ (sectionEntrySize = 0 ∨ sectionEntrySize = 64))) .sectionTable
  let table ← timesOr programHeaderBytes programHeaderCount .programHeaderBounds
  let programTableEnd ← addOr elfHeaderBytes table .programHeaderBounds
  require (¬ bytes.length < programTableEnd) .programHeaderBounds
  let headers ← (List.finRange 7).foldlM (fun headers index => do
    let header ← parseProgramHeader bytes index.val
    require (SupportedType header.segmentType) .unsupportedSegment
    return Function.update headers index header) (fun _ => ProgramHeader.empty)
  (List.finRange 7).forM (fun index =>
    require ((headers index).segmentType = expectedTypes index) .programHeaderOrder)
  return (entry, headers)

def validatePhdr (header : ProgramHeader) : Outcome Unit := do
  let tableSize ← timesOr programHeaderBytes programHeaderCount .arithmeticOverflow
  require (¬ (header.flags ≠ pfR ∨ header.offset ≠ elfHeaderBytes ∨
    header.virtualAddress ≠ elfHeaderBytes ∨ header.physicalAddress ≠ 0 ∨ header.fileSize ≠ tableSize ∨
      header.memorySize ≠ tableSize ∨ header.alignment ≠ 8)) .phdrSegment

/-- `[PF_R, PF_R | PF_X, PF_R | PF_W]`. -/
def expectedFlags : Fin 3 → Nat := ![pfR, pfR ||| pfX, pfR ||| pfW]

/-- One round of the loop of `validate_loads`. -/
def validateLoad (bytes : Bytes) (load : ProgramHeader) (flags : Nat) : Outcome Unit := do
  require (¬ (load.flags ≠ flags ∨ load.flags &&& (pfW ||| pfX) = pfW ||| pfX)) .loadFlags
  require (¬ (load.alignment ≠ pageSize ∨ ¬ MultipleOf pageSize load.offset ∨
    ¬ MultipleOf pageSize load.virtualAddress ∨ load.offset ≠ load.virtualAddress)) .loadAlignment
  require (load.physicalAddress = 0) .loadAddress
  require (¬ (load.fileSize = 0 ∨ load.memorySize = 0 ∨ load.memorySize < load.fileSize ∨
    ¬ MultipleOf pageSize load.memorySize)) .segmentSize
  let fileEnd ← add load.offset load.fileSize .segmentBounds
  let memoryEnd ← add load.virtualAddress load.memorySize .segmentBounds
  require (¬ (bytes.length < fileEnd ∨ maxImageBytes < memoryEnd)) .segmentBounds

def validateLoads (bytes : Bytes) (headers : Fin 7 → ProgramHeader) : Outcome ((Fin 3 → ProgramHeader) × Nat) := do
  let loads : Fin 3 → ProgramHeader := ![headers 1, headers 2, headers 3]
  (List.finRange 3).forM (fun index => validateLoad bytes (loads index) (expectedFlags index))
  require (¬ ((loads 0).virtualAddress ≠ 0 ∨ (loads 0).offset ≠ 0)) .segmentLayout
  require (¬ ((loads 0).fileSize ≠ (loads 0).memorySize ∨ (loads 1).fileSize ≠ (loads 1).memorySize))
    .segmentLayout
  require ((← add (loads 0).virtualAddress (loads 0).memorySize .segmentLayout) =
    (loads 1).virtualAddress) .segmentLayout
  require ((← add (loads 1).virtualAddress (loads 1).memorySize .segmentLayout) =
    (loads 2).virtualAddress) .segmentLayout
  require ((loads 0).fileSize = (loads 1).offset) .segmentLayout
  require ((← add (loads 1).offset (loads 1).fileSize .segmentLayout) = (loads 2).offset) .segmentLayout
  let table ← times programHeaderBytes programHeaderCount
  let programTableEnd ← addOr elfHeaderBytes table .arithmeticOverflow
  require (¬ (loads 0).fileSize < programTableEnd) .fileCoverage
  require ((← add (loads 2).offset (loads 2).fileSize .fileCoverage) = bytes.length) .fileCoverage
  let imageSize ← add (loads 2).virtualAddress (loads 2).memorySize .segmentBounds
  require (¬ ((loads 2).memorySize < pageSize * 2 ∨ maxImageBytes < imageSize)) .segmentSize
  return (loads, imageSize)

/-- `[DT_RELA, DT_RELASZ, DT_RELAENT, DT_NULL]`. -/
def expectedTags : Fin 4 → Int := ![dtRela, dtRelasz, dtRelaent, dtNull]

/-- One round of the loop over the dynamic entries. -/
def readDynamic (bytes : Bytes) (dynamicOffset : Nat) (values : Fin 4 → Nat) (index : Fin 4) :
    Outcome (Fin 4 → Nat) := do
  let offset ← plus dynamicOffset (← times index.val dynamicEntryBytes)
  require ((← readI64 bytes offset .dynamicSegment) = expectedTags index) .dynamicOrder
  let value ← readU64 bytes (← plus offset 8) .dynamicSegment
  return Function.update values index value

def validateRelro (relro writable : ProgramHeader) : Outcome Unit :=
  require (¬ (relro.flags ≠ pfR ∨ relro.offset ≠ writable.offset ∨
    relro.virtualAddress ≠ writable.virtualAddress ∨ relro.physicalAddress ≠ 0 ∨
    relro.fileSize ≠ relro.memorySize ∨ relro.memorySize < pageSize ∨
    ¬ MultipleOf pageSize relro.memorySize ∨ relro.alignment ≠ pageSize ∨
    writable.memorySize ≤ relro.memorySize ∨ writable.fileSize < relro.memorySize)) .relroSegment

def validateStack (stack : ProgramHeader) : Outcome Unit :=
  require (¬ (stack.flags ≠ pfR ||| pfW ∨ stack.offset ≠ 0 ∨ stack.virtualAddress ≠ 0 ∨
    stack.physicalAddress ≠ 0 ∨ stack.fileSize ≠ 0 ∨ stack.memorySize ≠ 0 ∨
    stack.alignment ≠ 16)) .stackSegment

def validateDynamicSegment (dynamic relro writable : ProgramHeader) : Outcome Unit :=
  require (¬ (dynamic.flags ≠ pfR ||| pfW ∨ dynamic.offset ≠ writable.offset ∨
    dynamic.virtualAddress ≠ writable.virtualAddress ∨ dynamic.physicalAddress ≠ 0 ∨
    dynamic.fileSize ≠ dynamicBytes ∨ dynamic.memorySize ≠ dynamicBytes ∨ dynamic.alignment ≠ 8 ∨
    ¬ RangeContains relro.virtualAddress relro.memorySize dynamic.virtualAddress dynamic.memorySize))
    .dynamicSegment

def validateDynamicAndRelro (bytes : Bytes) (dynamic relro stack writable : ProgramHeader) :
    Outcome (Nat × Nat × Nat) := do
  validateRelro relro writable
  validateStack stack
  validateDynamicSegment dynamic relro writable
  let dynamicOffset ← toUsize dynamic.offset .dynamicSegment
  let values ← (List.finRange 4).foldlM (readDynamic bytes dynamicOffset) (fun _ => 0)
  require (values 3 = 0) .dynamicEntry
  let relocationAddress := values 0
  let relocationSize := values 1
  require (values 2 = relaEntryBytes) .relocationEntrySize
  require (¬ (relocationSize = 0 ∨ ¬ MultipleOf relaEntryBytes relocationSize)) .relocationTable
  let relocationCount := relocationSize / relaEntryBytes
  require (¬ (relocationCount = 0 ∨ maxRelocations < relocationCount)) .relocationCount
  require (¬ (¬ MultipleOf 8 relocationAddress ∨
    RangesOverlap dynamic.virtualAddress dynamic.memorySize relocationAddress relocationSize ∨
    ¬ RangeContains relro.virtualAddress relro.memorySize relocationAddress relocationSize ∨
    ¬ RangeContains writable.virtualAddress writable.fileSize relocationAddress relocationSize))
    .relocationTable
  return (relocationAddress, relocationSize, relocationCount)

/-- One round of `validate_relocations`, with the target of the round before. -/
def validateRelocation (context : RelocationContext) (previousTarget : Option Nat) (index : Nat) :
    Outcome (Option Nat) := do
  let distance ← timesOr index relaEntryBytes .relocationTable
  let recordAddress ←
    addOr context.relocationAddress distance .relocationTable
  let recordOffset ← toUsize recordAddress .relocationTable
  let target ← readU64 context.bytes recordOffset .relocationTable
  let info ← readU64 context.bytes (← plus recordOffset 8) .relocationTable
  let addend ← readI64 context.bytes (← plus recordOffset 16) .relocationTable
  let relocationType := info % u32Values
  let symbol := info / u32Values
  require (relocationType = rX8664Relative) .relocationType
  require (symbol = 0) .relocationSymbol
  require (¬ ∃ previous ∈ previousTarget, target ≤ previous) .relocationOrder
  require (¬ (¬ MultipleOf 8 target ∨ ¬ RangeContains context.relro.virtualAddress context.relro.memorySize target 8 ∨
    RangesOverlap context.dynamic.virtualAddress context.dynamic.memorySize target 8 ∨
    RangesOverlap context.relocationAddress context.relocationSize target 8)) .relocationTarget
  let targetOffset ← toUsize target .relocationTarget
  let source ← orRefuse (context.bytes.range? targetOffset (← plus targetOffset 8)) .relocationTarget
  require (¬ ∃ byte ∈ source, byte ≠ 0) .relocationTarget
  require (0 ≤ addend) .relocationAddend
  let addend := addend.toNat
  require (¬ (context.imageSize ≤ addend ∨ ¬ ∃ index, RangeContains
    (context.loads index).virtualAddress (context.loads index).memorySize addend 1)) .relocationAddend
  let value ← add context.virtualBase addend .relocationValue
  require (¬ value < context.virtualBase) .relocationValue
  require (¬ (← add context.virtualBase context.imageSize .relocationValue) ≤ value) .relocationValue
  return some target

def validateRelocations (context : RelocationContext) : Outcome Unit := do
  let _ ← (List.range context.relocationCount).foldlM (validateRelocation context) none
  return ()

end Validation

section Load

/-- The plan of a segment, with its permissions. -/
def segmentPlan (load : ProgramHeader) (permissions : Permissions) : Outcome SegmentPlan := do
  let fileOffset ← toU32 load.offset
  let virtualOffset ← toU32 load.virtualAddress
  let fileSize ← toU32 load.fileSize
  let memorySize ← toU32 load.memorySize
  return ⟨fileOffset, virtualOffset, fileSize, memorySize, permissions⟩

def mappingPlan (virtualOffset memorySize : Nat) (permissions : Permissions) : Outcome MappingPlan := do
  let virtualOffset ← toU32 virtualOffset
  let memorySize ← toU32 memorySize
  return ⟨virtualOffset, memorySize, permissions⟩

def inspect (bytes : Bytes) (physicalBase virtualBase : Nat) : Outcome ImagePlan := do
  let (entry, headers) ← validateHeader bytes
  validatePhdr (headers 0)
  let (loads, imageSize) ← validateLoads bytes headers
  validateBaseAddresses physicalBase virtualBase imageSize
  require (RangeContains (loads 1).virtualAddress (loads 1).fileSize entry 1) .entryPoint
  let (relocationAddress, relocationSize, relocationCount) ←
    validateDynamicAndRelro bytes (headers 4) (headers 5) (headers 6) (loads 2)
  validateRelocations ⟨bytes, relocationAddress, relocationSize, relocationCount, headers 4, headers 5,
    loads, imageSize, virtualBase⟩
  let text ← segmentPlan (loads 0) .readOnly
  let code ← segmentPlan (loads 1) .readExecute
  let data ← segmentPlan (loads 2) .readWrite
  let relroEnd ← add (headers 5).virtualAddress (headers 5).memorySize .relroSegment
  let writableEnd ← add (loads 2).virtualAddress (loads 2).memorySize .segmentBounds
  let textMapping ← mappingPlan (loads 0).virtualAddress (loads 0).memorySize .readOnly
  let codeMapping ← mappingPlan (loads 1).virtualAddress (loads 1).memorySize .readExecute
  let relroMapping ← mappingPlan (headers 5).virtualAddress (headers 5).memorySize .readOnly
  let dataMapping ← mappingPlan relroEnd (← minus writableEnd relroEnd) .readWrite
  return {
    fileSize := ← toU32 bytes.length
    imageSize := ← toU32 imageSize
    entryOffset := ← toU32 entry
    entryVirtual := ← add virtualBase entry .entryPoint
    entryPhysical := ← add physicalBase entry .entryPoint
    physicalBase := physicalBase
    virtualBase := virtualBase
    relocationCount := ← toU32 relocationCount
    relroOffset := ← toU32 (headers 5).virtualAddress
    relroSize := ← toU32 (headers 5).memorySize
    segments := ![text, code, data]
    mappings := ![textMapping, codeMapping, relroMapping, dataMapping] }

/-- A method that writes the destination. -/
abbrev M (α : Type) : Type := Op Bytes Stop α

/-- `destination[first..last].copy_from_slice(source)`. -/
def copyFromSlice (first last : Nat) (source : Bytes) : M Unit := do
  Op.ensure (first ≤ last ∧ last ≤ (← Op.read).length ∧ source.length = last - first) .panicked
  Op.update (fun destination => destination.blit first source)

/-- `destination[..last].fill(0)`. -/
def fillZero (last : Nat) : M Unit := copyFromSlice 0 last (List.replicate last 0)

/-- One round of the loop over the segments. -/
def copySegment (bytes : Bytes) (segment : SegmentPlan) : M Unit := do
  let sourceEnd ← Op.lift (plus segment.fileOffset segment.fileSize)
  let targetEnd ← Op.lift (plus segment.virtualOffset segment.fileSize)
  let source ← Op.lift (slice bytes segment.fileOffset sourceEnd)
  copyFromSlice segment.virtualOffset targetEnd source

/-- `addend as u64` of a signed addend. -/
def asU64 (addend : Int) : Nat := (addend % u64Values).toNat

/-- One round of the loop over the relocations. -/
def relocate (bytes : Bytes) (relocationAddress virtualBase index : Nat) : M Unit := do
  let recordOffset ← Op.lift (do plus relocationAddress (← times index relaEntryBytes))
  let target ← Op.lift (readU64 bytes recordOffset .relocationTable)
  let addend ← Op.lift (do readI64 bytes (← plus recordOffset 16) .relocationTable)
  let value ← Op.lift (plus virtualBase (asU64 addend))
  let targetEnd ← Op.lift (plus target 8)
  copyFromSlice target targetEnd (Bytes.ofWord 8 value)

def load (bytes : Bytes) (physicalBase virtualBase : Nat) : M ImagePlan := do
  let plan ← Op.lift (inspect bytes physicalBase virtualBase)
  Op.ensure (¬ (← Op.read).length < plan.imageSize) (.refused .outputCapacity)
  fillZero plan.imageSize
  Op.forEach (List.finRange 3) (fun index => copySegment bytes (plan.segments index))
  let dynamicOffset := (plan.segments 2).fileOffset
  let relocationAddress ← Op.lift (do readU64 bytes (← plus dynamicOffset 8) .dynamicSegment)
  Op.forEach (List.range plan.relocationCount) (relocate bytes relocationAddress virtualBase)
  return plan

end Load

end PooleOS.Elf
