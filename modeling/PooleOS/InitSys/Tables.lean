import PooleOS.InitSys.Records

/- What the two parsers ask of the records of the five tables, and what they make of them. -/
namespace PooleOS.InitSys

open List Nat

/-- The record of this index in a table. -/
def recordAt (part : Bytes) (size index : Nat) : Bytes := part.slice (index * size) size

/-- Components, services and resources keep the name at the same place. -/
def nameOf (record : Bytes) : NameRef := ⟨record.word 8 4, record.word 12 2⟩

section Lists

variable {α : Type} {part : Bytes} {size index count : Nat}

/-- What is made of the first records of a table. -/
def records (size : Nat) (made : Bytes → α) (part : Bytes) (count : Nat) : List α :=
  (List.range count).map (fun index => made (recordAt part size index))

variable {made : Bytes → α}

theorem records_succ :
    records size made part (count + 1) = records size made part count ++ [made (recordAt part size count)] := by
  rw [records, range_succ, map_append]
  rfl

theorem records_length : (records size made part count).length = count := by
  rw [records, length_map, length_range]

theorem records_map {β : Type} {change : α → β} :
    (records size made part count).map change = records size (fun record => change (made record)) part count := by
  rw [records, map_map]
  rfl

theorem records_getD {none : α} (inside : index < count) :
    (records size made part count).getD index none = made (recordAt part size index) := by
  rw [records, getD_eq_getElem?_getD, getElem?_map, getElem?_range inside]
  rfl

end Lists

namespace Header

variable (header : Header) (data strings : Bytes)

/-- The tables of a bundle. -/
def components : Bytes := data.slice header.componentOffset (header.componentCount * componentBytes)
def services : Bytes := data.slice header.serviceOffset (header.serviceCount * serviceBytes)
def dependencies : Bytes := data.slice header.dependencyOffset (header.dependencyCount * dependencyBytes)
def resources : Bytes := data.slice header.resourceOffset (header.resourceCount * resourceBytes)
def capabilities : Bytes := data.slice header.capabilityOffset (header.capabilityCount * capabilityBytes)

/-- The names of the components, and those of the services, and those of the resources. -/
def componentNames : List NameRef := records componentBytes nameOf (header.components data) header.componentCount
def serviceNames : List NameRef := records serviceBytes nameOf (header.services data) header.serviceCount
def resourceNames : List NameRef := records resourceBytes nameOf (header.resources data) header.resourceCount

/-- All names, in the order of the records. -/
def names : List NameRef := header.componentNames data ++ header.serviceNames data ++ header.resourceNames data

def texts : List Bytes := (header.names data).map (NameRef.text strings)

end Header

/-- What both parsers ask of a component. -/
structure ComponentRule (sha : Sha256) (blob : Bytes) (start index : Nat) (record : Bytes) : Prop where
  fields : record.word 0 4 = index + 1 ∧ record.word 14 2 = 0 ∧ Bytes.allZero (record.drop 72)
  kind : (record.word 4 2 = componentExecutable ∧
      (record.word 6 2 = componentRequired ||| componentReadOnly ||| componentExecutableFlag ∧
        record.slice 16 8 = pxabi1) ∧
      record.word 32 4 ≠ 0 ∧ record.word 32 4 ≤ maxComponentImageBytes) ∨
    (record.word 4 2 = componentData ∧ record.word 6 2 = componentRequired ||| componentReadOnly ∧
      record.slice 16 8 = pinitd1 ∧ record.word 32 4 = 0)
  alignment : record.word 36 4 ≠ 0 ∧ record.word 36 4 ≤ 4096 ∧ isPowerOfTwo (record.word 36 4)
  place : record.word 24 4 = start ∧ record.word 28 4 ≠ 0 ∧ start + record.word 28 4 ≤ blob.length
  digest : sha.digest (blob.slice start (record.word 28 4)) = record.slice 40 32

section Kinds

variable {kind flags imageBytes : Nat} {formatId : Bytes}

theorem checkComponentKind_eq_ok : checkComponentKind kind flags formatId imageBytes = .ok () ↔
    (kind = componentExecutable ∧ (flags = componentRequired ||| componentReadOnly ||| componentExecutableFlag ∧
      formatId = pxabi1) ∧ imageBytes ≠ 0 ∧ imageBytes ≤ maxComponentImageBytes) ∨
    (kind = componentData ∧ flags = componentRequired ||| componentReadOnly ∧ formatId = pinitd1 ∧ imageBytes = 0) := by
  have apart : componentExecutable ≠ componentData := by decide
  unfold checkComponentKind
  split
  · rename_i executable
    simp only [check, demand_bind_eq_ok, demand_eq_ok]
    constructor
    · exact fun both => .inl ⟨executable, both⟩
    · rintro (⟨-, both⟩ | ⟨data, -⟩)
      · exact both
      · exact absurd (executable.symm.trans data) apart
  · rename_i executable
    split
    · rename_i data
      simp only [check, demand_eq_ok]
      constructor
      · exact fun all => .inr ⟨data, all⟩
      · rintro (⟨same, -⟩ | ⟨-, all⟩)
        · exact absurd same executable
        · exact all
    · rename_i data
      simp [executable, data]

theorem oracle_checkComponentKind_eq_ok : Oracle.checkComponentKind kind flags formatId imageBytes = .ok () ↔
      checkComponentKind kind flags formatId imageBytes = .ok () := by
  unfold Oracle.checkComponentKind checkComponentKind
  split
  · simp only [check, Oracle.check, demand_bind_eq_ok, demand_eq_ok]
  · split
    · simp only [check, Oracle.check, demand_eq_ok]
    · simp

/-- The two tests for a power of two agree where both are made. -/
theorem isPowerOfTwo_iff {value : Nat} (some : value ≠ 0) (small : value ≤ 4096) :
    isPowerOfTwo value = true ↔ value &&& (value - 1) = 0 := by
  rw [and_sub_one_eq_zero_iff_isPowerOfTwo some, isPowerOfTwo, any_eq_true]
  constructor
  · rintro ⟨bit, -, same⟩
    exact ⟨bit, beq_iff_eq.mp same⟩
  · rintro ⟨bit, rfl⟩
    refine ⟨bit, mem_range.mpr ?_, beq_self_eq_true _⟩
    have low : 2 ^ bit < 2 ^ 32 := small.trans_lt (by decide)
    exact (Nat.pow_lt_pow_iff_right (by decide)).mp low

end Kinds

section Names

/-- What both parsers ask of the name of a record: it is one, and it was not used before. -/
structure Fresh (strings : Bytes) (front : List Bytes) (record : Nat → Bytes) (index : Nat) : Prop where
  rule : NameRule strings ((record index).word 8 4) ((record index).word 12 2)
  fresh : (nameOf (record index)).text strings ∉
    front ++ (List.range index).map (fun earlier => (nameOf (record earlier)).text strings)

variable {strings : Bytes} {record : Nat → Bytes} {index : Nat}

/-- The name of a record, and the names with it. -/
theorem push_eq_ok {α : Type} {front names : List NameRef} {next : List NameRef → Outcome Error α} {value : α}
    (closed : names = front ++ (range index).map (fun earlier => nameOf (record earlier))) :
    (nameRef strings ((record index).word 8 4) ((record index).word 12 2) >>= fun name =>
      pushName names name strings >>= next) = .ok value ↔
    Fresh strings (front.map (NameRef.text strings)) record index ∧
      next (front ++ (range (index + 1)).map (fun earlier => nameOf (record earlier))) = .ok value := by
  simp only [nameRef_eq_ok, bind_eq_ok_iff, pushName_eq_ok]
  have texts : names.map (NameRef.text strings) = front.map (NameRef.text strings) ++
      (range index).map (fun earlier => (nameOf (record earlier)).text strings) := by
    rw [closed, map_append, map_map]
    rfl
  have longer : names ++ [nameOf (record index)] =
      front ++ (range (index + 1)).map (fun earlier => nameOf (record earlier)) := by
    rw [closed, range_succ, map_append, append_assoc]
    rfl
  constructor
  · rintro ⟨_, ⟨rule, rfl⟩, _, ⟨fresh, rfl⟩, rest⟩
    rw [texts] at fresh
    exact ⟨⟨rule, fresh⟩, longer ▸ rest⟩
  · rintro ⟨⟨rule, fresh⟩, rest⟩
    rw [← texts] at fresh
    exact ⟨_, ⟨rule, rfl⟩, _, ⟨fresh, rfl⟩, longer ▸ rest⟩

theorem add_eq_ok {α : Type} {front names : List Bytes} {next : Bytes → List Bytes → Except Error α} {value : α}
    (closed : names = front ++ (range index).map (fun earlier => (nameOf (record earlier)).text strings)) :
    (Oracle.readName strings ((record index).word 8 4) ((record index).word 12 2) >>= fun name =>
      Oracle.addName names name >>= next name) = .ok value ↔
    Fresh strings front record index ∧ next ((nameOf (record index)).text strings)
      (front ++ (range (index + 1)).map (fun earlier => (nameOf (record earlier)).text strings)) =
        .ok value := by
  simp only [readName_eq_ok, bind_eq_ok_iff, addName_eq_ok]
  have longer : names ++ [(nameOf (record index)).text strings] =
      front ++ (range (index + 1)).map (fun earlier => (nameOf (record earlier)).text strings) := by
    rw [closed, range_succ, map_append, append_assoc]
    rfl
  constructor
  · rintro ⟨_, ⟨rule, rfl⟩, _, ⟨fresh, rfl⟩, rest⟩
    exact ⟨⟨rule, closed ▸ fresh⟩, longer ▸ rest⟩
  · rintro ⟨⟨rule, fresh⟩, rest⟩
    exact ⟨_, ⟨rule, rfl⟩, _, ⟨closed ▸ fresh, rfl⟩, longer ▸ rest⟩

end Names

section Components

variable {sha : Sha256} {strings blob part : Bytes}

/-- Where the blob of a component ends. -/
def blobEnd (part : Bytes) : Nat → Nat
  | 0 => 0
  | index + 1 => align (blobEnd part index) + (recordAt part componentBytes index).word 28 4

/-- The padding before the blob of a component is zero. -/
def Padded (blob part : Bytes) (index : Nat) : Prop :=
  (blob.slice (blobEnd part index) (align (blobEnd part index) - blobEnd part index)).allZero

/-- What the parser knows of the components so far. -/
def scannedComponents (part : Bytes) (count : Nat) : ComponentScan where
  kinds := records componentBytes (Bytes.word · 4 2) part count
  cursor := blobEnd part count
  names := records componentBytes nameOf part count

/-- The fields of a component record. -/
def componentOf (strings blob record : Bytes) : Oracle.Component where
  componentId := record.word 0 4
  kind := record.word 4 2
  flags := record.word 6 2
  name := (nameOf record).text strings
  formatId := record.slice 16 8
  blob := blob.slice (record.word 24 4) (record.word 28 4)
  imageBytes := record.word 32 4
  destinationAlignment := record.word 36 4
  sha256 := record.slice 40 32

def Oracle.scannedComponents (strings blob part : Bytes) (count : Nat) : Oracle.ComponentScan where
  components := records componentBytes (componentOf strings blob) part count
  expectedBlobOffset := blobEnd part count
  referencedNames := records componentBytes (fun record => (nameOf record).text strings) part count

/-- What both parsers ask of the component of this index. -/
structure ComponentFits (sha : Sha256) (strings blob part : Bytes) (index : Nat) : Prop where
  rule : ComponentRule sha blob (align (blobEnd part index)) index (recordAt part componentBytes index)
  name : Fresh strings [] (recordAt part componentBytes) index

theorem scannedComponents_succ (index : Nat) : scannedComponents part (index + 1) =
    { kinds := (scannedComponents part index).kinds ++ [(recordAt part componentBytes index).word 4 2],
      cursor := align (blobEnd part index) + (recordAt part componentBytes index).word 28 4,
      names := [] ++ (range (index + 1)).map (fun earlier => nameOf (recordAt part componentBytes earlier)) } := by
  unfold scannedComponents
  rw [records_succ]
  rfl

theorem parseComponent_eq_ok {index : Nat} {next : ComponentScan} :
    parseComponent sha strings blob part (scannedComponents part index) index = .ok next ↔
      (ComponentFits sha strings blob part index ∧ Padded blob part index) ∧
        next = scannedComponents part (index + 1) := by
  unfold parseComponent
  rw [← recordAt]
  have names : (scannedComponents part index).names = [] ++ (range index).map (fun earlier =>
      nameOf (recordAt part componentBytes earlier)) := rfl
  simp only [check, unit_bind_eq_ok, demand_eq_ok, range_bind_eq_ok, checkComponentKind_eq_ok,
    push_eq_ok names, pure_eq_ok]
  constructor
  · rintro ⟨fields, kind, ⟨some, small, two⟩, -, padded, ⟨place, long⟩, ⟨-, inside⟩, digest, fresh, rfl⟩
    rw [place] at inside digest ⊢
    rw [Nat.add_sub_cancel_left] at digest
    refine ⟨⟨⟨⟨fields, kind, ⟨some, small, two⟩, ⟨place, long, inside⟩, digest⟩, fresh⟩, padded⟩, ?_⟩
    exact (scannedComponents_succ index).symm
  · rintro ⟨⟨⟨rule, fresh⟩, padded⟩, rfl⟩
    obtain ⟨fields, kind, alignment, ⟨place, long, inside⟩, digest⟩ := rule
    refine ⟨fields, kind, alignment, ⟨align_le _, ?_⟩, padded, ⟨place, long⟩, ⟨?_, ?_⟩, ?_, fresh, ?_⟩
    · exact Nat.le_trans (Nat.le_add_right ..) inside
    · exact Nat.le_add_right ..
    · rw [place]
      exact inside
    · rw [place, Nat.add_sub_cancel_left]
      exact digest
    · rw [place]
      exact scannedComponents_succ index

theorem Oracle.scannedComponents_succ (index : Nat) : Oracle.scannedComponents strings blob part (index + 1) =
    { components := (Oracle.scannedComponents strings blob part index).components ++
        [componentOf strings blob (recordAt part componentBytes index)],
      expectedBlobOffset := align (blobEnd part index) + (recordAt part componentBytes index).word 28 4,
      referencedNames := [] ++ (range (index + 1)).map (fun earlier =>
        (nameOf (recordAt part componentBytes earlier)).text strings) } := by
  unfold Oracle.scannedComponents
  rw [records_succ]
  rfl

theorem oracle_parseComponent_eq_ok {index : Nat} {next : Oracle.ComponentScan} :
    Oracle.parseComponent sha strings blob part (Oracle.scannedComponents strings blob part index) index = .ok next ↔
      (ComponentFits sha strings blob part index ∧ Padded blob part (index + 1)) ∧
        next = Oracle.scannedComponents strings blob part (index + 1) := by
  unfold Oracle.parseComponent
  rw [← recordAt]
  have names : (Oracle.scannedComponents strings blob part index).referencedNames =
      [] ++ (range index).map (fun earlier =>
        (nameOf (recordAt part componentBytes earlier)).text strings) := rfl
  simp only [Oracle.check, unit_bind_eq_ok, demand_eq_ok, oracle_checkComponentKind_eq_ok,
    checkComponentKind_eq_ok, add_eq_ok names, pure_eq_ok]
  constructor
  · rintro ⟨fields, kind, ⟨some, small, two⟩, ⟨place, long, inside⟩, digest, fresh, padded, rfl⟩
    rw [place] at inside digest
    refine ⟨⟨⟨⟨fields, kind, ⟨some, small, ?_⟩, ⟨place, long, inside⟩, digest⟩, fresh⟩, padded⟩, ?_⟩
    · exact (isPowerOfTwo_iff some small).mpr two
    · exact (Oracle.scannedComponents_succ index).symm
  · rintro ⟨⟨⟨rule, fresh⟩, padded⟩, rfl⟩
    obtain ⟨fields, kind, ⟨some, small, two⟩, ⟨place, long, inside⟩, digest⟩ := rule
    refine ⟨fields, kind, ⟨some, small, ?_⟩, ⟨place, long, ?_⟩, ?_, fresh, padded, ?_⟩
    · exact (isPowerOfTwo_iff some small).mp two
    · rw [place]
      exact inside
    · rw [place]
      exact digest
    · exact Oracle.scannedComponents_succ index

theorem Padded.first : Padded blob part 0 := by
  have none : align 0 - 0 = 0 := by decide
  unfold Padded Bytes.slice
  rw [blobEnd, none, take_zero]
  rfl

theorem Padded.last {count : Nat} (filled : blobEnd part count = blob.length) : Padded blob part count := by
  unfold Padded Bytes.slice
  rw [filled, drop_length, take_nil]
  rfl

/-- What both parsers ask of the components. -/
structure ComponentsFit (sha : Sha256) (strings blob part : Bytes) (count : Nat) : Prop where
  each : ∀ index < count, ComponentFits sha strings blob part index
  padded : ∀ index < count, Padded blob part index
  filled : blobEnd part count = blob.length

variable {data : Bytes} {header : Header}

theorem parseComponents_eq_ok {scan : ComponentScan} : parseComponents sha data header strings blob = .ok scan ↔
    Tabled data header.componentOffset header.componentCount componentBytes ∧
      ComponentsFit sha strings blob (header.components data) header.componentCount ∧
      scan = scannedComponents (header.components data) header.componentCount := by
  refine Iff.trans (loop_eq_ok (fun _ => table_eq_ok) (show scannedComponents _ 0 = _ from rfl)
    (fun index _ _ next => parseComponent_eq_ok)) (and_congr_right fun _ => ?_)
  rw [check, demand_bind_eq_ok, pure_eq_ok]
  constructor
  · rintro ⟨fits, filled, same⟩
    exact ⟨⟨fun index less => (fits index less).1, fun index less => (fits index less).2, filled⟩, same⟩
  · rintro ⟨fit, same⟩
    exact ⟨fun index less => ⟨fit.each index less, fit.padded index less⟩, fit.filled, same⟩

theorem oracle_parseComponents_eq_ok {scan : Oracle.ComponentScan} :
    Oracle.parseComponents sha data header strings blob = .ok scan ↔
      Tabled data header.componentOffset header.componentCount componentBytes ∧
        ComponentsFit sha strings blob (header.components data) header.componentCount ∧
        scan = Oracle.scannedComponents strings blob (header.components data) header.componentCount := by
  refine Iff.trans (loop_eq_ok (fun _ => oracle_table_eq_ok)
    (show Oracle.scannedComponents _ _ _ 0 = _ from rfl) (fun index _ _ next => oracle_parseComponent_eq_ok))
    (and_congr_right fun _ => ?_)
  rw [Oracle.check, demand_bind_eq_ok, pure_eq_ok]
  constructor
  · rintro ⟨fits, filled, same⟩
    refine ⟨⟨fun index less => (fits index less).1, fun index less => ?_, filled⟩, same⟩
    -- the padding behind a component is the padding before the next one
    cases index with
    | zero => exact Padded.first
    | succ index => exact (fits index (by omega)).2
  · rintro ⟨fit, same⟩
    refine ⟨fun index less => ⟨fit.each index less, ?_⟩, fit.filled, same⟩
    rcases lt_or_eq_of_le (succ_le_of_lt less) with more | last
    · exact fit.padded _ more
    · exact Padded.last ((congrArg _ last).trans fit.filled)

end Components

section Services

variable {header : Header} {kinds : List Nat} {strings part record : Bytes} {index : Nat}

/-- What both parsers ask of a service, given the kinds of the components. -/
structure ServiceRule (header : Header) (kinds : List Nat) (index : Nat) (record : Bytes) : Prop where
  fields : record.word 0 4 = index + 1 ∧ record.word 4 4 ≠ 0 ∧ record.word 4 4 ≤ header.componentCount ∧
    kinds.getD (record.word 4 4 - 1) 0 = componentExecutable ∧ Bytes.allZero (record.drop 68)
  known : without (record.word 14 2) serviceKnownFlags = 0
  critical : ¬ (record.word 14 2 &&& serviceCritical ≠ 0 ∧ record.word 14 2 &&& serviceRequired = 0)
  degraded : ¬ (record.word 14 2 &&& serviceRequired ≠ 0 ∧ record.word 14 2 &&& serviceAllowDegraded ≠ 0)
  timeouts : record.word 16 4 ≠ 0 ∧ record.word 16 4 ≤ header.startTimeoutMs ∧ record.word 20 4 ≠ 0 ∧
    record.word 20 4 ≤ header.rollbackTimeoutMs
  restart : record.word 24 2 ∈ [restartNever, restartOnFailure, restartAlways]
  failure : record.word 26 2 ∈ [failureRollbackBundle, failureContinueDegraded]
  lifecycle : record.word 28 2 ∈ [readinessImmediate, readinessExplicit] ∧
    record.word 30 2 = shutdownReverseDependency
  rollback : ¬ (record.word 14 2 &&& serviceRequired ≠ 0 ∧ record.word 26 2 ≠ failureRollbackBundle)
  continued : ¬ (record.word 14 2 &&& serviceRequired = 0 ∧ record.word 26 2 ≠ failureContinueDegraded)
  never : record.word 24 2 = restartNever →
    record.word 32 4 = 0 ∧ record.word 36 4 = 0 ∧ record.word 40 4 = 0 ∧ record.word 44 4 = 0
  again : record.word 24 2 ≠ restartNever → (1 ≤ record.word 32 4 ∧ record.word 32 4 ≤ 64) ∧
    record.word 40 4 ≠ 0 ∧ record.word 40 4 ≤ record.word 44 4 ∧ record.word 44 4 ≤ record.word 36 4 ∧
    record.word 36 4 ≤ 3600000
  health : record.word 48 4 ≠ 0 ∧ record.word 48 4 ≤ record.word 16 4
  ready : ¬ (record.word 28 2 = readinessExplicit ∧ record.word 52 4 = 0)
  schema : record.word 14 2 &&& serviceStateless ≠ 0 ↔ record.word 64 4 = 0

/-- The fields of a service record that the native parser keeps. -/
def serviceMetaOf (record : Bytes) : ServiceMeta where
  flags := record.word 14 2
  restartPolicy := record.word 24 2
  readyResourceId := record.word 52 4
  capabilityCount := record.word 56 2
  resourceCount := record.word 58 2
  dependencyCount := record.word 60 2
  startupRank := record.word 62 2
  maxRestarts := record.word 32 4

theorem checkService_eq_ok {item : ServiceMeta} : checkService header kinds index record = .ok item ↔
    ServiceRule header kinds index record ∧ item = serviceMetaOf record := by
  unfold checkService
  simp only [check, unit_bind_eq_ok, demand_eq_ok, ite_bind_eq_ok, pure_eq_ok]
  constructor
  · rintro ⟨fields, ⟨known, critical, degraded⟩, timeouts, restart, failure, lifecycle, ⟨rollback, continued⟩,
      ⟨never, again⟩, ⟨health, short, ready⟩, schema, rfl⟩
    exact ⟨⟨fields, known, critical, degraded, timeouts, restart, failure, lifecycle, rollback, continued, never,
      again, ⟨health, short⟩, ready, schema⟩, rfl⟩
  · rintro ⟨rule, rfl⟩
    exact ⟨rule.fields, ⟨rule.known, rule.critical, rule.degraded⟩, rule.timeouts, rule.restart, rule.failure,
      rule.lifecycle, ⟨rule.rollback, rule.continued⟩, ⟨rule.never, rule.again⟩,
      ⟨rule.health.1, rule.health.2, rule.ready⟩, rule.schema, rfl⟩

theorem oracle_checkService_eq_ok {components : List Oracle.Component}
    (same : components.map Oracle.Component.kind = kinds) (count : components.length = header.componentCount) :
    Oracle.checkService header components index record = .ok () ↔ ServiceRule header kinds index record := by
  unfold Oracle.checkService
  simp only [Oracle.check, unit_bind_eq_ok, demand_eq_ok, ite_bind_eq_ok]
  simp only [Oracle.serviceOf, same, count, not_or, ne_eq, not_not, one_le_iff_ne_zero, forall_mem_cons, not_mem_nil, false_implies,
    implies_true, and_true]
  constructor
  · rintro ⟨fields, known, ⟨critical, degraded⟩, ⟨⟨start, startBound⟩, ⟨stop, stopBound⟩⟩, restart, failure,
      lifecycle, ⟨rollback, continued⟩, ⟨never, again⟩, health, ready, schema⟩
    exact ⟨fields, known, critical, degraded, ⟨start, startBound, stop, stopBound⟩, restart, failure, lifecycle,
      rollback, continued, never, fun other => by simpa only [one_le_iff_ne_zero] using again other, health,
      ready, schema⟩
  · rintro rule
    obtain ⟨start, startBound, stop, stopBound⟩ := rule.timeouts
    exact ⟨rule.fields, rule.known, ⟨rule.critical, rule.degraded⟩, ⟨⟨start, startBound⟩, ⟨stop, stopBound⟩⟩,
      rule.restart, rule.failure, rule.lifecycle, ⟨rule.rollback, rule.continued⟩,
      ⟨rule.never, fun other => by simpa only [one_le_iff_ne_zero] using rule.again other⟩, rule.health,
      rule.ready, rule.schema⟩

end Services

section Scans

variable {α : Type} {strings part : Bytes} {size index count : Nat}

/-- What a loop over records with names has collected. -/
def scanned (size : Nat) (made : Bytes → α) (part : Bytes) (front : List NameRef) (count : Nat) : NamedScan α where
  items := records size made part count
  names := front ++ records size nameOf part count

def Oracle.scanned (strings : Bytes) (size : Nat) (made : Bytes → Bytes → α) (part : Bytes) (front : List Bytes)
    (count : Nat) : Oracle.NamedScan α where
  items := records size (fun record => made record ((nameOf record).text strings)) part count
  names := front ++ records size (fun record => (nameOf record).text strings) part count

theorem round_eq_ok {made : Bytes → α} {front : List NameRef} {checked : Outcome Error α} {rule : Prop}
    (known : ∀ item, checked = .ok item ↔ rule ∧ item = made (recordAt part size index)) {next : NamedScan α} :
    (checked >>= fun item =>
      nameRef strings ((recordAt part size index).word 8 4) ((recordAt part size index).word 12 2) >>= fun name =>
        pushName (scanned size made part front index).names name strings >>= fun names =>
          pure ⟨(scanned size made part front index).items ++ [item], names⟩) = .ok next ↔
      (rule ∧ Fresh strings (front.map (NameRef.text strings)) (recordAt part size) index) ∧
        next = scanned size made part front (index + 1) := by
  have names : (scanned size made part front index).names =
      front ++ (range index).map (fun earlier => nameOf (recordAt part size earlier)) := rfl
  have longer : scanned size made part front (index + 1) =
      ⟨(scanned size made part front index).items ++ [made (recordAt part size index)],
        front ++ (range (index + 1)).map (fun earlier => nameOf (recordAt part size earlier))⟩ := by
    unfold scanned
    rw [records_succ]
    rfl
  rw [bind_eq_ok_iff]
  simp only [known, push_eq_ok names, pure_eq_ok]
  rw [longer]
  constructor
  · rintro ⟨_, ⟨rule, rfl⟩, fresh, same⟩
    exact ⟨⟨rule, fresh⟩, same⟩
  · rintro ⟨⟨rule, fresh⟩, same⟩
    exact ⟨_, ⟨rule, rfl⟩, fresh, same⟩

variable {made : Bytes → Bytes → α} {front : List Bytes}

theorem Oracle.scanned_length : (Oracle.scanned strings size made part front count).items.length = count := by
  rw [Oracle.scanned, records_length]

theorem Oracle.scanned_items : (Oracle.scanned strings size made part front count).items =
      records size (fun record => made record ((nameOf record).text strings)) part count := rfl

theorem oracle_round_eq_ok {checked : Except Error Unit}
    {rule : Prop} (known : checked = .ok () ↔ rule) {next : Oracle.NamedScan α} :
    (checked >>= fun _ =>
      Oracle.readName strings ((recordAt part size index).word 8 4) ((recordAt part size index).word 12 2) >>=
        fun name => Oracle.addName (Oracle.scanned strings size made part front index).names name >>= fun names =>
          pure ⟨(Oracle.scanned strings size made part front index).items ++
            [made (recordAt part size index) name], names⟩) = .ok next ↔
      (rule ∧ Fresh strings front (recordAt part size) index) ∧
        next = Oracle.scanned strings size made part front (index + 1) := by
  have names : (Oracle.scanned strings size made part front index).names =
      front ++ (range index).map (fun earlier => (nameOf (recordAt part size earlier)).text strings) := rfl
  have longer : Oracle.scanned strings size made part front (index + 1) =
      ⟨(Oracle.scanned strings size made part front index).items ++
          [made (recordAt part size index) ((nameOf (recordAt part size index)).text strings)],
        front ++ (range (index + 1)).map (fun earlier => (nameOf (recordAt part size earlier)).text strings)⟩ := by
    unfold Oracle.scanned
    rw [records_succ]
    rfl
  rw [unit_bind_eq_ok, known, add_eq_ok names, pure_eq_ok, longer, and_assoc]

end Scans

section Services

variable {header : Header} {strings data part : Bytes} {kinds : List Nat} {count : Nat}

/-- What both parsers ask of the service of this index. -/
structure ServiceFits (header : Header) (kinds : List Nat) (strings : Bytes) (front : List Bytes) (part : Bytes)
    (index : Nat) : Prop where
  rule : ServiceRule header kinds index (recordAt part serviceBytes index)
  name : Fresh strings front (recordAt part serviceBytes) index

theorem parseServices_eq_ok {front : List NameRef} {scan : NamedScan ServiceMeta} :
    parseServices data header kinds strings front = .ok scan ↔
      Tabled data header.serviceOffset header.serviceCount serviceBytes ∧
        (∀ index < header.serviceCount, ServiceFits header kinds strings (front.map (NameRef.text strings))
          (header.services data) index) ∧ scan = scanned serviceBytes serviceMetaOf
          (header.services data) front header.serviceCount := by
  refine last_loop_eq_ok (fun _ => table_eq_ok) ?_ ?_
  · exact congrArg _ (append_nil front)
  · intro index _ _ next
    refine (round_eq_ok fun item => checkService_eq_ok).trans (and_congr_left fun _ => ?_)
    exact ⟨fun both => ⟨both.1, both.2⟩, fun both => ⟨both.rule, both.name⟩⟩

theorem oracle_parseServices_eq_ok {components : List Oracle.Component} {front : List Bytes}
    {scan : Oracle.NamedScan Oracle.Service} (same : components.map Oracle.Component.kind = kinds)
    (length : components.length = header.componentCount) :
    Oracle.parseServices data header components strings front = .ok scan ↔
      Tabled data header.serviceOffset header.serviceCount serviceBytes ∧
        (∀ index < header.serviceCount, ServiceFits header kinds strings front (header.services data) index) ∧
        scan = Oracle.scanned strings serviceBytes Oracle.serviceOf
          (header.services data) front header.serviceCount := by
  refine last_loop_eq_ok (fun _ => oracle_table_eq_ok) ?_ ?_
  · exact congrArg _ (append_nil front)
  · intro index _ _ next
    refine (oracle_round_eq_ok (oracle_checkService_eq_ok same length)).trans (and_congr_left fun _ => ?_)
    exact ⟨fun both => ⟨both.1, both.2⟩, fun both => ⟨both.rule, both.name⟩⟩

end Services

section Dependencies

variable {header : Header} {data part : Bytes} {index : Nat}

/-- The pair of services of a dependency, and before the first one two services that there are not. -/
def pairBefore (part : Bytes) : Nat → Nat × Nat
  | 0 => (0, 0)
  | index + 1 => ((recordAt part dependencyBytes index).word 0 4, (recordAt part dependencyBytes index).word 4 4)

/-- What both parsers ask of the dependency of this index. -/
structure DependencyRule (serviceCount : Nat) (before : Nat × Nat) (record : Bytes) : Prop where
  ordered : pairLess before (record.word 0 4, record.word 4 4)
  apart : record.word 0 4 ≠ record.word 4 4
  dependent : record.word 0 4 ≠ 0 ∧ record.word 0 4 ≤ serviceCount
  prerequisite : record.word 4 4 ≠ 0 ∧ record.word 4 4 ≤ serviceCount
  kind : record.word 8 2 ∈ [dependencyStrong, dependencyWeak] ∧ record.word 10 2 = 0 ∧ record.word 12 4 = 0

def dependencyMetaOf (record : Bytes) : DependencyMeta := ⟨record.word 0 4, record.word 4 4, record.word 8 2⟩

def Oracle.dependencyOf (record : Bytes) : Oracle.Dependency := ⟨record.word 0 4, record.word 4 4, record.word 8 2⟩

/-- What the loop over the dependencies has collected. -/
def scannedPairs {α : Type} (made : Bytes → α) (part : Bytes) (count : Nat) : List α × (Nat × Nat) :=
  (records dependencyBytes made part count, pairBefore part count)

theorem scannedPairs_succ {α : Type} {made : Bytes → α} : scannedPairs made part (index + 1) =
    ((scannedPairs made part index).1 ++ [made (recordAt part dependencyBytes index)],
      ((recordAt part dependencyBytes index).word 0 4, (recordAt part dependencyBytes index).word 4 4)) := by
  unfold scannedPairs
  rw [records_succ]
  rfl

theorem parseDependency_eq_ok {next : List DependencyMeta × (Nat × Nat)} :
    parseDependency header part (scannedPairs dependencyMetaOf part index) index = .ok next ↔
      DependencyRule header.serviceCount (pairBefore part index) (recordAt part dependencyBytes index) ∧
        next = scannedPairs dependencyMetaOf part (index + 1) := by
  unfold parseDependency
  rw [← recordAt, scannedPairs_succ]
  simp only [check, demand_bind_eq_ok, pure_eq_ok]
  constructor
  · rintro ⟨⟨ordered, apart, dependent, prerequisite, below, bound⟩, kind, same⟩
    exact ⟨⟨ordered, apart, ⟨dependent, below⟩, ⟨prerequisite, bound⟩, kind⟩, same⟩
  · rintro ⟨⟨ordered, apart, ⟨dependent, below⟩, ⟨prerequisite, bound⟩, kind⟩, same⟩
    exact ⟨⟨ordered, apart, dependent, prerequisite, below, bound⟩, kind, same⟩

theorem oracle_parseDependency_eq_ok {next : List Oracle.Dependency × (Nat × Nat)} :
    Oracle.parseDependency header.serviceCount part (scannedPairs Oracle.dependencyOf part index) index = .ok next ↔
      DependencyRule header.serviceCount (pairBefore part index) (recordAt part dependencyBytes index) ∧
        next = scannedPairs Oracle.dependencyOf part (index + 1) := by
  unfold Oracle.parseDependency
  rw [← recordAt, scannedPairs_succ]
  simp only [Oracle.check, demand_bind_eq_ok, pure_eq_ok, one_le_iff_ne_zero]
  constructor
  · rintro ⟨⟨ordered, apart, dependent, prerequisite⟩, kind, same⟩
    exact ⟨⟨ordered, apart, dependent, prerequisite, kind⟩, same⟩
  · rintro ⟨⟨ordered, apart, dependent, prerequisite, kind⟩, same⟩
    exact ⟨⟨ordered, apart, dependent, prerequisite⟩, kind, same⟩

theorem parseDependencies_eq_ok {items : List DependencyMeta} : parseDependencies data header = .ok items ↔
    Tabled data header.dependencyOffset header.dependencyCount dependencyBytes ∧
      (∀ index < header.dependencyCount, DependencyRule header.serviceCount
        (pairBefore (header.dependencies data) index) (recordAt (header.dependencies data) dependencyBytes index)) ∧
      items = (scannedPairs dependencyMetaOf (header.dependencies data) header.dependencyCount).1 := by
  refine Iff.trans (loop_eq_ok (fun _ => table_eq_ok) (show scannedPairs dependencyMetaOf _ 0 = _ from rfl)
    (fun index _ _ next => parseDependency_eq_ok)) ?_
  rw [pure_eq_ok]
  rfl

theorem oracle_parseDependencies_eq_ok {items : List Oracle.Dependency} :
    Oracle.parseDependencies data header header.serviceCount = .ok items ↔
      Tabled data header.dependencyOffset header.dependencyCount dependencyBytes ∧
        (∀ index < header.dependencyCount, DependencyRule header.serviceCount
          (pairBefore (header.dependencies data) index) (recordAt (header.dependencies data) dependencyBytes index)) ∧
        items = (scannedPairs Oracle.dependencyOf (header.dependencies data) header.dependencyCount).1 := by
  refine Iff.trans (loop_eq_ok (fun _ => oracle_table_eq_ok) (show scannedPairs Oracle.dependencyOf _ 0 = _ from rfl)
    (fun index _ _ next => oracle_parseDependency_eq_ok)) ?_
  rw [pure_eq_ok]
  rfl

end Dependencies

section Resources

variable {header : Header} {strings data record : Bytes} {index kind : Nat}

/-- What both parsers ask of a resource. -/
structure ResourceRule (serviceCount index : Nat) (record : Bytes) : Prop where
  fields : record.word 0 4 = index + 1 ∧ record.word 4 4 ≤ serviceCount ∧ record.word 20 4 = 0 ∧
    record.word 44 4 = 0
  limited : ∃ limit, resourceLimit (record.word 14 2) = some limit ∧ record.word 32 8 ≤ limit
  known : without (record.word 16 4) resourceKnownFlags = 0 ∧ record.word 16 4 &&& resourceRevocable ≠ 0
  shared : ¬ (record.word 16 4 &&& resourceShareable ≠ 0 ↔ record.word 16 4 &&& resourceExclusive ≠ 0)
  zeroed : ¬ (record.word 14 2 ≠ resourceMemoryPages ∧ record.word 16 4 &&& resourceZeroOnRevoke ≠ 0)
  bounds : record.word 24 8 ≠ 0 ∧ record.word 24 8 ≤ record.word 32 8
  generation : record.word 40 4 ≠ 0
  single : ¬ (record.word 14 2 ∈ [resourceAddressSpace, resourceLogSink] ∧
    (record.word 24 8 ≠ 1 ∨ record.word 32 8 ≠ 1))

/-- The kinds with a limit are the known ones. -/
theorem resourceLimit_eq_some {limit : Nat} : resourceLimit kind = some limit ↔
    kind ∈ Oracle.resourceKinds ∧ limit = (Oracle.resourceMaximums.lookup kind).getD 0 := by
  by_cases known : kind ∈ Oracle.resourceKinds
  · have found : resourceLimit kind = some ((Oracle.resourceMaximums.lookup kind).getD 0) := by
      simp only [Oracle.resourceKinds, mem_cons, not_mem_nil, or_false] at known
      rcases known with rfl | rfl | rfl | rfl | rfl <;> rfl
    rw [found, Option.some.injEq]
    exact ⟨fun same => ⟨known, same.symm⟩, fun both => both.2.symm⟩
  · have none : resourceLimit kind = none := by
      simp only [Oracle.resourceKinds, mem_cons, not_mem_nil, or_false, not_or] at known
      obtain ⟨memory, threads, endpoints, space, sink⟩ := known
      rw [resourceLimit, if_neg memory, if_neg threads, if_neg endpoints, if_neg (by simp [space, sink])]
    rw [none]
    exact ⟨nofun, fun both => absurd both.1 known⟩

theorem resourceRights_eq : (Oracle.resourceRights.lookup kind).getD 0 = resourceRights kind := by
  by_cases known : kind ∈ Oracle.resourceKinds
  · simp only [Oracle.resourceKinds, mem_cons, not_mem_nil, or_false] at known
    rcases known with rfl | rfl | rfl | rfl | rfl <;> rfl
  · simp only [Oracle.resourceKinds, mem_cons, not_mem_nil, or_false, not_or] at known
    obtain ⟨memory, threads, endpoints, space, sink⟩ := known
    have absent : Oracle.resourceRights.lookup kind = none := by
      simp [Oracle.resourceRights, memory, threads, endpoints, space, sink]
    rw [absent, resourceRights, if_neg (by simp [memory, threads, endpoints]), if_neg space, if_neg sink]
    rfl

def resourceMetaOf (record : Bytes) : ResourceMeta := ⟨record.word 4 4, record.word 14 2⟩

theorem checkResource_eq_ok {item : ResourceMeta} : checkResource header index record = .ok item ↔
    ResourceRule header.serviceCount index record ∧ item = resourceMetaOf record := by
  unfold checkResource orRefuse
  simp only [check, demand_bind_eq_ok]
  rw [bind_eq_ok_iff]
  simp only [orError_eq_ok, demand_bind_eq_ok, pure_eq_ok]
  constructor
  · rintro ⟨fields, limit, found, ⟨known, revocable, shared, zeroed⟩, ⟨some, ordered, below, generation, single⟩, rfl⟩
    exact ⟨⟨fields, ⟨limit, found, below⟩, ⟨known, revocable⟩, shared, zeroed, ⟨some, ordered⟩, generation,
      single⟩, rfl⟩
  · rintro ⟨⟨fields, ⟨limit, found, below⟩, ⟨known, revocable⟩, shared, zeroed, ⟨some, ordered⟩, generation,
      single⟩, rfl⟩
    exact ⟨fields, limit, found, ⟨known, revocable, shared, zeroed⟩, ⟨some, ordered, below, generation, single⟩, rfl⟩

theorem oracle_checkResource_eq_ok : Oracle.checkResource header.serviceCount index record = .ok () ↔
    ResourceRule header.serviceCount index record := by
  unfold Oracle.checkResource
  simp only [Oracle.check, unit_bind_eq_ok, demand_eq_ok]
  simp only [Oracle.resourceOf, ne_eq, Prod.mk.injEq, not_and_or]
  constructor
  · rintro ⟨⟨identity, provider, kind, middle, last⟩, known, shared, zeroed, ⟨some, ordered, below, generation⟩, single⟩
    exact ⟨⟨identity, provider, middle, last⟩, ⟨_, resourceLimit_eq_some.mpr ⟨kind, rfl⟩, below⟩, known, shared,
      by simpa only [not_and_or] using zeroed, ⟨some, ordered⟩, generation, by simpa only [not_and_or] using single⟩
  · rintro ⟨⟨identity, provider, middle, last⟩, ⟨limit, found, below⟩, known, shared, zeroed, ⟨some, ordered⟩,
      generation, single⟩
    obtain ⟨kind, rfl⟩ := resourceLimit_eq_some.mp found
    exact ⟨⟨identity, provider, kind, middle, last⟩, known, shared, by simpa only [not_and_or] using zeroed,
      ⟨some, ordered, below, generation⟩, by simpa only [not_and_or] using single⟩

variable {part : Bytes} {count : Nat}

/-- What both parsers ask of the resource of this index. -/
structure ResourceFits (serviceCount : Nat) (strings : Bytes) (front : List Bytes) (part : Bytes)
    (index : Nat) : Prop where
  rule : ResourceRule serviceCount index (recordAt part resourceBytes index)
  name : Fresh strings front (recordAt part resourceBytes) index

theorem parseResources_eq_ok {front : List NameRef} {scan : NamedScan ResourceMeta} :
    parseResources data header strings front = .ok scan ↔
      Tabled data header.resourceOffset header.resourceCount resourceBytes ∧
        (∀ index < header.resourceCount, ResourceFits header.serviceCount strings (front.map (NameRef.text strings))
          (header.resources data) index) ∧ scan = scanned resourceBytes resourceMetaOf
          (header.resources data) front header.resourceCount := by
  refine last_loop_eq_ok (fun _ => table_eq_ok) ?_ ?_
  · exact congrArg _ (append_nil front)
  · intro index _ _ next
    refine (round_eq_ok fun item => checkResource_eq_ok).trans (and_congr_left fun _ => ?_)
    exact ⟨fun both => ⟨both.1, both.2⟩, fun both => ⟨both.rule, both.name⟩⟩

theorem oracle_parseResources_eq_ok {front : List Bytes} {scan : Oracle.NamedScan Oracle.Resource} :
    Oracle.parseResources data header header.serviceCount strings front = .ok scan ↔
      Tabled data header.resourceOffset header.resourceCount resourceBytes ∧
        (∀ index < header.resourceCount, ResourceFits header.serviceCount strings front (header.resources data) index) ∧
        scan = Oracle.scanned strings resourceBytes Oracle.resourceOf
          (header.resources data) front header.resourceCount := by
  refine last_loop_eq_ok (fun _ => oracle_table_eq_ok) ?_ ?_
  · exact congrArg _ (append_nil front)
  · intro index _ _ next
    refine (oracle_round_eq_ok oracle_checkResource_eq_ok).trans (and_congr_left fun _ => ?_)
    exact ⟨fun both => ⟨both.1, both.2⟩, fun both => ⟨both.rule, both.name⟩⟩

end Resources

section Capabilities

variable {header : Header} {resources part data : Bytes} {index : Nat}

/-- What both parsers ask of a capability, given the tables of the resources and of the capabilities. -/
structure CapabilityRule (header : Header) (resources part : Bytes) (index : Nat) (record : Bytes) : Prop where
  fields : record.word 0 4 = index + 1 ∧ record.word 8 4 ≠ 0 ∧ record.word 8 4 ≤ header.serviceCount ∧
    record.word 12 4 ≠ 0 ∧ record.word 12 4 ≤ header.resourceCount ∧ Bytes.allZero (record.drop 40)
  parent : record.word 4 4 < record.word 0 4
  rights : record.word 16 8 ≠ 0 ∧ without (record.word 16 8)
    (resourceRights ((recordAt resources resourceBytes (record.word 12 4 - 1)).word 14 2)) = 0
  flags : without (record.word 24 4) capKnownFlags = 0 ∧
    record.word 24 4 &&& (capRevocable ||| capLifecycleBound) = capRevocable ||| capLifecycleBound
  lifecycle : record.word 28 4 ≠ 0 ∧ record.word 32 4 = 0 ∧ record.word 36 2 ≤ maxCapabilities
  availability : record.word 38 2 ∈ [availabilityRequired, availabilityOptional]
  source : record.word 4 4 = 0 →
    (recordAt resources resourceBytes (record.word 12 4 - 1)).word 4 4 = 0 ∧
        record.word 8 4 = header.rootServiceId ∨
      (recordAt resources resourceBytes (record.word 12 4 - 1)).word 4 4 ≠ 0 ∧
        (record.word 8 4 = header.rootServiceId ∨
          record.word 8 4 = (recordAt resources resourceBytes (record.word 12 4 - 1)).word 4 4)
  derived : record.word 4 4 ≠ 0 →
    ((recordAt part capabilityBytes (record.word 4 4 - 1)).word 24 4 &&& capDerivable ≠ 0 ∧
      (recordAt part capabilityBytes (record.word 4 4 - 1)).word 12 4 = record.word 12 4 ∧
      without (record.word 16 8) ((recordAt part capabilityBytes (record.word 4 4 - 1)).word 16 8) = 0) ∧
    record.word 28 4 = (recordAt part capabilityBytes (record.word 4 4 - 1)).word 28 4 ∧
    ¬ (record.word 38 2 = availabilityRequired ∧
      (recordAt part capabilityBytes (record.word 4 4 - 1)).word 38 2 ≠ availabilityRequired)

def capabilityMetaOf (record : Bytes) : CapabilityMeta where
  holder := record.word 8 4
  resource := record.word 12 4
  rights := record.word 16 8
  flags := record.word 24 4
  revokeGroup := record.word 28 4
  availability := record.word 38 2

theorem checkSource_eq_ok {resource : ResourceMeta} {holder : Nat} : checkSource header resource holder = .ok () ↔
    resource.provider = 0 ∧ holder = header.rootServiceId ∨
      resource.provider ≠ 0 ∧ (holder = header.rootServiceId ∨ holder = resource.provider) := by
  unfold checkSource
  rw [check, demand_eq_ok]
  grind

theorem checkParent_eq_ok {parent : CapabilityMeta} {resource rights revokeGroup availability : Nat} :
    checkParent parent resource rights revokeGroup availability = .ok () ↔
      (parent.flags &&& capDerivable ≠ 0 ∧ parent.resource = resource ∧ without rights parent.rights = 0) ∧
        revokeGroup = parent.revokeGroup ∧
        ¬ (availability = availabilityRequired ∧ parent.availability ≠ availabilityRequired) := by
  unfold checkParent
  simp only [check, demand_bind_eq_ok, demand_eq_ok]

theorem parseCapability_eq_ok {next : List CapabilityMeta} :
    parseCapability header (records resourceBytes resourceMetaOf resources header.resourceCount) part
        (records capabilityBytes capabilityMetaOf part index) index = .ok next ↔
      CapabilityRule header resources part index (recordAt part capabilityBytes index) ∧
        next = records capabilityBytes capabilityMetaOf part (index + 1) := by
  unfold parseCapability
  rw [← recordAt, records_succ]
  simp only [check, unit_bind_eq_ok, demand_eq_ok, ite_bind_eq_ok, checkSource_eq_ok, checkParent_eq_ok, pure_eq_ok]
  constructor
  · rintro ⟨fields, parent, rights, flags, lifecycle, availability, ⟨source, derived⟩, same⟩
    obtain ⟨identity, holder, held, resource, known, zero⟩ := fields
    rw [records_getD (by omega)] at rights source
    refine ⟨⟨⟨identity, holder, held, resource, known, zero⟩, parent, rights, flags, lifecycle, availability, source,
      fun child => ?_⟩, same⟩
    have above := derived child
    rw [records_getD (by omega)] at above
    exact above
  · rintro ⟨⟨⟨identity, holder, held, resource, known, zero⟩, parent, rights, flags, lifecycle, availability, source,
      derived⟩, same⟩
    rw [records_getD (by omega)]
    refine ⟨⟨identity, holder, held, resource, known, zero⟩, parent, rights, flags, lifecycle, availability,
      ⟨source, fun child => ?_⟩, same⟩
    rw [records_getD (by omega)]
    exact derived child

/-- A parent comes before its child. -/
theorem parent_earlier {record : Bytes} (identity : record.word 0 4 = index + 1)
    (parent : record.word 4 4 < record.word 0 4) (child : record.word 4 4 ≠ 0) : record.word 4 4 - 1 < index := by
  omega

theorem oracle_parseCapability_eq_ok {next : List Oracle.Capability} {name : Bytes → Bytes} :
    Oracle.parseCapability header header.serviceCount
        (records resourceBytes (fun record => Oracle.resourceOf record (name record)) resources header.resourceCount)
        part (records capabilityBytes Oracle.capabilityOf part index) index = .ok next ↔
      CapabilityRule header resources part index (recordAt part capabilityBytes index) ∧
        next = records capabilityBytes Oracle.capabilityOf part (index + 1) := by
  unfold Oracle.parseCapability
  rw [← recordAt, records_succ]
  simp only [Oracle.check, demand_bind_eq_ok, ite_eq_ok, pure_eq_ok, resourceRights_eq, records_length]
  have held : ∀ {holder provider : Nat}, (holder ∈ [header.rootServiceId, provider] ∧
      ¬ (provider = 0 ∧ holder ≠ header.rootServiceId)) ↔ provider = 0 ∧ holder = header.rootServiceId ∨
        provider ≠ 0 ∧ (holder = header.rootServiceId ∨ holder = provider) := by
    grind
  rw [held]
  constructor
  · rintro ⟨⟨identity, holder, held, resource, known, zero⟩, parent, rights, flags, lifecycle, availability,
      source, derived⟩
    rw [records_getD (lt_of_lt_of_le (sub_one_lt resource) known)] at rights source
    by_cases child : (recordAt part capabilityBytes index).word 4 4 = 0
    · exact ⟨⟨⟨identity, holder, held, resource, known, zero⟩, parent, rights, flags, lifecycle, availability,
        fun _ => (source child).1, fun other => absurd child other⟩, (source child).2⟩
    · have above := derived child
      have earlier : (Oracle.capabilityOf (recordAt part capabilityBytes index)).parentId - 1 < index :=
        parent_earlier identity parent child
      rw [records_getD earlier] at above
      exact ⟨⟨⟨identity, holder, held, resource, known, zero⟩, parent, rights, flags, lifecycle, availability,
        fun other => absurd other child, fun _ => ⟨above.1, above.2.1, above.2.2.1⟩⟩, above.2.2.2⟩
  · rintro ⟨⟨⟨identity, holder, held, resource, known, zero⟩, parent, rights, flags, lifecycle, availability, source,
      derived⟩, same⟩
    have place : (Oracle.capabilityOf (recordAt part capabilityBytes index)).resourceId - 1 < header.resourceCount :=
      lt_of_lt_of_le (sub_one_lt resource) known
    rw [records_getD place]
    refine ⟨⟨identity, holder, held, resource, known, zero⟩, parent, rights, flags, lifecycle, availability,
      fun root => ⟨source root, same⟩, fun child => ?_⟩
    have earlier : (Oracle.capabilityOf (recordAt part capabilityBytes index)).parentId - 1 < index :=
      parent_earlier identity parent child
    rw [records_getD earlier]
    obtain ⟨attenuated, revoked, available⟩ := derived child
    exact ⟨attenuated, revoked, available, same⟩

theorem parseCapabilities_eq_ok {items : List CapabilityMeta} :
    parseCapabilities data header (records resourceBytes resourceMetaOf resources header.resourceCount) = .ok items ↔
      Tabled data header.capabilityOffset header.capabilityCount capabilityBytes ∧
        (∀ index < header.capabilityCount, CapabilityRule header resources (header.capabilities data) index
          (recordAt (header.capabilities data) capabilityBytes index)) ∧
        items = records capabilityBytes capabilityMetaOf (header.capabilities data) header.capabilityCount := by
  exact last_loop_eq_ok (fun _ => table_eq_ok) (show records capabilityBytes capabilityMetaOf _ 0 = _ from rfl)
    (fun index _ _ next => parseCapability_eq_ok)

theorem oracle_parseCapabilities_eq_ok {items : List Oracle.Capability} {name : Bytes → Bytes} :
    Oracle.parseCapabilities data header header.serviceCount
        (records resourceBytes (fun record => Oracle.resourceOf record (name record)) resources
          header.resourceCount) = .ok items ↔
      Tabled data header.capabilityOffset header.capabilityCount capabilityBytes ∧
        (∀ index < header.capabilityCount, CapabilityRule header resources (header.capabilities data) index
          (recordAt (header.capabilities data) capabilityBytes index)) ∧
        items = records capabilityBytes Oracle.capabilityOf (header.capabilities data) header.capabilityCount := by
  exact last_loop_eq_ok (fun _ => oracle_table_eq_ok)
    (show records capabilityBytes Oracle.capabilityOf _ 0 = _ from rfl)
    (fun index _ _ next => oracle_parseCapability_eq_ok)

end Capabilities

section Whole

variable {sha : Sha256} {data strings blob : Bytes} {header : Header}

/-- What both parsers ask of the five tables. -/
structure TablesFit (sha : Sha256) (data : Bytes) (header : Header) (strings blob : Bytes) : Prop where
  componentTable : Tabled data header.componentOffset header.componentCount componentBytes
  components : ComponentsFit sha strings blob (header.components data) header.componentCount
  serviceTable : Tabled data header.serviceOffset header.serviceCount serviceBytes
  services : ∀ index < header.serviceCount, ServiceFits header
    (records componentBytes (Bytes.word · 4 2) (header.components data) header.componentCount) strings
    ((header.componentNames data).map (NameRef.text strings)) (header.services data) index
  dependencyTable : Tabled data header.dependencyOffset header.dependencyCount dependencyBytes
  dependencies : ∀ index < header.dependencyCount, DependencyRule header.serviceCount
    (pairBefore (header.dependencies data) index) (recordAt (header.dependencies data) dependencyBytes index)
  resourceTable : Tabled data header.resourceOffset header.resourceCount resourceBytes
  resources : ∀ index < header.resourceCount, ResourceFits header.serviceCount strings
    ((header.componentNames data ++ header.serviceNames data).map (NameRef.text strings)) (header.resources data) index
  capabilityTable : Tabled data header.capabilityOffset header.capabilityCount capabilityBytes
  capabilities : ∀ index < header.capabilityCount, CapabilityRule header (header.resources data)
    (header.capabilities data) index (recordAt (header.capabilities data) capabilityBytes index)

/-- What the native parser makes of the tables. -/
def tablesOf (data : Bytes) (header : Header) : Tables where
  services := records serviceBytes serviceMetaOf (header.services data) header.serviceCount
  dependencies := records dependencyBytes dependencyMetaOf (header.dependencies data) header.dependencyCount
  resources := records resourceBytes resourceMetaOf (header.resources data) header.resourceCount
  capabilities := records capabilityBytes capabilityMetaOf (header.capabilities data) header.capabilityCount
  names := header.names data

def Oracle.tablesOf (data : Bytes) (header : Header) (strings blob : Bytes) : Oracle.Tables where
  components := records componentBytes (componentOf strings blob) (header.components data) header.componentCount
  services := records serviceBytes (fun record => Oracle.serviceOf record ((nameOf record).text strings))
    (header.services data) header.serviceCount
  dependencies := records dependencyBytes Oracle.dependencyOf (header.dependencies data) header.dependencyCount
  resources := records resourceBytes (fun record => Oracle.resourceOf record ((nameOf record).text strings))
    (header.resources data) header.resourceCount
  capabilities := records capabilityBytes Oracle.capabilityOf (header.capabilities data) header.capabilityCount
  names := header.texts data strings

theorem parseTables_eq_ok {tables : Tables} : parseTables sha data header strings blob = .ok tables ↔
    TablesFit sha data header strings blob ∧ tables = tablesOf data header := by
  constructor
  · intro ran
    obtain ⟨components, first, ran⟩ := bind_eq_ok ran
    obtain ⟨componentTable, componentsFit, rfl⟩ := parseComponents_eq_ok.mp first
    obtain ⟨services, second, ran⟩ := bind_eq_ok ran
    obtain ⟨serviceTable, servicesFit, rfl⟩ := parseServices_eq_ok.mp second
    obtain ⟨dependencies, third, ran⟩ := bind_eq_ok ran
    obtain ⟨dependencyTable, dependenciesFit, rfl⟩ := parseDependencies_eq_ok.mp third
    obtain ⟨resources, fourth, ran⟩ := bind_eq_ok ran
    obtain ⟨resourceTable, resourcesFit, rfl⟩ := parseResources_eq_ok.mp fourth
    obtain ⟨capabilities, fifth, ran⟩ := bind_eq_ok ran
    obtain ⟨capabilityTable, capabilitiesFit, rfl⟩ := parseCapabilities_eq_ok.mp fifth
    exact ⟨⟨componentTable, componentsFit, serviceTable, servicesFit, dependencyTable, dependenciesFit,
      resourceTable, resourcesFit, capabilityTable, capabilitiesFit⟩, pure_eq_ok.mp ran⟩
  · rintro ⟨fit, rfl⟩
    refine bind_eq_ok_iff.mpr ⟨_, parseComponents_eq_ok.mpr ⟨fit.componentTable, fit.components, rfl⟩, ?_⟩
    refine bind_eq_ok_iff.mpr ⟨_, parseServices_eq_ok.mpr ⟨fit.serviceTable, fit.services, rfl⟩, ?_⟩
    refine bind_eq_ok_iff.mpr ⟨_, parseDependencies_eq_ok.mpr ⟨fit.dependencyTable, fit.dependencies, rfl⟩, ?_⟩
    refine bind_eq_ok_iff.mpr ⟨_, parseResources_eq_ok.mpr ⟨fit.resourceTable, fit.resources, rfl⟩, ?_⟩
    exact bind_eq_ok_iff.mpr ⟨_, parseCapabilities_eq_ok.mpr ⟨fit.capabilityTable, fit.capabilities, rfl⟩, rfl⟩

theorem oracle_parseTables_eq_ok {tables : Oracle.Tables} :
    Oracle.parseTables sha data header strings blob = .ok tables ↔
      TablesFit sha data header strings blob ∧ tables = Oracle.tablesOf data header strings blob := by
  have kinds : (records componentBytes (componentOf strings blob) (header.components data)
      header.componentCount).map Oracle.Component.kind =
        records componentBytes (Bytes.word · 4 2) (header.components data) header.componentCount := records_map
  have one : (header.componentNames data).map (NameRef.text strings) = records componentBytes
      (fun record => (nameOf record).text strings) (header.components data) header.componentCount := records_map
  have two : (header.componentNames data ++ header.serviceNames data).map (NameRef.text strings) =
      records componentBytes (fun record => (nameOf record).text strings) (header.components data)
          header.componentCount ++
        records serviceBytes (fun record => (nameOf record).text strings) (header.services data)
          header.serviceCount := by
    rw [map_append, one]
    exact congrArg _ records_map
  have all : header.texts data strings = records componentBytes (fun record => (nameOf record).text strings)
        (header.components data) header.componentCount ++
      records serviceBytes (fun record => (nameOf record).text strings) (header.services data)
        header.serviceCount ++
      records resourceBytes (fun record => (nameOf record).text strings) (header.resources data)
        header.resourceCount := by
    rw [Header.texts, Header.names, map_append, two]
    exact congrArg _ records_map
  constructor
  · intro ran
    obtain ⟨components, first, ran⟩ := bind_eq_ok ran
    obtain ⟨componentTable, componentsFit, rfl⟩ := oracle_parseComponents_eq_ok.mp first
    obtain ⟨services, second, ran⟩ := bind_eq_ok ran
    obtain ⟨serviceTable, servicesFit, rfl⟩ := (oracle_parseServices_eq_ok kinds records_length).mp second
    obtain ⟨dependencies, third, ran⟩ := bind_eq_ok ran
    rw [Oracle.scanned_length] at third ran
    obtain ⟨dependencyTable, dependenciesFit, rfl⟩ := oracle_parseDependencies_eq_ok.mp third
    obtain ⟨resources, fourth, ran⟩ := bind_eq_ok ran
    obtain ⟨resourceTable, resourcesFit, rfl⟩ := oracle_parseResources_eq_ok.mp fourth
    obtain ⟨capabilities, fifth, ran⟩ := bind_eq_ok ran
    rw [Oracle.scanned_items] at fifth
    obtain ⟨capabilityTable, capabilitiesFit, rfl⟩ := oracle_parseCapabilities_eq_ok.mp fifth
    refine ⟨⟨componentTable, componentsFit, serviceTable, ?_, dependencyTable, dependenciesFit,
      resourceTable, ?_, capabilityTable, capabilitiesFit⟩, ?_⟩
    · rw [one]
      exact servicesFit
    · rw [two]
      exact resourcesFit
    · rw [pure_eq_ok.mp ran, Oracle.tablesOf, all]
      rfl
  · rintro ⟨fit, rfl⟩
    have servicesFit := fit.services
    have resourcesFit := fit.resources
    rw [one] at servicesFit
    rw [two] at resourcesFit
    refine bind_eq_ok_iff.mpr ⟨_, oracle_parseComponents_eq_ok.mpr ⟨fit.componentTable, fit.components, rfl⟩, ?_⟩
    refine bind_eq_ok_iff.mpr ⟨_, (oracle_parseServices_eq_ok kinds records_length).mpr
      ⟨fit.serviceTable, servicesFit, rfl⟩, ?_⟩
    rw [Oracle.scanned_length]
    refine bind_eq_ok_iff.mpr ⟨_, oracle_parseDependencies_eq_ok.mpr ⟨fit.dependencyTable, fit.dependencies, rfl⟩, ?_⟩
    refine bind_eq_ok_iff.mpr ⟨_, oracle_parseResources_eq_ok.mpr ⟨fit.resourceTable, resourcesFit, rfl⟩, ?_⟩
    rw [Oracle.scanned_items]
    refine bind_eq_ok_iff.mpr ⟨_, oracle_parseCapabilities_eq_ok.mpr ⟨fit.capabilityTable, fit.capabilities, rfl⟩, ?_⟩
    rw [pure_eq_ok, Oracle.tablesOf, all]
    rfl

end Whole

end PooleOS.InitSys
