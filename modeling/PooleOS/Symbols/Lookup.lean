import PooleOS.Symbols.Model

/- The lookup of a symbol. The records of an accepted bundle lie one behind the other, so the
binary search finds the only record that holds the address, within its bound. -/
namespace PooleOS.Symbols

open Nat Function

variable {sha : Sha256} {bundle : Bundle} {data : Bytes} {target : Nat}

section Records

/-- The half-open range of the symbol holds the offset. -/
def Symbol.Holds (symbol : Symbol) (target : Nat) : Prop :=
  symbol.startOffset ≤ target ∧ target < symbol.startOffset + symbol.byteCount

/-- The symbols of the table, one behind the other. -/
structure Ordered (bundle : Bundle) (symbols : Nat → Symbol) (count : Nat) : Prop where
  reads : ∀ index < count, bundle.symbol index = .ok (symbols index)
  behind : ∀ index other, index < other → other < count →
    (symbols index).startOffset + (symbols index).byteCount ≤ (symbols other).startOffset

/-- The rounds before the cursor: the symbols so far, and where the last of them ends. -/
def Scanned (bundle : Bundle) (cursor : Nat) (scan : Scan) : Prop :=
  cursor ≤ bundle.symbolCount → ∃ symbols, Ordered bundle symbols cursor ∧
    ∀ index < cursor, (symbols index).startOffset + (symbols index).byteCount ≤ scan.previousSymbolEnd

theorem checkSymbol_ok {scan next : Scan} {index : Nat} (less : index < bundle.symbolCount)
    (passed : checkSymbol sha bundle scan index = .ok next) : ∃ symbol, bundle.symbol index = .ok symbol ∧
      (index ≠ 0 → scan.previousSymbolEnd ≤ symbol.startOffset) ∧
      next.previousSymbolEnd = symbol.startOffset + symbol.byteCount := by
  simp only [checkSymbol, checkedEnd, bind_eq_ok_iff, demand_eq_ok, ite_bind_eq_ok, pure_eq_ok] at passed
  obtain ⟨_, -, _, -, _, -, _, -, _, -, _, -, _, -, _, -, _, -, _, -, _, -, _, -, _, -, _, -, symbol, read, _, -, _, -,
    _, -, _, -, _, -, _, -, finish, ⟨_, -, sum⟩, _, follows, _, -, _, -, -, _, -, last⟩ := passed
  refine ⟨symbol, ?_, fun later => by omega, ?_⟩
  · unfold Bundle.symbol
    rw [demand_bind_eq_ok]
    exact ⟨less, read⟩
  · rw [last, sum]

theorem scanned_next {scan next : Scan} {cursor : Nat} (before : Scanned bundle cursor scan)
    (passed : checkSymbol sha bundle scan cursor = .ok next) : Scanned bundle (cursor + 1) next := by
  intro within
  obtain ⟨symbols, ⟨reads, behind⟩, ended⟩ := before (by omega)
  obtain ⟨symbol, read, follows, last⟩ := checkSymbol_ok within passed
  have same : ∀ index < cursor, update symbols cursor symbol index = symbols index :=
    fun index earlier => update_of_ne (Nat.ne_of_lt earlier) _ _
  refine ⟨update symbols cursor symbol, ⟨fun index earlier => ?_, fun index other less earlier => ?_⟩,
    fun index earlier => ?_⟩
  · rcases Nat.lt_succ_iff_lt_or_eq.mp earlier with old | rfl
    · rw [same index old]
      exact reads index old
    · rw [update_self]
      exact read
  · rw [same index (by omega)]
    rcases Nat.lt_succ_iff_lt_or_eq.mp earlier with old | rfl
    · rw [same other old]
      exact behind index other less old
    · rw [update_self]
      exact (ended index less).trans (follows (by omega))
  · rcases Nat.lt_succ_iff_lt_or_eq.mp earlier with old | rfl
    · rw [same index old, last]
      have finish := ended index old
      omega
    · rw [update_self, last]

/-- What an accepted bundle is known to be. -/
structure Accepted (bundle : Bundle) : Prop where
  few : bundle.symbolCount ≤ maxSymbols
  image : 0 < bundle.imageBytes ∧ bundle.imageBytes ≤ maxImageBytes
  window : bundle.preferredVirtualBase + bundle.imageBytes ≤ bundle.virtualWindowEndExclusive
  small : bundle.virtualWindowEndExclusive < 2 ^ 64
  ordered : ∃ symbols, Ordered bundle symbols bundle.symbolCount

theorem parseHeader_ok (passed : parseHeader sha data = .ok bundle) : bundle.symbolCount ≤ maxSymbols ∧
    (0 < bundle.imageBytes ∧ bundle.imageBytes ≤ maxImageBytes) ∧
    bundle.preferredVirtualBase + bundle.imageBytes ≤ bundle.virtualWindowEndExclusive ∧
    bundle.virtualWindowEndExclusive < 2 ^ 64 := by
  simp only [parseHeader, demand_bind_eq_ok, pure_eq_ok, not_or, not_not] at passed
  obtain ⟨-, -, -, -, -, -, -, -, -, -, -, -, ⟨-, -, few⟩, -, -, -, -, -, -, ⟨nonempty, small⟩, ⟨after, -, -, fits⟩, -, -, -,
    -, -, rfl⟩ := passed
  have wide := Bytes.word_lt data 96 8
  exact ⟨few, ⟨by dsimp only; omega, by dsimp only; omega⟩, by dsimp only; omega, wide⟩

theorem parse_accepted (parsed : parse sha data = .ok bundle) : Accepted bundle := by
  obtain ⟨header, passed, parsed⟩ := bind_eq_ok parsed
  obtain ⟨_, -, parsed⟩ := bind_eq_ok parsed
  obtain ⟨_, parsed⟩ := demand_bind_eq_ok.mp parsed
  obtain ⟨scan, ran, parsed⟩ := bind_eq_ok parsed
  simp only [demand_bind_eq_ok, pure_eq_ok] at parsed
  obtain ⟨_, _, rfl⟩ := parsed
  obtain ⟨few, image, window, small⟩ := parseHeader_ok passed
  have scanned : Spec ((List.range bundle.symbolCount).foldlM (checkSymbol sha bundle) ⟨0, 0, 0⟩)
      (Scanned bundle bundle.symbolCount) (fun _ => True) := by
    refine spec_foldlM_range (Scanned bundle) (fun cursor scan _ before => ?_) ?_
    · cases next : checkSymbol sha bundle scan cursor with
      | error => trivial
      | ok after => exact scanned_next before next
    · exact fun _ => ⟨fun _ => ⟨0, 0, 0, 0, 0, 0, 0, 0, 0, []⟩, ⟨nofun, nofun⟩, nofun⟩
  obtain ⟨symbols, ordered, _⟩ := scanned.of_ok ran le_rfl
  exact ⟨few, image, window, small, symbols, ordered⟩

end Records

section Search

/-- The reference: the only symbol whose range holds the offset, or nothing where there is none. -/
def Finds (bundle : Bundle) (target : Nat) : Option LookupResult → Prop
  | some found => found.symbol.Holds target ∧ found.symbolOffset = target - found.symbol.startOffset ∧
      ∃ index, bundle.symbol index = .ok found.symbol ∧
        ∀ other symbol, bundle.symbol other = .ok symbol → symbol.Holds target → other = index
  | none => ∀ index symbol, bundle.symbol index = .ok symbol → ¬ symbol.Holds target

variable {symbols : Nat → Symbol}

section

variable (ordered : Ordered bundle symbols bundle.symbolCount)
include ordered

theorem Ordered.only {other : Nat} {symbol : Symbol}
    (read : bundle.symbol other = .ok symbol) : other < bundle.symbolCount ∧ symbol = symbols other := by
  have less : other < bundle.symbolCount := by
    exact (demand_bind_eq_ok.mp read).1
  rw [ordered.reads other less] at read
  exact ⟨less, (Except.ok.inj read).symm⟩

/-- Two symbols do not hold the same offset. -/
theorem Ordered.unique {index other : Nat}
    (less : index < bundle.symbolCount) (less' : other < bundle.symbolCount) (holds : (symbols index).Holds target)
    (holds' : (symbols other).Holds target) : other = index := by
  obtain ⟨start, finish⟩ := holds
  obtain ⟨start', finish'⟩ := holds'
  rcases lt_trichotomy index other with before | same | after
  · have behind := ordered.behind index other before less'
    omega
  · exact same.symm
  · have behind := ordered.behind other index after less
    omega

/-- The search between two indices: the symbols before them end before the offset, those from the upper
one on start behind it, and the steps left are enough for what lies between. -/
theorem search_finds {low high steps : Nat}
    (inside : high ≤ bundle.symbolCount)
    (below : ∀ index < low, (symbols index).startOffset + (symbols index).byteCount ≤ target)
    (above : ∀ index, high ≤ index → index < bundle.symbolCount → target < (symbols index).startOffset)
    (left : (high - low) * 2 ^ steps ≤ 4096) : ∃ result, search bundle target low high steps = .ok result ∧
      Finds bundle target result := by
  induction size : high - low using Nat.strong_induction_on generalizing low high steps with
  | _ size ih =>
    rw [search]
    by_cases more : low < high
    · have bound : steps < 13 := by
        by_contra late
        have power : 2 ^ 13 ≤ 2 ^ steps := Nat.pow_le_pow_right (by decide) (by omega)
        have product := mul_le_mul (by omega : 1 ≤ high - low) power
        omega
      have step : (high - low) / 2 * 2 ^ (steps + 1) ≤ 4096 := by
        have half := mul_le_mul_right (2 ^ steps) (by omega : (high - low) / 2 * 2 ≤ high - low)
        rw [pow_succ, ← mul_assoc, mul_right_comm]
        omega
      have less : low + (high - low) / 2 < bundle.symbolCount := by omega
      have enough : ¬ maxLookupSteps < steps + 1 := by
        unfold maxLookupSteps
        omega
      rw [if_pos more]
      unfold demand
      simp only [if_pos enough, ok_bind, ordered.reads _ less]
      split
      · rename_i before
        refine ih _ (by omega) (by omega) below (fun index from_ small => ?_) ?_ rfl
        · rcases eq_or_lt_of_le from_ with rfl | later
          · exact before
          · have behind := ordered.behind _ _ later small
            omega
        · rwa [Nat.add_sub_cancel_left]
      · split
        · rename_i after
          refine ih _ (by omega) inside (fun index earlier => ?_) above ?_ rfl
          · rcases Nat.lt_succ_iff_lt_or_eq.mp earlier with old | rfl
            · have behind := ordered.behind _ _ old less
              omega
            · exact after
          · exact (Nat.mul_le_mul_right _ (by omega)).trans step
        · have holds : (symbols (low + (high - low) / 2)).Holds target := ⟨by omega, by omega⟩
          refine ⟨_, rfl, holds, rfl, _, ordered.reads _ less, fun other symbol read within => ?_⟩
          obtain ⟨less', rfl⟩ := ordered.only read
          exact ordered.unique less less' holds within
    · rw [if_neg more]
      refine ⟨none, rfl, fun index symbol read holds => ?_⟩
      obtain ⟨less, rfl⟩ := ordered.only read
      obtain ⟨start, finish⟩ := holds
      rcases lt_or_ge index low with before | after
      · have ended := below index before
        omega
      · have begun := above index (by omega) less
        omega

end

theorem Accepted.search (accepted : Accepted bundle) (target : Nat) :
    ∃ result, search bundle target 0 bundle.symbolCount 0 = .ok result ∧ Finds bundle target result := by
  obtain ⟨symbols, ordered⟩ := accepted.ordered
  have few := accepted.few
  unfold maxSymbols at few
  exact search_finds ordered le_rfl nofun (fun index from_ less => by omega) (by omega)

/-- The lookup in an accepted bundle refuses the base or the address, or answers as the reference; and every
record of the table can be read. -/
theorem lookup_exact (sha : Sha256) (data : Bytes) : Spec (parse sha data) (fun bundle =>
    (∀ index < bundle.symbolCount, ∃ symbol, bundle.symbol index = .ok symbol) ∧
      ∀ runtimeBase runtimeAddress, lookup bundle runtimeBase runtimeAddress = .error .lookupBase ∨
        lookup bundle runtimeBase runtimeAddress = .error .lookupAddress ∨ ∃ result,
          lookup bundle runtimeBase runtimeAddress = .ok result ∧
            Finds bundle (runtimeAddress - runtimeBase) result) (fun _ => True) := by
  cases parsed : parse sha data with
  | error => trivial
  | ok bundle =>
    have accepted := parse_accepted parsed
    refine ⟨fun index less => ?_, fun runtimeBase runtimeAddress => ?_⟩
    · obtain ⟨symbols, ordered⟩ := accepted.ordered
      exact ⟨_, ordered.reads index less⟩
    · obtain ⟨result, ran, finds⟩ := accepted.search (runtimeAddress - runtimeBase)
      unfold lookup demand
      split
      · cases ended : checkedAdd (2 ^ 64) runtimeBase bundle.imageBytes with
        | none => exact .inr (.inl rfl)
        | some runtimeEnd =>
          simp only [orError, ok_bind]
          split
          · exact .inr (.inr ⟨result, ran, finds⟩)
          · exact .inr (.inl rfl)
      · exact .inl rfl

/-- The header of the smallest bundle of the repository, with a window that spans the hole between the
canonical halves: it starts a page below the hole. -/
def sampleHeader : Bytes :=
  Bytes.ofWord 32 0x100010001000100007fff000000300020018000000001000000314d595350 ++
  Bytes.ofWord 32 0x1a0000000000000018000000000000001e20000000100000001 ++
  Bytes.ofWord 32 0x7ffffffff0000000000000001000000000000000001200000000000001d0 ++
  Bytes.ofWord 32 0x10000000001000000000000000000000000000001000ffff800000001000 ++
  Bytes.ofWord 32 0x95122c3b72b3d432544ab48408f3594700000001000100010000000d0000007f ++
  Bytes.ofWord 32 0xa2fc950c5fe38b5b0ce0072f26a6696640b18878f84d9f3efbb70e4700a41566 ++
  Bytes.ofWord 32 0xdba82de5ffa541419b284b136dc95f2cc9268170613ef3e389eb2986efbd4310 ++
  Bytes.ofWord 32 0xda607c2b996880e130051c073af624c5107d0a58ad7ebcd3134cc529964f51dd ++
  Bytes.ofWord 32 0xa52e5e79d787bf902b54da870bc16d76d7c54ca399f17281518fe321050b9d85 ++
  Bytes.ofWord 32 0x713446e333758b36ed87f1c8ecf456f785fdc94f03bcb4ce44ff090fbebf0da3 ++
  Bytes.ofWord 32 0xc274730b89a24922b5d42734c5f64ac7 ++
  Bytes.ofWord 32 0x0

def sampleBody : Bytes :=
  Bytes.ofWord 32 0x100000000000000000000000000500020001 ++
  Bytes.ofWord 32 0x6b33c17d0000001200000000000b01000101000100000001 ++
  Bytes.ofWord 32 0x746e655f6c656e72656b5f656c6f6f7000000000000000000000000000000040 ++
  Bytes.ofWord 2 0x7972

def sampleBundle : Bytes := sampleHeader ++ sampleBody

def sampleSha : Sha256 :=
  .ofTable [(sampleBody, 0xc274730b89a24922b5d42734c5f64ac7713446e333758b36ed87f1c8ecf456f7),
    (entryName, 0x358304eac8553a7c3e5c4acca2211972b4a8c06fa923f95d5961c9d56b33c17d),
    (sampleBundle, 0x1a0d2b5fbb3f194651f6a50ac7fc44e35fde317e932161d355c65b7ee8560d4a)]

/-- The preferred base of that bundle is the address of a symbol. -/
theorem sampleBundle_lookup : ∃ bundle, parse sampleSha sampleBundle = .ok bundle ∧
    ∃ result, lookup bundle bundle.preferredVirtualBase bundle.preferredVirtualBase = .ok result ∧
      result.isSome = true ∧ Finds bundle 0 result := by
  obtain ⟨bundle, parsed, result, ran, found⟩ : ∃ bundle, parse sampleSha sampleBundle = .ok bundle ∧
      ∃ result, lookup bundle bundle.preferredVirtualBase bundle.preferredVirtualBase = .ok result ∧
        result.isSome = true := by decide +kernel
  have answers := (Spec.of_ok (lookup_exact _ _) parsed).2 bundle.preferredVirtualBase bundle.preferredVirtualBase
  simp only [ran, Nat.sub_self, reduceCtorEq, false_or, Except.ok.injEq, exists_eq_left'] at answers
  exact ⟨bundle, parsed, result, ran, found, answers⟩

end Search

section Consumption

theorem isCanonicalX8664_iff {value : Nat} (small : value < 2 ^ 64) :
    isCanonicalX8664 value ↔ value < 2 ^ 47 ∨ 2 ^ 64 - 2 ^ 47 ≤ value := by
  unfold isCanonicalX8664
  rw [and_one_is_mod, shiftRight_eq_div_pow, shiftRight_eq_div_pow]
  split <;> omega

theorem authorized_base {context : ConsumptionContext} (authorized : authorizeConsumption sha bundle context = .ok ()) :
    bundle.preferredVirtualBase ≤ context.runtimeBase ∧
      context.runtimeBase ≤ bundle.virtualWindowEndExclusive - bundle.imageBytes ∧
      (context.runtimeBase - bundle.preferredVirtualBase) % bundle.slideAlignment = 0 := by
  have passed := forM_eq_ok.mp authorized _ (List.mem_of_getElem? (i := 20) rfl)
  exact of_decide_eq_true (demand_eq_ok.mp passed)

/-- At a base of the window, an address of the image is looked up when it and the base are canonical. -/
theorem Accepted.lookup_iff (accepted : Accepted bundle) {base address : Nat}
    (within : bundle.preferredVirtualBase ≤ base ∧ base ≤ bundle.virtualWindowEndExclusive - bundle.imageBytes ∧
      (base - bundle.preferredVirtualBase) % bundle.slideAlignment = 0)
    (after : base ≤ address) (before : address < base + bundle.imageBytes) :
    (∃ result, lookup bundle base address = .ok result) ↔ isCanonicalX8664 base ∧ isCanonicalX8664 address := by
  obtain ⟨result, ran, _⟩ := accepted.search (address - base)
  have window := accepted.window
  have small := accepted.small
  have sum : checkedAdd (2 ^ 64) base bundle.imageBytes = some (base + bundle.imageBytes) :=
    checkedAdd_eq_some.mpr ⟨by omega, rfl⟩
  unfold lookup
  simp only [demand_bind_eq_ok, sum, orError, ok_bind, ran, ok_eq_ok]
  constructor
  · rintro ⟨_, based, addressed, _⟩
    simp only [not_or, not_not] at based addressed
    exact ⟨based.2.2.2, addressed.2.2⟩
  · rintro ⟨canonical, canonical'⟩
    refine ⟨result, ?_, ?_, rfl⟩
    · simp only [not_or, not_not]
      exact ⟨by omega, by omega, within.2.2, canonical⟩
    · simp only [not_or, not_not]
      exact ⟨by omega, by omega, canonical'⟩

/-- Every address of the image can be looked up after an authorized consumption when the first and the last one
are canonical, and only then. -/
theorem consumption_looks_up_iff (sha : Sha256) (data : Bytes) : Spec (parse sha data) (fun bundle =>
    ∀ context, authorizeConsumption sha bundle context = .ok () →
      ((∀ address, context.runtimeBase ≤ address → address < context.runtimeBase + bundle.imageBytes →
        ∃ result, lookup bundle context.runtimeBase address = .ok result) ↔
          isCanonicalX8664 context.runtimeBase ∧
            isCanonicalX8664 (context.runtimeBase + bundle.imageBytes - 1))) (fun _ => True) := by
  cases parsed : parse sha data with
  | error => trivial
  | ok bundle =>
    intro context authorized
    have accepted := parse_accepted parsed
    have within := authorized_base authorized
    obtain ⟨nonempty, most⟩ := accepted.image
    have small := accepted.small
    have limit : maxImageBytes = 67108864 := rfl
    constructor
    · intro all
      exact (accepted.lookup_iff within (by omega) (by omega)).mp
        (all (context.runtimeBase + bundle.imageBytes - 1) (by omega) (by omega))
    · rintro ⟨first, last⟩ address after before
      refine (accepted.lookup_iff within after before).mpr ⟨first, ?_⟩
      rw [isCanonicalX8664_iff (by omega)] at first last ⊢
      omega

/-- A consumption at the preferred base is authorized, and each address can be looked up. -/
theorem consumption_at_base : ∃ bundle, parse sampleSha sampleBundle = .ok bundle ∧
    ∀ address, bundle.preferredVirtualBase ≤ address → address < bundle.preferredVirtualBase + bundle.imageBytes →
      ∃ result, lookup bundle bundle.preferredVirtualBase address = .ok result := by
  obtain ⟨bundle, parsed, authorized, canonical⟩ : ∃ bundle, parse sampleSha sampleBundle = .ok bundle ∧
      authorizeConsumption sampleSha bundle (.syntheticQualified sampleSha bundle) = .ok () ∧
        isCanonicalX8664 bundle.preferredVirtualBase ∧
          isCanonicalX8664 (bundle.preferredVirtualBase + bundle.imageBytes - 1) := by decide +kernel
  exact ⟨bundle, parsed, ((consumption_looks_up_iff _ _).of_ok parsed _ authorized).mpr canonical⟩

/-- A consumption in the hole is authorized, and no address can be looked up. -/
theorem consumption_in_hole : ∃ bundle context, parse sampleSha sampleBundle = .ok bundle ∧
    context = { ConsumptionContext.syntheticQualified sampleSha bundle with runtimeBase := 2 ^ 47 } ∧
    authorizeConsumption sampleSha bundle context = .ok () ∧ 0 < bundle.imageBytes ∧
    lookup bundle context.runtimeBase (2 ^ 47) = .error .lookupBase := by
  obtain ⟨bundle, parsed, refused⟩ : ∃ bundle, parse sampleSha sampleBundle = .ok bundle ∧
      authorizeConsumption sampleSha bundle
        { ConsumptionContext.syntheticQualified sampleSha bundle with runtimeBase := 2 ^ 47 } = .ok () ∧
      0 < bundle.imageBytes ∧ lookup bundle (2 ^ 47) (2 ^ 47) = .error .lookupBase := by decide +kernel
  exact ⟨bundle, _, parsed, rfl, refused⟩

end Consumption

end PooleOS.Symbols
