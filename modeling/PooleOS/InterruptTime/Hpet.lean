import PooleOS.Lib.Op

/- The HPET clock of the kernel (`kernel/src/interrupt_time.rs`). It reads a counter of 32 or 64 bits that
wraps, and extends it to the time since the first reading. -/
namespace PooleOS.InterruptTime

open List Op Nat BitVec


inductive Error
  | counterWidth
  | hpetPeriod
  | counterDelta
  | counterRegression
  | timeOverflow
deriving DecidableEq, Repr

def femtosecondsPerNanosecond : Nat := 1000000
def u64Values : Nat := 2 ^ 64
def u128Values : Nat := 2 ^ 128

structure HpetClock where
  counterBits : Nat
  periodFemtoseconds : Nat
  mask : BitVec 64
  lastRaw : BitVec 64
  elapsedTicks : Nat
  maxSampleDelta : BitVec 64
deriving DecidableEq, Repr

namespace HpetClock

def new (counterBits periodFemtoseconds : Nat) (initialRaw maxSampleDelta : BitVec 64) : Except Error HpetClock := do
  demand (counterBits = 32 ∨ counterBits = 64) Error.counterWidth
  demand (100000 ≤ periodFemtoseconds ∧ periodFemtoseconds ≤ 100000000) Error.hpetPeriod
  let mask := if counterBits = 64 then 0xffffffffffffffff#64 else 0xffffffff#64
  demand (initialRaw &&& ~~~mask = 0 ∧ maxSampleDelta ≠ 0 ∧ maxSampleDelta ≤ mask / 2) Error.counterDelta
  return { counterBits, periodFemtoseconds, mask, lastRaw := initialRaw, elapsedTicks := 0, maxSampleDelta }

def sample (raw : BitVec 64) : Op HpetClock Error Nat := do
  let clock ← Op.read
  Op.ensure (raw &&& ~~~clock.mask = 0) .counterWidth
  let delta := (raw - clock.lastRaw) &&& clock.mask
  Op.ensure (delta ≠ 0 ∧ delta ≤ clock.maxSampleDelta)
    (if raw < clock.lastRaw ∧ clock.counterBits = 64 then .counterRegression else .counterDelta)
  let elapsedTicks ← Op.lift (orError (checkedAdd u128Values clock.elapsedTicks delta.toNat) .timeOverflow)
  Op.update ({ · with elapsedTicks })
  Op.update ({ · with lastRaw := raw })
  let femtoseconds ← Op.lift (orError (checkedMul u128Values elapsedTicks clock.periodFemtoseconds) .timeOverflow)
  let nanos := femtoseconds / femtosecondsPerNanosecond
  Op.ensure (nanos < u64Values) .timeOverflow
  return nanos

/-- The answers to readings taken one after the other. -/
def answers (clock : HpetClock) : List (BitVec 64) → List (Except Error Nat)
  | [] => []
  | raw :: rest => ((sample raw).run clock).1 :: answers ((sample raw).run clock).2 rest

end HpetClock

/-- What a counter of so many bits shows after so many ticks. -/
def reading (counterBits ticks : Nat) : BitVec 64 := BitVec.ofNat 64 (ticks % 2 ^ counterBits)

/-- The clock was created by `new` and has followed the counter from `start` to `now`. -/
structure Tracks (start now : Nat) (clock : HpetClock) : Prop where
  width : (clock.counterBits = 32 ∧ clock.mask = 0xffffffff#64) ∨
    (clock.counterBits = 64 ∧ clock.mask = 0xffffffffffffffff#64)
  half : clock.maxSampleDelta.toNat ≤ clock.mask.toNat / 2
  period : 0 < clock.periodFemtoseconds
  last : clock.lastRaw = reading clock.counterBits now
  ticks : start + clock.elapsedTicks = now

section Sample

variable {counterBits period start now ticks : Nat} {maxSampleDelta : BitVec 64} {clock : HpetClock}

theorem new_tracks (created : HpetClock.new counterBits period (reading counterBits start) maxSampleDelta = .ok clock) :
    Tracks start start clock ∧ clock.periodFemtoseconds = period ∧ clock.counterBits = counterBits ∧
      clock.maxSampleDelta = maxSampleDelta := by
  unfold HpetClock.new at created
  simp only [demand_bind_eq_ok] at created
  obtain ⟨width, period, ⟨-, -, half⟩, created⟩ := created
  cases created
  refine ⟨⟨?_, half, lt_of_lt_of_le (by decide) period.1, rfl, rfl⟩, rfl, rfl, rfl⟩
  rcases width with rfl | rfl
  · exact .inl ⟨rfl, rfl⟩
  · exact .inr ⟨rfl, rfl⟩

/-- The masked wrapping difference of two readings is the number of ticks between them. -/
theorem Tracks.delta (tracks : Tracks start now clock) (few : ticks ≤ clock.maxSampleDelta.toNat) :
    ((reading clock.counterBits (now + ticks) - clock.lastRaw) &&& clock.mask).toNat = ticks := by
  have half := tracks.half
  rw [tracks.last]
  rcases tracks.width with ⟨bits, mask⟩ | ⟨bits, mask⟩
  · have whole : (0xffffffff#64).toNat = 2 ^ 32 - 1 := rfl
    rw [mask, whole] at half
    rw [bits, mask, toNat_and, whole, and_two_pow_sub_one_eq_mod]
    simp only [reading, toNat_sub, toNat_ofNat]
    omega
  · have whole : (0xffffffffffffffff#64).toNat = 2 ^ 64 - 1 := rfl
    rw [bits, mask, toNat_and, whole, and_two_pow_sub_one_eq_mod]
    simp only [reading, toNat_sub, toNat_ofNat]
    omega

theorem Tracks.inside (tracks : Tracks start now clock) : reading clock.counterBits ticks &&& ~~~clock.mask = 0 := by
  rcases tracks.width with ⟨bits, mask⟩ | ⟨bits, mask⟩
  · have ones : ∀ place : Fin 64, place.val < 32 → (0xffffffff#64).getLsbD place.val = true := by decide
    rw [bits, mask, reading]
    apply eq_of_getLsbD_eq
    intro place inside
    rw [getLsbD_and, getLsbD_not, getLsbD_ofNat, testBit_mod_two_pow]
    by_cases low : place < 32
    · simp [ones ⟨place, inside⟩ low]
    · simp [low]
  · rw [mask]
    exact and_zero

/-- An accepted reading moves the clock on, and its answer is exact while it fits. -/
theorem Tracks.sample (tracks : Tracks start now clock) (some : 0 < ticks) (few : ticks ≤ clock.maxSampleDelta.toNat)
    (fits : (now + ticks - start) * clock.periodFemtoseconds / femtosecondsPerNanosecond < u64Values) :
    wp (HpetClock.sample (reading clock.counterBits (now + ticks)))
      (fun nanos next => nanos = (now + ticks - start) * clock.periodFemtoseconds / femtosecondsPerNanosecond ∧
        Tracks start (now + ticks) next ∧ next.periodFemtoseconds = clock.periodFemtoseconds ∧
        next.counterBits = clock.counterBits ∧ next.maxSampleDelta = clock.maxSampleDelta)
      (fun _ _ => False) clock := by
  have delta := tracks.delta few
  have since : now + ticks - start = clock.elapsedTicks + ticks := by
    have := tracks.ticks
    omega
  rw [since] at fits ⊢
  unfold HpetClock.sample
  simp only [wp_bind, wp_read, wp_update, wp_pure]
  refine wp_ensure_intro (fun _ => ?_) (fun outside => outside tracks.inside)
  refine wp_ensure_intro (fun _ => ?_) (fun refused => refused ⟨fun none => ?_, ?_⟩)
  · rw [delta]
    have whole : (clock.elapsedTicks + ticks) * clock.periodFemtoseconds < u128Values := by
      have below := (div_lt_iff_lt_mul (by decide)).mp fits
      unfold u64Values femtosecondsPerNanosecond at below
      unfold u128Values
      omega
    have counted : clock.elapsedTicks + ticks < u128Values :=
      Nat.lt_of_le_of_lt (Nat.le_mul_of_pos_right _ tracks.period) whole
    refine wp_orError (fun elapsed added => ?_) (fun missing => ?_)
    · obtain ⟨-, rfl⟩ := checkedAdd_eq_some.mp added
      refine wp_orError (fun femtoseconds multiplied => ?_) (fun missing => ?_)
      · obtain ⟨-, rfl⟩ := checkedMul_eq_some.mp multiplied
        refine wp_ensure_intro (fun _ => ?_) (fun large => large fits)
        refine ⟨rfl, ⟨tracks.width, tracks.half, tracks.period, rfl, ?_⟩, rfl, rfl, rfl⟩
        exact (add_assoc ..).symm.trans (congrArg (· + ticks) tracks.ticks)
      · unfold checkedMul at missing
        rw [if_pos whole] at missing
        cases missing
    · exact absurd (checkedAdd_eq_none.mp missing) (not_le.mpr counted)
  · rw [none] at delta
    exact absurd delta.symm (ne_of_gt some)
  · rw [le_def, delta]
    exact few

/-- A reading that is refused as invalid changes nothing. -/
theorem sample_refused (clock : HpetClock) (raw : BitVec 64) : wp (HpetClock.sample raw) (fun _ _ => True)
    (fun reason next => reason ≠ .timeOverflow → next = clock) clock := by
  unfold HpetClock.sample
  simp only [wp_bind, wp_read, wp_update, wp_pure]
  refine wp_ensure_intro (fun _ => ?_) (fun _ _ => rfl)
  refine wp_ensure_intro (fun _ => ?_) (fun _ _ => rfl)
  refine wp_orError (fun elapsed _ => ?_) (fun _ _ => rfl)
  refine wp_orError (fun femtoseconds _ => ?_) (fun _ late => absurd rfl late)
  exact wp_ensure_intro (fun _ => trivial) (fun _ late => absurd rfl late)

end Sample

/-- The next true counter value is later, and not further than a sample may be. -/
def Follows (maxSampleDelta : BitVec 64) (before after : Nat) : Prop :=
  before < after ∧ after - before ≤ maxSampleDelta.toNat

/-- Along a run of readings every answer is exact until the first one that does not fit. -/
theorem Tracks.answers {start : Nat} : ∀ {times : List Nat} {now : Nat} {clock : HpetClock}, Tracks start now clock →
    List.IsChain (Follows clock.maxSampleDelta) (now :: times) → ∀ (index : Nat) (inside : index < times.length),
      (times[index] - start) * clock.periodFemtoseconds / femtosecondsPerNanosecond < u64Values →
        (HpetClock.answers clock (times.map (reading clock.counterBits)))[index]? =
          some (.ok ((times[index] - start) * clock.periodFemtoseconds / femtosecondsPerNanosecond))
  | [], _, _, _, _, _, inside, _ => absurd inside (not_lt_zero _)
  | time :: rest, now, clock, tracks, gaps, index, inside, fits => by
    obtain ⟨⟨later, near⟩, gaps⟩ := isChain_cons_cons.mp gaps
    have ordered : (time :: rest).Pairwise (· < ·) :=
      isChain_iff_pairwise.mp (gaps.imp (fun _ _ follows => follows.1))
    -- The answers grow, so the first one fits where a later one does.
    have first : (time - start) * clock.periodFemtoseconds / femtosecondsPerNanosecond < u64Values := by
      have below : time ≤ (time :: rest)[index] := by
        cases index with
        | zero => exact le_refl _
        | succ index => exact le_of_lt ((pairwise_cons.mp ordered).1 _ (getElem_mem _))
      exact Nat.lt_of_le_of_lt (Nat.div_le_div_right (Nat.mul_le_mul_right _ (Nat.sub_le_sub_right below _))) fits
    have whole : now + (time - now) = time := Nat.add_sub_cancel' (Nat.le_of_lt later)
    have step := tracks.sample (Nat.sub_pos_of_lt later) near (by rw [whole]; exact first)
    rw [whole] at step
    obtain ⟨nanos, next, run, rfl, tracks', period, bits, delta⟩ := wp_returns step (fun _ _ no => no)
    rw [map_cons, HpetClock.answers, run]
    cases index with
    | zero => rfl
    | succ index =>
      rw [← delta] at gaps
      rw [← period] at fits ⊢
      rw [← bits]
      exact tracks'.answers gaps index (lt_of_succ_lt_succ inside) fits

/-- The clock tells the exact time through every wrap of its counter, and an invalid reading leaves it as it was. -/
theorem hpet_time_exact : (∀ (counterBits period start : Nat) (maxSampleDelta : BitVec 64) (clock : HpetClock),
    HpetClock.new counterBits period (reading counterBits start) maxSampleDelta = .ok clock →
      ∀ times, List.IsChain (Follows maxSampleDelta) (start :: times) → ∀ (index : Nat) (inside : index < times.length),
        (times[index] - start) * period / femtosecondsPerNanosecond < u64Values →
          (clock.answers (times.map (reading counterBits)))[index]? =
            some (.ok ((times[index] - start) * period / femtosecondsPerNanosecond))) ∧
    ∀ (clock : HpetClock) raw reason next, (HpetClock.sample raw).run clock = (.error reason, next) →
      reason ≠ .timeOverflow → next = clock := by
  constructor
  · intro counterBits period start maxSampleDelta clock created times gaps index inside fits
    obtain ⟨tracks, rfl, rfl, rfl⟩ := new_tracks created
    exact tracks.answers gaps index inside fits
  · intro clock raw reason next run
    have settled := sample_refused clock raw
    unfold wp at settled
    rw [run] at settled
    exact settled

/-- A counter of 32 bits that wraps after the first of two readings. -/
theorem hpet_time_exact_wrapping : ∃ clock, HpetClock.new 32 10000000 (reading 32 4294967280) 100#64 = .ok clock ∧
    (clock.answers ([4294967290, 4294967300].map (reading 32)))[1]? = some (.ok 200) :=
  ⟨_, rfl, hpet_time_exact.1 32 10000000 4294967280 100#64 _ rfl [4294967290, 4294967300]
    (by simp [Follows]) 1 (by decide) (by decide)⟩

end PooleOS.InterruptTime
