import PooleOS.Lib.Bytes

/- Rows of one width in a byte string: a payload that is copied to them row by row
is what they hold, read in the same order. -/
namespace PooleOS.Bytes

open List

/-- The rows at these places, one after the other. -/
def gather (bytes : Bytes) (width : Nat) (starts : List Nat) : Bytes :=
  starts.flatMap (fun start => bytes.slice start width)

/-- Copies the next row of the payload to each place. -/
def scatter (payload : Bytes) (width : Nat) (starts : List Nat) (copied : Bytes × Nat) : Bytes × Nat :=
  starts.foldl (fun copied start => (copied.1.blit start (payload.slice copied.2 width), copied.2 + width)) copied

variable {bytes payload : Bytes} {width first count : Nat} {starts : List Nat}

theorem slice_length (inside : first + count ≤ bytes.length) : (bytes.slice first count).length = count := by
  rw [slice, length_take, length_drop]
  omega

theorem getElem?_slice {place : Nat} (inside : place < count) :
    (bytes.slice first count)[place]? = bytes[first + place]? := by
  rw [slice, getElem?_take_of_lt inside, getElem?_drop]

/-- Neighbouring ranges joined. -/
theorem slice_append_slice (front back : Nat) :
    bytes.slice first front ++ bytes.slice (first + front) back = bytes.slice first (front + back) := by
  rw [slice, slice, slice, take_add, drop_drop]

/-- Two byte strings that agree on a range have the same bytes there. -/
theorem slice_congr {other : Bytes} {start : Nat}
    (same : ∀ place, place < count → bytes[first + place]? = other[start + place]?) :
    bytes.slice first count = other.slice start count := by
  apply ext_getElem?
  intro place
  by_cases inside : place < count
  · rw [getElem?_slice inside, getElem?_slice inside, same place inside]
  · have past : ∀ (bytes : Bytes) (start : Nat), (bytes.slice start count)[place]? = none := by
      intro bytes start
      rw [slice, getElem?_take_eq_none (Nat.le_of_not_lt inside)]
    rw [past, past]

theorem slice_whole : bytes.slice 0 bytes.length = bytes := by
  rw [slice, drop_zero, take_length]

/-- The loop that extends by one row at a time. -/
theorem foldl_gather (front : Bytes) :
    starts.foldl (fun logical start => logical ++ bytes.slice start width) front = front ++ bytes.gather width starts := by
  induction starts generalizing front with
  | nil => exact (append_nil _).symm
  | cons start rest ih => rw [foldl_cons, ih, gather, gather, flatMap_cons, append_assoc]

section Copied

variable (room : first + starts.length * width ≤ payload.length)
  (within : ∀ start ∈ starts, start + width ≤ bytes.length)

include room within

/-- Copies leave the length and what lies before all of them. -/
theorem scatter_before {place size : Nat} (before : ∀ start ∈ starts, place + size ≤ start) :
    (scatter payload width starts (bytes, first)).1.length = bytes.length ∧
      (scatter payload width starts (bytes, first)).1.slice place size = bytes.slice place size := by
  induction starts generalizing bytes first with
  | nil => exact ⟨rfl, rfl⟩
  | cons start rest ih =>
    rw [length_cons, Nat.succ_mul] at room
    have row : (payload.slice first width).length = width := slice_length (by omega)
    have inside := within start (mem_cons_self ..)
    have fits : start + (payload.slice first width).length ≤ bytes.length := by rw [row]; exact inside
    have same := blit_length fits
    obtain ⟨length, kept⟩ := @ih (bytes.blit start (payload.slice first width)) (first + width) (by omega)
      (fun other member => same ▸ within other (mem_cons_of_mem _ member))
      (fun other member => before other (mem_cons_of_mem _ member))
    have first_ := before start (mem_cons_self ..)
    exact ⟨length.trans same, kept.trans (slice_blit_apart fits (.inl first_))⟩

/-- What is copied to rows that follow each other is read back from them. -/
theorem gather_scatter (ordered : starts.Pairwise (fun start later => start + width ≤ later)) :
    (scatter payload width starts (bytes, first)).1.gather width starts = payload.slice first (starts.length * width) := by
  induction starts generalizing bytes first with
  | nil => simp [gather, slice]
  | cons start rest ih =>
    rw [length_cons, Nat.succ_mul] at room
    rw [pairwise_cons] at ordered
    have row : (payload.slice first width).length = width := slice_length (by omega)
    have inside := within start (mem_cons_self ..)
    have fits : start + (payload.slice first width).length ≤ bytes.length := by rw [row]; exact inside
    have same := blit_length fits
    have others : ∀ other ∈ rest, other + width ≤ (bytes.blit start (payload.slice first width)).length :=
      fun other member => same ▸ within other (mem_cons_of_mem _ member)
    have later := @ih (bytes.blit start (payload.slice first width)) (first + width) (by omega) others ordered.2
    obtain ⟨_, kept⟩ := @scatter_before (bytes.blit start (payload.slice first width)) payload width
      (first + width) rest (by omega) others start width ordered.1
    have head := slice_blit fits
    rw [row] at head
    change (scatter payload width rest _).1.slice start width ++ (scatter payload width rest _).1.gather width rest = _
    rw [later, kept, head, slice_append_slice, length_cons, Nat.succ_mul, Nat.add_comm width]

end Copied

end PooleOS.Bytes
