import PooleOS.Lib.Matching
import PooleOS.Lib.Rows
import PooleOS.InitSys.Strict
import PooleOS.InitSys.Tables

/- Nothing panics in the header, in a name or in what is read of a record, and the model without
the panics computes the same. -/
namespace PooleOS.InitSys.Strict

open List

section Reads

variable {bytes : Bytes} {offset width first : Nat} {reason : Error}

theorem pick_of : ∀ {value : Bytes}, (range value.length).mapM (byteAt value) = (.ok value : Outcome Error Bytes) := by
  intro value
  refine (@mapM_closed _ _ _ _ (fun index => value.getD index 0) (fun _ => True) _ ?_ value).mpr ⟨fun _ _ => trivial, ?_⟩
  · intro index member byte
    have inside := mem_range.mp member
    rw [byteAt_of (getElem?_eq_getElem inside), ok_eq_ok, getD_eq_getElem _ _ inside, true_and]
  · apply ext_getElem?
    intro index
    by_cases inside : index < value.length
    · simp [inside]
    · simp [inside]

/-- A read inside the bytes. -/
theorem read_of (inside : offset + width ≤ bytes.length) (small : bytes.length < u64Values) :
    read width bytes offset = .ok (bytes.word offset width) := by
  have long : (bytes.slice offset width).length = width := Bytes.slice_length inside
  have picked := @pick_of (bytes.slice offset width)
  rw [long] at picked
  have part : bytes.range? offset (offset + width) = some (bytes.slice offset width) := by
    rw [Bytes.range?_some (Nat.le_add_right ..) inside, Nat.add_sub_cancel_left]
    rfl
  unfold read orRefuse
  rw [plus_of (by omega), ok_bind, part, orError_some, ok_bind, picked]
  rfl

theorem toU32_of {value : Nat} (small : value < u32Values) : toU32 value reason = .ok value := by
  unfold toU32
  rw [if_pos small]
  rfl

theorem tail_of (inside : first ≤ bytes.length) : tail bytes first = .ok (bytes.drop first) := by
  unfold tail
  rw [slice_of inside le_rfl, Bytes.slice, take_of_length_le (by rw [length_drop])]

theorem align_of {value : Nat} (small : value + recordAlignment < u64Values) :
    align value = .ok (InitSys.align value) := by
  unfold align
  rw [addOr_of (by omega)]
  rfl

theorem offsetAfter_of {expected count size : Nat} (small : expected + count * size < u64Values) :
    offsetAfter expected count size = .ok (expected + count * size) := by
  unfold offsetAfter
  rw [timesOr_of (by omega), ok_bind, addOr_of small]

end Reads

variable {sha : Sha256} {data : Bytes}

theorem parseHeader_same : parseHeader sha data = InitSys.parseHeader sha data := by
  unfold parseHeader InitSys.parseHeader
  refine matches_eq.mp (Matches.check fun long => Matches.check fun short => matches_eq.mpr ?_)
  have header : headerBytes = 192 := rfl
  have small : data.length < u64Values := short.trans_lt (by decide)
  have counts := fun offset => data.word_lt offset 2
  have words := fun offset => data.word_lt offset 4
  simp (disch := omega) only [read_of, ok_bind, slice_of, tail_of]
  have := counts 56
  have := counts 58
  have := counts 60
  have := counts 62
  have := counts 64
  have := words 88
  have := words 92
  have := words 96
  have := words 100
  simp (disch := simp only [headerBytes, recordAlignment, componentBytes, serviceBytes, dependencyBytes,
    resourceBytes, capabilityBytes, u64Values]; omega) only [offsetAfter_of, addOr_of, align_of, plus_of, ok_bind]
  rfl

section Names

variable {table bytes : Bytes} {name value : NameRef} {names : List NameRef}

theorem validName_same : validName bytes = .ok (InitSys.validName bytes) := by
  unfold validName InitSys.validName
  cases bytes with
  | nil => rfl
  | cons first rest =>
    have filled : ¬ (first :: rest).length = 0 := Nat.succ_ne_zero _
    by_cases long : maxNameBytes < (first :: rest).length
    · rw [if_pos (.inr long)]
      have excess : decide ((first :: rest).length ≤ maxNameBytes) = false := decide_eq_false (by omega)
      simp only [head?_cons, getLast?_cons, excess, Bool.false_and]
      rfl
    · rw [if_neg (fun either => either.elim filled long)]
      have short : decide ((first :: rest).length ≤ maxNameBytes) = true := decide_eq_true (by omega)
      have place : (first :: rest)[(first :: rest).length - 1]? = some ((first :: rest).getLast nofun) :=
        List.getElem?_eq_some_iff.mpr ⟨by simp, (List.getLast_eq_getElem _).symm⟩
      have last : (first :: rest).getLast? = some ((first :: rest).getLast nofun) := getLast?_eq_some_getLast _
      rw [byteAt_of (getElem?_cons_zero ..), ok_bind, minus_of (by simp), ok_bind, byteAt_of place, ok_bind]
      simp only [head?_cons, last, short, Bool.true_and]
      rfl

theorem nameRef_same {offset count : Nat} (fits : offset + count < u64Values) :
    nameRef table offset count = InitSys.nameRef table offset count := by
  unfold nameRef InitSys.nameRef
  rw [addOr_of fits, ok_bind]
  refine matches_eq.mp (Matches.check fun bounds => ?_)
  have inside := bounds.2.2
  rw [byteAt_of (getElem?_eq_getElem inside), ok_bind, slice_of (Nat.le_add_right ..) (by omega), ok_bind,
    validName_same, ok_bind, Nat.add_sub_cancel_left, getElem?_eq_getElem inside]
  simp only [Option.some.injEq]
  exact Matches.refl _

/-- The name lies in the table. -/
def Inside (table : Bytes) (name : NameRef) : Prop := name.offset + name.bytes < table.length

theorem textOf_of (small : table.length < u64Values) (inside : Inside table name) :
    textOf table name = .ok (name.text table) := by
  unfold Inside at inside
  unfold textOf
  rw [plus_of (by omega), ok_bind, slice_of (Nat.le_add_right ..) (by omega), Nat.add_sub_cancel_left]
  rfl

/-- The array that holds these names. -/
def listed (names : List NameRef) : NameTable := ⟨filled maxNames emptyName names, names.length⟩

theorem pushName_same (small : table.length < u64Values) (room : names.length < maxNames)
    (inside : ∀ name ∈ names, Inside table name) (fits : Inside table value) :
    Matches (fun one two => one = listed two) (pushName (listed names) value table)
      (InitSys.pushName names value table) := by
  unfold pushName InitSys.pushName listed
  dsimp only
  rw [front_of (by rw [filled_length (by omega)]; omega), ok_bind, filled_take]
  have same : (names.forM fun existing => do
      let one ← textOf table existing
      let two ← textOf table value
      check (one ≠ two) .nameDuplicate) =
      check (∀ existing ∈ names, existing.text table ≠ value.text table) .nameDuplicate := by
    refine forM_demand _ fun existing member => ?_
    rw [textOf_of small (inside existing member), ok_bind, textOf_of small fits, ok_bind]
  rw [same]
  refine Matches.check fun _ => ?_
  have count : maxNames < u64Values := by decide
  rw [store_of (by rw [filled_length (by omega)]; omega), ok_bind, plus_of (by omega), ok_bind, filled_set room]
  simp [Matches, pure, Except.pure]

section Sorting

variable {done first pad current : List NameRef} {count : Nat} (small : table.length < u64Values)
  (inside : ∀ name ∈ current, Inside table name)

include small inside

/-- The scan over the array keeps the place that the scan over the list keeps, behind what is sorted. -/
theorem scan_same : ∀ (later : List NameRef) (start place : Nat) (best : NameRef), current[place]? = some best →
    (∀ offset, later[offset]? = current[start + offset]?) →
    (range' (done.length + start) later.length).foldlM (fun smallest candidate => do
        let left ← item (done ++ current ++ pad) candidate
        let right ← item (done ++ current ++ pad) smallest
        let less ← nameLess table left right
        return if less then candidate else smallest) (done.length + place) =
      (.ok (done.length + ((later.zipIdx start).foldl (leastSoFar fun name : NameRef => (name.text table).key)
        (place, best)).1) : Outcome Error Nat)
  | [], _, _, _, _, _ => rfl
  | candidate :: later, start, place, best, found, tail => by
      have held : ∀ {place : Nat} {name : NameRef}, current[place]? = some name →
          (done ++ current ++ pad)[done.length + place]? = some name := by
        intro place name found
        rw [middle_get (List.getElem?_eq_some_iff.mp found).1, found]
      have here : current[start]? = some candidate := (tail 0).symm
      have more : ∀ offset, later[offset]? = current[start + 1 + offset]? := by
        intro offset
        rw [Nat.add_assoc, Nat.add_comm 1, ← tail (offset + 1)]
        rfl
      rw [length_cons, range'_succ, foldlM_cons, item_of (held here), ok_bind, item_of (held found),
        ok_bind, nameLess, textOf_of small (inside _ (mem_of_getElem? here)), ok_bind,
        textOf_of small (inside _ (mem_of_getElem? found)), ok_bind, pure_bind, zipIdx_cons,
        foldl_cons, leastSoFar, pure_bind]
      by_cases less : (candidate.text table).key < (best.text table).key
      · rw [if_pos (decide_eq_true less), if_pos less]
        exact scan_same later (start + 1) start candidate here more
      · rw [if_neg (by simpa using less), if_neg less]
        exact scan_same later (start + 1) place best found more

/-- One round of the sort on the array is the round on the part that is not sorted yet. -/
theorem sortRound_same (some : current ≠ []) (long : count = done.length + current.length) (few : count < u64Values) :
    sortRound table count (done ++ current ++ pad) done.length =
      .ok (done ++ swapLeast (fun name : NameRef => (name.text table).key) current ++ pad) := by
  obtain ⟨first, rest, rfl⟩ := List.exists_cons_of_ne_nil some
  have tail : ∀ offset, rest[offset]? = (first :: rest)[1 + offset]? := fun offset => by rw [Nat.add_comm]; rfl
  obtain ⟨place, least, same, found, -⟩ := @scan_least _ _ _ (fun name : NameRef => (name.text table).key)
    (first :: rest) rest 1 0 first rfl tail
  have scanned := @scan_same table done pad (first :: rest) small inside rest 1 0 first rfl tail
  have less := (List.getElem?_eq_some_iff.mp found).1
  have width : count - (done.length + 1) = rest.length := by
    rw [long, length_cons]
    omega
  have total : (done ++ (first :: rest) ++ pad).length = count + pad.length := by
    rw [length_append, length_append, long]
  have zeroth : (done ++ (first :: rest) ++ pad)[done.length]? = Option.some first :=
    @middle_get _ done (first :: rest) pad 0 (Nat.succ_pos _)
  rw [same, Nat.add_zero] at scanned
  unfold sortRound swap
  rw [plus_of (by omega), ok_bind, width, scanned, ok_bind, item_of zeroth, ok_bind,
    item_of ((middle_get less).trans found), ok_bind, store_of (by omega), ok_bind,
    store_of (by rw [length_set]; omega)]
  have first_set : (done ++ (first :: rest) ++ pad).set done.length least = done ++ (first :: rest).set 0 least ++ pad :=
    @middle_set _ least done (first :: rest) pad 0 (Nat.succ_pos _)
  rw [first_set, middle_set (by rwa [length_set])]
  unfold swapLeast
  dsimp only
  rw [same]
  cases place with
  | zero =>
    obtain rfl := Option.some.inj found
    rfl
  | succ place => rfl

end Sorting

theorem validateStringTable_same (small : table.length < u64Values) (few : names.length ≤ maxNames)
    (inside : ∀ name ∈ names, Inside table name) :
    validateStringTable (listed names) table = InitSys.validateStringTable names table := by
  have bound : maxNames < u64Values := by decide
  -- after so many rounds the first names are sorted, and the others are still to be sorted
  have rounds : ∀ (left : Nat) (done current : List NameRef), current.length = left →
      done.length + left = names.length → (∀ name ∈ current, Inside table name) → ∀ pad : List NameRef,
      (range' done.length left).foldlM (sortRound table names.length) (done ++ current ++ pad) =
        .ok (done ++ selectionSort (fun name : NameRef => (name.text table).key) left current ++ pad) := by
    intro left
    induction left with
    | zero => exact fun _ _ _ _ _ _ => rfl
    | succ left ih =>
      intro done current long total within pad
      have some : current ≠ [] := ne_nil_of_length_pos (by omega)
      obtain ⟨first, rest, rfl⟩ := exists_cons_of_ne_nil some
      obtain ⟨best, others, same, perm, -⟩ := @swapLeast_cons _ _ _ (fun name : NameRef => (name.text table).key)
        first rest
      have length := perm.length_eq
      rw [length_cons] at length
      rw [range'_succ, foldlM_cons, sortRound_same small within some (by omega) (by omega), ok_bind, same]
      have next := ih (done ++ [best]) others (by omega) (by simp; omega)
        (fun name member => within name (perm.mem_iff.mp (mem_cons_of_mem _ member))) pad
      rw [length_append, length_singleton, append_assoc done, singleton_append] at next
      rw [next, selectionSort, same, append_assoc done, singleton_append]
  have sorted := rounds names.length [] names rfl (Nat.zero_add _) inside
    (replicate (maxNames - names.length) emptyName)
  obtain ⟨perm, -⟩ := @selectionSort_sorted _ _ _ (fun name : NameRef => (name.text table).key) names.length names
    le_rfl
  rw [nil_append, nil_append, length_nil, ← range_eq_range'] at sorted
  unfold validateStringTable InitSys.validateStringTable listed filled
  dsimp only
  rw [sorted, ok_bind, front_of (by rw [length_append, perm.length_eq]; omega), ok_bind,
    take_left' perm.length_eq]
  refine matches_eq.mp (Matches.bind (Matches.foldlM (fun _ => (· = ·)) rfl
    fun name member _ one two _ same => ?_) fun one two _ _ same => ?_)
  · subst same
    refine Matches.check fun place => matches_eq.mpr ?_
    have fits := inside name (perm.mem_iff.mp member)
    unfold Inside at fits
    rw [plus_of (by omega), ok_bind, addOr_of (by omega)]
    rfl
  · subst same
    exact Matches.refl _

end Names

end PooleOS.InitSys.Strict
