import PooleOS.Lib.Bytes

/- Tables of strings that end in a zero. Strings that follow each other fill a table
exactly when the table is their concatenation and each is referred to from its start. -/
namespace PooleOS

open List

/-- The strings one after the other, each with a zero behind it. -/
def joined (texts : List Bytes) : Bytes := texts.flatMap (· ++ [0])

/-- A text without a zero. -/
def Clean (text : Bytes) : Prop := (0 : UInt8) ∉ text

/-- What a reader finds at a place of a table, up to the next zero. -/
structure ReadsAt (table : Bytes) (place : Nat) (text : Bytes) : Prop where
  held : table.slice place text.length = text
  ended : table[place + text.length]? = some 0

variable {table rest text other : Bytes} {texts : List Bytes} {place : Nat}

theorem ReadsAt.split (reads : ReadsAt table place text) :
    table.drop place = text ++ 0 :: table.drop (place + text.length + 1) := by
  obtain ⟨inside, last⟩ := List.getElem?_eq_some_iff.mp reads.ended
  have front : (table.drop place).take text.length = text := reads.held
  calc
    table.drop place = (table.drop place).take text.length ++ (table.drop place).drop text.length :=
      (take_append_drop ..).symm
    _ = text ++ table.drop (place + text.length) := by rw [front, drop_drop]
    _ = text ++ 0 :: table.drop (place + text.length + 1) := by
      rw [drop_eq_getElem_cons inside, last]

theorem ReadsAt.of_split (split : table.drop place = text ++ 0 :: rest) : ReadsAt table place text := by
  constructor
  · unfold Bytes.slice
    rw [split, take_left' rfl]
  · rw [← getElem?_drop, split, getElem?_append_right le_rfl, Nat.sub_self]
    rfl

/-- Clean texts in front of a zero are the same. -/
theorem clean_unique {one two : Bytes} : ∀ {text other : Bytes}, Clean text → Clean other →
    text ++ 0 :: one = other ++ 0 :: two → text = other
  | [], [], _, _, _ => rfl
  | [], first :: other, _, clean, same => by
      obtain ⟨rfl, -⟩ := cons.inj same
      exact absurd (mem_cons_self ..) clean
  | first :: text, [], clean, _, same => by
      obtain ⟨rfl, -⟩ := cons.inj same
      exact absurd (mem_cons_self ..) clean
  | first :: text, second :: other, clean, clear, same => by
      obtain ⟨rfl, later⟩ := cons.inj same
      exact congrArg _ (clean_unique (fun member => clean (mem_cons_of_mem _ member))
        (fun member => clear (mem_cons_of_mem _ member)) later)

theorem ReadsAt.unique (one : ReadsAt table place text) (two : ReadsAt table place other) (clean : Clean text)
    (clear : Clean other) : text = other :=
  clean_unique clean clear (one.split.symm.trans two.split)

/-- A zero behind a clean text is not inside it. -/
theorem zero_behind {index : Nat} (clean : Clean text) (zero : (text ++ rest)[index]? = some 0) :
    text.length ≤ index := by
  by_contra inside
  rw [getElem?_append_left (by omega)] at zero
  exact clean (mem_of_getElem? zero)

/-- What is read right behind a zero of joined strings is one of them. -/
theorem mem_of_readsAt : ∀ {texts : List Bytes} {place : Nat}, (∀ item ∈ texts, Clean item) → Clean text →
    ReadsAt (joined texts) place text → (place = 0 ∨ (joined texts)[place - 1]? = some 0) → text ∈ texts
  | [], place, _, _, reads, _ => absurd reads.ended (by simp [joined])
  | first :: others, place, all, clean, reads, entry => by
      have whole : joined (first :: others) = first ++ 0 :: joined others := by simp [joined]
      have clear := all first (mem_cons_self ..)
      rw [whole] at reads entry
      by_cases start : place = 0
      · subst start
        have same : first = text := clean_unique clear clean (ReadsAt.split reads)
        exact same ▸ mem_cons_self ..
      · have behind := zero_behind clear (entry.resolve_left start)
        obtain ⟨later, rfl⟩ := Nat.exists_eq_add_of_le (show first.length + 1 ≤ place by omega)
        have shift : ∀ index, (first ++ 0 :: joined others)[first.length + 1 + index]? = (joined others)[index]? := by
          intro index
          rw [getElem?_append_right (by omega), show first.length + 1 + index - first.length = index + 1 by omega]
          rfl
        have drop : (first ++ 0 :: joined others).drop (first.length + 1 + later) = (joined others).drop later := by
          have front : first.drop (first.length + 1) = [] := drop_of_length_le (Nat.le_succ _)
          rw [← drop_drop, drop_append, front, Nat.add_sub_cancel_left]
          rfl
        refine mem_cons_of_mem _ (mem_of_readsAt (fun item member => all item (mem_cons_of_mem _ member)) clean
          (ReadsAt.of_split (drop ▸ reads.split)) ?_)
        rcases Nat.eq_zero_or_pos later with none | some
        · exact .inl none
        · right
          rw [← shift, ← entry.resolve_left start]
          congr 1
          omega

section References

variable {α : Type} (start : α → Nat) (text : α → Bytes)

/-- References to strings that follow each other in a table, from one place to another. -/
def Follows : List α → Nat → Nat → Prop
  | [], cursor, last => last = cursor
  | item :: rest, cursor, last => start item = cursor ∧ Follows rest (cursor + ((text item).length + 1)) last

variable {start text} {items : List α} {cursor : Nat}

theorem Follows.joined : ∀ {items : List α} {cursor : Nat}, Follows start text items cursor table.length →
    (∀ item ∈ items, ReadsAt table (start item) (text item)) →
    table.drop cursor = joined (items.map text) ∧
      ∀ item ∈ items, start item = cursor ∨ table[start item - 1]? = some 0
  | [], _, follows, _ => ⟨drop_of_length_le (Nat.le_of_eq follows), fun _ absent => nomatch absent⟩
  | item :: rest, cursor, ⟨here, follows⟩, reads => by
      have first := reads item (mem_cons_self ..)
      rw [here] at first
      obtain ⟨tail, entries⟩ := Follows.joined follows (fun other member => reads other (mem_cons_of_mem _ member))
      constructor
      · rw [first.split, Nat.add_assoc, tail]
        simp [PooleOS.joined]
      · refine forall_mem_cons.mpr ⟨.inl here, fun other member => ?_⟩
        rcases entries other member with next | behind
        · right
          rw [next, ← Nat.add_assoc, Nat.add_sub_cancel]
          exact first.ended
        · exact .inr behind

theorem follows_of_joined : ∀ {items : List α} {cursor : Nat}, cursor ≤ table.length →
    table.drop cursor = joined (items.map text) → (items.map text).Nodup → (∀ item ∈ items, Clean (text item)) →
    (∀ item ∈ items, ReadsAt table (start item) (text item)) →
    (∀ item ∈ items, start item = cursor ∨ cursor < start item ∧ table[start item - 1]? = some 0) →
    Follows start text items cursor table.length
  | [], cursor, inside, empty, _, _, _, _ => by
      have none := congrArg length empty
      rw [length_drop] at none
      change table.length = cursor
      have zero : (joined (([] : List α).map text)).length = 0 := rfl
      omega
  | item :: rest, cursor, inside, whole, distinct, clean, reads, entries => by
      obtain ⟨fresh, distinct⟩ := nodup_cons.mp distinct
      have clear := clean item (mem_cons_self ..)
      have split : table.drop cursor = text item ++ 0 :: joined (rest.map text) := by
        rw [whole]
        simp [joined]
      have here : ReadsAt table cursor (text item) := ReadsAt.of_split split
      have tail : table.drop (cursor + ((text item).length + 1)) = joined (rest.map text) := by
        have later := here.split
        rw [split] at later
        exact (cons.inj (append_cancel_left later)).2.symm
      have bound : cursor + ((text item).length + 1) ≤ table.length :=
        (List.getElem?_eq_some_iff.mp here.ended).1
      -- what does not start at the cursor starts behind the first string
      have behind : ∀ other ∈ item :: rest, start other ≠ cursor →
          cursor + ((text item).length + 1) ≤ start other ∧ table[start other - 1]? = some 0 := by
        intro other member apart
        obtain ⟨after, zero⟩ := (entries other member).resolve_left apart
        have found : (text item ++ 0 :: joined (rest.map text))[start other - 1 - cursor]? = some 0 := by
          rw [← split, getElem?_drop, ← zero]
          congr 1
          omega
        have far := zero_behind clear found
        exact ⟨by omega, zero⟩
      have first : start item = cursor := by
        by_contra apart
        obtain ⟨far, zero⟩ := behind item (mem_cons_self ..) apart
        obtain ⟨place, same⟩ := Nat.exists_eq_add_of_le far
        have read := reads item (mem_cons_self ..)
        rw [same] at read zero
        have inner : ReadsAt (joined (rest.map text)) place (text item) := by
          have later := read.split
          rw [← drop_drop, tail] at later
          exact ReadsAt.of_split later
        have all : ∀ text' ∈ rest.map text, Clean text' :=
          forall_mem_map.mpr fun other member => clean other (mem_cons_of_mem _ member)
        refine fresh (mem_of_readsAt all clear inner ?_)
        rcases Nat.eq_zero_or_pos place with none | some
        · exact .inl none
        · right
          rw [← tail, getElem?_drop, ← zero]
          congr 1
          omega
      refine ⟨first, follows_of_joined bound tail distinct
        (fun other member => clean other (mem_cons_of_mem _ member))
        (fun other member => reads other (mem_cons_of_mem _ member)) fun other member => ?_⟩
      have apart : start other ≠ cursor := by
        intro same
        have read := reads other (mem_cons_of_mem _ member)
        rw [same] at read
        have equal := here.unique read clear (clean other (mem_cons_of_mem _ member))
        exact fresh (equal ▸ mem_map_of_mem member)
      obtain ⟨far, zero⟩ := behind other (mem_cons_of_mem _ member) apart
      rcases Nat.eq_or_lt_of_le far with same | more
      · exact .inl same.symm
      · exact .inr ⟨more, zero⟩

/-- References to different strings follow each other through a table exactly when the table is the strings
joined and each reference starts at the front or right behind a zero. -/
theorem follows_iff (distinct : (items.map text).Nodup) (clean : ∀ item ∈ items, Clean (text item))
    (reads : ∀ item ∈ items, ReadsAt table (start item) (text item)) : Follows start text items 0 table.length ↔
      table = joined (items.map text) ∧ ∀ item ∈ items, start item = 0 ∨ table[start item - 1]? = some 0 := by
  constructor
  · intro follows
    exact follows.joined reads
  · rintro ⟨whole, entries⟩
    refine follows_of_joined (Nat.zero_le _) whole distinct clean reads fun item member => ?_
    rcases Nat.eq_zero_or_pos (start item) with front | later
    · exact .inl front
    · exact .inr ⟨later, (entries item member).resolve_left (by omega)⟩

end References

end PooleOS
