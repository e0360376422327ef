import Mathlib

/- Texts made of lines, each with a feed behind it, and parts of a line around a separator. -/
namespace PooleOS

open List

variable {α : Type} {separator feed item : α}

section Joined

/-- The text of lines. -/
def unlines (feed : α) (items : List (List α)) : List α := items.flatMap (· ++ [feed])

@[simp] theorem unlines_nil : unlines feed [] = [] := rfl

@[simp] theorem unlines_cons (line : List α) (items : List (List α)) :
    unlines feed (line :: items) = line ++ feed :: unlines feed items := by
  rw [unlines, flatMap_cons, append_assoc]
  rfl

theorem mem_unlines {items : List (List α)} : item ∈ unlines feed items ↔
    ∃ line ∈ items, item ∈ line ∨ item = feed := by
  rw [unlines, mem_flatMap]
  simp only [mem_append, mem_singleton]

theorem length_unlines_le {items : List (List α)} {width : Nat} (short : ∀ line ∈ items, line.length ≤ width) :
    (unlines feed items).length ≤ items.length * (width + 1) := by
  induction items with
  | nil => exact Nat.zero_le _
  | cons line items ih =>
    have first := short line (mem_cons_self ..)
    have rest := ih fun other member => short other (mem_cons_of_mem _ member)
    rw [unlines_cons, length_append, length_cons, length_cons, Nat.succ_mul]
    omega

theorem mem_intercalate : ∀ {parts : List (List α)}, item ∈ [separator].intercalate parts →
    item = separator ∨ ∃ part ∈ parts, item ∈ part
  | [], member => nomatch member
  | [part], member => by
      rw [intercalate_singleton] at member
      exact .inr ⟨part, mem_singleton_self _, member⟩
  | part :: next :: others, member => by
      rw [intercalate_cons_cons, append_assoc] at member
      rcases mem_append.mp member with inside | later
      · exact .inr ⟨part, mem_cons_self .., inside⟩
      · rcases mem_append.mp later with single | rest
        · exact .inl (mem_singleton.mp single)
        · exact (mem_intercalate rest).imp_right fun ⟨other, member, inside⟩ =>
            ⟨other, mem_cons_of_mem _ member, inside⟩

theorem suffix_intercalate : ∀ (front : List (List α)) (last : List α),
    last <:+ [separator].intercalate (front ++ [last]) ∧
      (front ≠ [] → separator :: last <:+ [separator].intercalate (front ++ [last]))
  | [], last => by
      rw [nil_append, intercalate_singleton]
      exact ⟨suffix_refl _, fun some => absurd rfl some⟩
  | part :: rest, last => by
      have split : [separator].intercalate (part :: rest ++ [last]) =
          part ++ separator :: [separator].intercalate (rest ++ [last]) := by
        rw [cons_append, intercalate_cons_of_ne_nil (by simp)]
        exact append_assoc ..
      have tail := suffix_intercalate rest last
      have whole : separator :: last <:+ separator :: [separator].intercalate (rest ++ [last]) := by
        cases rest with
        | nil =>
          have one : [separator].intercalate ([] ++ [last]) = last := intercalate_singleton ..
          exact one.symm ▸ suffix_refl _
        | cons next others => exact (tail.2 nofun).trans (suffix_cons ..)
      rw [split]
      exact ⟨((suffix_cons ..).trans whole).trans (suffix_append ..),
        fun _ => whole.trans (suffix_append ..)⟩

/-- An end without a separator is an end of the last part. -/
theorem suffix_last {front : List (List α)} {last ending : List α} (clean : separator ∉ ending)
    (ends : ending <:+ [separator].intercalate (front ++ [last])) : ending <:+ last := by
  obtain ⟨inside, beyond⟩ := @suffix_intercalate _ separator front last
  rcases Nat.lt_or_ge last.length ending.length with longer | shorter
  · cases front with
    | nil => rwa [nil_append, intercalate_singleton] at ends
    | cons part rest =>
      have within := suffix_of_suffix_length_le (beyond nofun) ends longer
      exact absurd (within.subset (mem_cons_self ..)) clean
  · exact suffix_of_suffix_length_le ends inside shorter

end Joined

variable [DecidableEq α]

section Parts

/-- What stands in front of the first separator, and what stands behind it. -/
def splitOnce (separator : α) : List α → Option (List α × List α)
  | [] => none
  | item :: rest =>
    if item = separator then some ([], rest)
    else (splitOnce separator rest).map fun parts => (item :: parts.1, parts.2)

theorem splitOnce_eq_some : ∀ {text front back : List α},
    splitOnce separator text = some (front, back) ↔ separator ∉ front ∧ text = front ++ separator :: back
  | [], front, back => by simp [splitOnce]
  | item :: rest, front, back => by
      unfold splitOnce
      split
      · rename_i found
        subst found
        cases front with
        | nil => simp
        | cons first front =>
          refine ⟨fun same => by simp at same, fun both => ?_⟩
          obtain ⟨rfl, -⟩ := cons.inj both.2
          exact absurd (mem_cons_self ..) both.1
      · rename_i other
        simp only [Option.map_eq_some_iff, Prod.mk.injEq]
        constructor
        · rintro ⟨⟨first, second⟩, found, rfl, rfl⟩
          obtain ⟨clean, rfl⟩ := splitOnce_eq_some.mp found
          exact ⟨not_mem_cons_of_ne_of_not_mem (Ne.symm other) clean, rfl⟩
        · rintro ⟨clean, same⟩
          cases front with
          | nil => exact absurd (cons.inj same).1 other
          | cons first front =>
            obtain ⟨rfl, rfl⟩ := cons.inj same
            exact ⟨(front, back),
              splitOnce_eq_some.mpr ⟨fun member => clean (mem_cons_of_mem _ member), rfl⟩, rfl, rfl⟩

theorem splitOnce_append {front : List α} (clean : separator ∉ front) (back : List α) :
    splitOnce separator (front ++ separator :: back) = some (front, back) :=
  splitOnce_eq_some.mpr ⟨clean, rfl⟩

/-- Parts around the first separator are determined by the whole. -/
theorem split_inj {front back front' back' : List α} (clean : separator ∉ front) (clear : separator ∉ front')
    (same : front ++ separator :: back = front' ++ separator :: back') : front = front' ∧ back = back' := by
  have one := splitOnce_append clean back
  rw [same, splitOnce_append clear back'] at one
  have parts := Option.some.inj one
  exact ⟨(congrArg Prod.fst parts).symm, (congrArg Prod.snd parts).symm⟩

theorem splitOn_eq_iff {text : List α} {parts : List (List α)} : text.splitOn separator = parts ↔
      (parts ≠ [] ∧ ∀ part ∈ parts, separator ∉ part) ∧ text = [separator].intercalate parts := by
  constructor
  · rintro rfl
    refine ⟨⟨splitOn_ne_nil separator text, ?_⟩, (intercalate_splitOn separator).symm⟩
    induction text with
    | nil =>
      rw [splitOn_nil]
      rintro part member
      rw [mem_singleton.mp member]
      exact not_mem_nil
    | cons item rest ih =>
      rw [splitOn_cons_eq_if_modifyHead]
      split
      · rintro part (_ | ⟨_, member⟩)
        · exact not_mem_nil
        · exact ih part member
      · rename_i other
        intro part member
        cases split : rest.splitOn separator with
        | nil => exact absurd split (splitOn_ne_nil separator rest)
        | cons first others =>
          rw [split] at ih member
          rcases mem_cons.mp member with rfl | later
          · refine not_mem_cons_of_ne_of_not_mem ?_ (ih first (mem_cons_self ..))
            exact fun same => other (beq_iff_eq.mpr same.symm)
          · exact ih part (mem_cons_of_mem _ later)
  · rintro ⟨⟨some, clean⟩, rfl⟩
    exact splitOn_intercalate separator clean some

end Parts

section Lines

/-- The lines of a text. What follows the last feed is a line too, unless it is empty. -/
def lines (feed : α) : List α → List (List α)
  | [] => []
  | item :: rest =>
    if item = feed then [] :: lines feed rest
    else
      match lines feed rest with
      | [] => [[item]]
      | line :: others => (item :: line) :: others

theorem lines_append {line : List α} (clean : feed ∉ line) (rest : List α) :
    lines feed (line ++ feed :: rest) = line :: lines feed rest := by
  induction line with
  | nil => rw [nil_append, lines, if_pos rfl]
  | cons item line ih =>
    have other : item ≠ feed := fun same => clean (same ▸ mem_cons_self ..)
    rw [cons_append, lines, if_neg other, ih fun member => clean (mem_cons_of_mem _ member)]

theorem lines_unlines : ∀ {items : List (List α)}, (∀ line ∈ items, feed ∉ line) →
    lines feed (unlines feed items) = items
  | [], _ => rfl
  | line :: items, clean => by
      rw [unlines_cons, lines_append (clean line (mem_cons_self ..)),
        lines_unlines fun other member => clean other (mem_cons_of_mem _ member)]

/-- A text that ends in a feed is the text of its lines. -/
theorem unlines_lines : ∀ {text : List α}, text.getLast? = some feed → unlines feed (lines feed text) = text
  | [], last => absurd last (by simp)
  | item :: rest, last => by
      unfold lines
      cases rest with
      | nil =>
        obtain rfl : item = feed := by simpa using last
        simp [lines]
      | cons second rest =>
        have later : (second :: rest).getLast? = some feed := by
          rwa [getLast?_cons_cons] at last
        have ih := unlines_lines later
        split
        · rename_i found
          rw [unlines_cons, ih, found, nil_append]
        · cases found : lines feed (second :: rest) with
          | nil =>
            rw [found] at ih
            exact absurd ih (by simp)
          | cons line others =>
            rw [found, unlines_cons] at ih
            simp only [unlines_cons, cons_append, ih]

theorem not_mem_lines : ∀ {text line : List α}, line ∈ lines feed text → feed ∉ line
  | [], _, member => nomatch member
  | item :: rest, line, member => by
      unfold lines at member
      split at member
      · rcases mem_cons.mp member with rfl | later
        · exact not_mem_nil
        · exact not_mem_lines later
      · rename_i other
        have each := @not_mem_lines rest
        split at member
        · rw [mem_singleton.mp member]
          exact fun inside => other (mem_singleton.mp inside).symm
        · rename_i first others found
          rw [found] at each
          rcases mem_cons.mp member with rfl | later
          · exact not_mem_cons_of_ne_of_not_mem (Ne.symm other) (each (mem_cons_self ..))
          · exact each (mem_cons_of_mem _ later)

/-- Splitting at the feeds gives the lines, when the last feed is left out. -/
theorem splitOn_dropLast {items : List (List α)} (some : items ≠ []) (clean : ∀ line ∈ items, feed ∉ line) :
    (unlines feed items).dropLast.splitOn feed = items := by
  induction items with
  | nil => exact absurd rfl some
  | cons line items ih =>
    have first := clean line (mem_cons_self ..)
    rw [unlines_cons]
    cases items with
    | nil => rw [unlines_nil, dropLast_concat, splitOn_eq_singleton first]
    | cons second others =>
      have more : unlines feed (second :: others) ≠ [] := by simp
      have split : (line ++ feed :: unlines feed (second :: others)).dropLast =
          line ++ feed :: (unlines feed (second :: others)).dropLast := by
        rw [dropLast_append_of_ne_nil (by simp), dropLast_cons_of_ne_nil more]
      rw [split, splitOn_append_cons_self_of_not_mem first,
        ih (by simp) fun other member => clean other (mem_cons_of_mem _ member)]

end Lines

end PooleOS
