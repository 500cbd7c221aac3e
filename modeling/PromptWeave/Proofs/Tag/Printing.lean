/-
**Printed tags at their places.**

A tag that is printed somewhere in a text is read at its place, with the span that was printed, whatever
stands before and behind it. Its attributes come back as a dictionary: each name once, where it was first
mentioned, with the value that was given to it last. Main statements:

* `Entries.ofPairs_eq_dictionary`: what putting pairs in one after the other comes to;
* `Tag.readAt?`: the tag at a position, with its span;
* `Tag.readAt?_printed`: a printed tag reads back.
-/

import Mathlib.Data.List.Basic
import Mathlib.Data.List.Induction
import PromptWeave.Proofs.Tag.Spelling

namespace PromptWeave

open Text

/-! ### Dictionaries -/

namespace Entries

variable {κ ν : Type} [BEq κ]

/-- The value that a list of pairs gives to a key last. -/
def last? (key : κ) (pairs : List (κ × ν)) : Option ν :=
  (pairs.reverse.find? fun pair => pair.1 == key).map Prod.snd

/-- Pairs as a dictionary: each key once, at its first place, with its last value. -/
def dictionary (pairs : List (κ × ν)) : Entries κ ν :=
  (pairs.map Prod.fst).eraseDups.filterMap fun key => (last? key pairs).map (key, ·)

theorem last?_concat (key other : κ) (value : ν) (pairs : List (κ × ν)) :
    last? other (pairs ++ [(key, value)]) =
      if key == other then some value else last? other pairs := by
  unfold last?
  rw [List.reverse_append, List.reverse_singleton, List.singleton_append, List.find?_cons]
  cases same : key == other <;> simp

theorem ofPairs_concat (key : κ) (value : ν) (pairs : List (κ × ν)) :
    ofPairs (· == ·) (pairs ++ [(key, value)]) = put (· == ·) key value (ofPairs (· == ·) pairs) := by
  rw [ofPairs, List.foldl_append]
  rfl

variable [LawfulBEq κ]

/-- A key that is there keeps its place, and a new one comes to the end. -/
theorem keys_put (key : κ) (value : ν) (entries : Entries κ ν) :
    (put (· == ·) key value entries).map Prod.fst =
      if key ∈ entries.map Prod.fst then entries.map Prod.fst
      else entries.map Prod.fst ++ [key] := by
  induction entries with
  | nil => rfl
  | cons entry entries ih =>
    obtain ⟨first, old⟩ := entry
    rw [put]
    by_cases same : key = first
    · subst same
      simp
    · rw [if_neg (by simpa using same), List.map_cons, ih]
      by_cases inside : key ∈ entries.map Prod.fst
      · rw [if_pos inside, List.map_cons, if_pos (List.mem_cons_of_mem _ inside)]
      · have outside : key ∉ (first, old).1 :: entries.map Prod.fst := by simpa [same] using inside
        rw [if_neg inside, List.map_cons, if_neg outside, List.cons_append]

/-- The value that is put in is the one that is found, and those of other keys stay. -/
theorem find_put (key other : κ) (value : ν) (entries : Entries κ ν) :
    get? (· == ·) other (put (· == ·) key value entries) =
      if key == other then some value else get? (· == ·) other entries := by
  induction entries with
  | nil => by_cases named : key = other <;> simp [put, get?, named, Ne.symm]
  | cons entry entries ih =>
    obtain ⟨first, old⟩ := entry
    rw [put]
    by_cases same : key = first
    · subst same
      by_cases named : key = other
      · simp [get?, named]
      · simp [get?, named, Ne.symm named]
    · rw [if_neg (by simpa using same), get?, get?, ih]
      by_cases here : other = first
      · subst here
        simp [same]
      · simp [here]

/-- No key is put in twice. -/
theorem nodup_keys_ofPairs (pairs : List (κ × ν)) :
    ((ofPairs (· == ·) pairs).map Prod.fst).Nodup := by
  induction pairs using List.reverseRecOn with
  | nil => exact List.nodup_nil
  | append_singleton pairs pair ih =>
    rw [ofPairs_concat, keys_put]
    split
    · exact ih
    · rename_i fresh
      rw [List.nodup_append]
      refine ⟨ih, by simp, ?_⟩
      rintro key inside _ last rfl
      rw [List.mem_singleton.mp last] at inside
      exact fresh inside

/-- **Keys stand in the order of first mention.** -/
theorem keys_ofPairs (pairs : List (κ × ν)) :
    (ofPairs (· == ·) pairs).map Prod.fst = (pairs.map Prod.fst).eraseDups := by
  induction pairs using List.reverseRecOn with
  | nil => rfl
  | append_singleton pairs pair ih =>
    obtain ⟨key, value⟩ := pair
    rw [ofPairs_concat, keys_put, ih, List.map_append, List.eraseDups_append]
    by_cases inside : key ∈ pairs.map Prod.fst
    · simp [List.removeAll, inside]
    · simp [List.removeAll, inside, List.eraseDups_cons]

/-- **A key has the value that it was given last.** -/
theorem find_ofPairs (key : κ) (pairs : List (κ × ν)) :
    get? (· == ·) key (ofPairs (· == ·) pairs) = last? key pairs := by
  induction pairs using List.reverseRecOn with
  | nil => rfl
  | append_singleton pairs pair ih =>
    obtain ⟨other, value⟩ := pair
    rw [ofPairs_concat, find_put, ih, last?_concat]

/-- Entries with different keys are told by their keys and by what is found under them. -/
theorem filterMap_find_keys {entries : Entries κ ν} (distinct : (entries.map Prod.fst).Nodup) :
    (entries.map Prod.fst).filterMap
      (fun key => (get? (· == ·) key entries).map (key, ·)) = entries := by
  induction entries with
  | nil => rfl
  | cons entry entries ih =>
    obtain ⟨first, value⟩ := entry
    obtain ⟨fresh, distinct⟩ := List.nodup_cons.mp distinct
    have later : ∀ key ∈ entries.map Prod.fst,
        (get? (· == ·) key ((first, value) :: entries)).map (key, ·) =
          (get? (· == ·) key entries).map (key, ·) := by
      intro key inside
      have apart : key ≠ first := fun same => fresh (same ▸ inside)
      simp [get?, apart]
    rw [List.map_cons, List.filterMap_cons, List.filterMap_congr later, ih distinct]
    simp [get?]

/-- **Pairs that are put in one after the other** come to their dictionary. -/
theorem ofPairs_eq_dictionary (pairs : List (κ × ν)) :
    ofPairs (· == ·) pairs = dictionary pairs := by
  rw [dictionary, ← keys_ofPairs]
  simp only [← find_ofPairs]
  exact (filterMap_find_keys (nodup_keys_ofPairs pairs)).symm

end Entries

/-! ### Tags in a text -/

namespace Tag

/-- A tag and the span that it has in its text. -/
structure Placed where
  tag : Tag
  /-- The position of its `<`. -/
  start : Nat
  /-- The position after its `>`. -/
  stop : Nat
deriving DecidableEq, Repr

/-- The tag at a position of a text. -/
def readAt? (text : Text) (position : Nat) : Option Placed :=
  (read? (text.drop position)).map fun (tag, after) =>
    ⟨tag, position, text.length - after.length⟩

/-- The names and values of the attributes as they are spelled, in order. -/
def Inside.pairs (inside : Inside) : List (Text × Text) :=
  inside.attributes.map fun item => (item.name, item.value)

/-- **A printed tag reads back at its place**: for every name, every list of attributes, whatever the
blanks and the quotes, for both ways to end, and whatever text stands before and behind it. -/
theorem readAt?_printed {name : Text} (named : IsName name) (inside : Inside) (selfClosing : Bool)
    (front rest : Text) :
    readAt? (front ++ spelled name inside selfClosing ++ rest) front.length =
      some
        { tag :=
            { name := name
              closing := false
              selfClosing := selfClosing
              attributes := Entries.dictionary inside.pairs }
          start := front.length
          stop := front.length + (spelled name inside selfClosing).length } := by
  have here : (front ++ spelled name inside selfClosing ++ rest).drop front.length =
      spelled name inside selfClosing ++ rest := by
    rw [List.append_assoc, List.drop_left]
  have entries : inside.entries = Entries.dictionary inside.pairs :=
    Entries.ofPairs_eq_dictionary inside.pairs
  rw [readAt?, here, read?_spelled named inside selfClosing rest, entries, Option.map_some]
  simp only [List.length_append, Nat.add_sub_cancel]

/-- The attributes `a="1" b='/>' a = "2"`, with a blank behind them. -/
def repeatedAttribute : Inside where
  attributes :=
    [ { gap := [' '], name := ['a']
        assigned := some ⟨[], [], '"', ['1'], isBlank_of_mem_nil, isBlank_of_mem_nil, by decide, by decide⟩
        gap_ne_nil := by decide, gap_blank := isBlank_of_mem_space
        name_ne_nil := by decide, name_inside := List.forall_mem_singleton.mpr rfl },
      { gap := ['\n'], name := ['b']
        assigned := some ⟨[], [], '\'', ['/', '>'], isBlank_of_mem_nil, isBlank_of_mem_nil, by decide,
          by decide⟩
        gap_ne_nil := by decide, gap_blank := List.forall_mem_singleton.mpr rfl
        name_ne_nil := by decide, name_inside := List.forall_mem_singleton.mpr rfl },
      { gap := [' '], name := ['a']
        assigned := some ⟨[' '], [' '], '"', ['2'], isBlank_of_mem_space, isBlank_of_mem_space,
          by decide, by decide⟩
        gap_ne_nil := by decide, gap_blank := isBlank_of_mem_space
        name_ne_nil := by decide, name_inside := List.forall_mem_singleton.mpr rfl } ]
  gap := [' ']
  gap_blank := isBlank_of_mem_space

/-- A repeated attribute keeps its first place and has its last value, and a value may hold `/>`. -/
theorem readAt?_printed_repeated :
    IsName "user".toList ∧
      readAt? "Hi <user a=\"1\"\nb='/>' a = \"2\" />!".toList 3 =
        some ⟨⟨"user".toList, false, true, [(['a'], ['2']), (['b'], ['/', '>'])]⟩, 3, 32⟩ := by
  have named : IsName "user".toList := ⟨rfl, List.all_eq_true.mp rfl⟩
  have attributes : Entries.dictionary repeatedAttribute.pairs =
      [(['a'], ['2']), (['b'], ['/', '>'])] := by decide
  refine ⟨named, ?_⟩
  have read := readAt?_printed named repeatedAttribute true "Hi ".toList ['!']
  rw [attributes] at read
  exact read

end Tag

end PromptWeave
