/-
**Texts as lists of characters.**

A document is a list of characters, so that positions count characters and every scan is a
recursion on what is left to read. Besides the type this module holds the operations on texts that
know nothing of prompts:

* `Text.splitOn` and `Text.joinWith`: cutting at one character and putting back together
  (`Text.splitOn_joinWith`);
* `Text.span_append`: taking apart where the characters stop being of some kind;
* `Text.lineAt`: the line number of a position;
* `Entries`: keyed lists in order of first insertion.
-/

namespace PromptWeave

/-- A text is the list of its characters. -/
abbrev Text := List Char

namespace Text

/-- The pieces between the occurrences of one character; there is always at least one. -/
def splitOn (mark : Char) : Text → List Text
  | [] => [[]]
  | c :: rest =>
    if c = mark then [] :: splitOn mark rest
    else match splitOn mark rest with
      | [] => [[c]]
      | piece :: pieces => (c :: piece) :: pieces

/-- The pieces in order with a text between neighbours. -/
def joinWith (between : Text) : List Text → Text
  | [] => []
  | [piece] => piece
  | piece :: pieces => piece ++ between ++ joinWith between pieces

theorem splitOn_ne_nil (mark : Char) (text : Text) : splitOn mark text ≠ [] := by
  cases text with
  | nil => simp [splitOn]
  | cons c rest =>
    unfold splitOn
    split
    · simp
    · split <;> simp

/-- A text without the mark is one piece. -/
theorem splitOn_of_notMem {mark : Char} {text : Text} (whole : mark ∉ text) : splitOn mark text = [text] := by
  induction text with
  | nil => rfl
  | cons c text ih =>
    rw [List.mem_cons, not_or] at whole
    rw [splitOn, if_neg (Ne.symm whole.1), ih whole.2]

/-- A piece of a text is without the mark and of the characters of the text. -/
theorem of_mem_splitOn {mark : Char} {text piece : Text} (inside : piece ∈ splitOn mark text) :
    mark ∉ piece ∧ piece ⊆ text := by
  induction text generalizing piece with
  | nil =>
    rw [splitOn, List.mem_singleton] at inside
    rw [inside]
    exact ⟨List.not_mem_nil, List.nil_subset _⟩
  | cons c text ih =>
    rw [splitOn] at inside
    split at inside
    · rcases List.mem_cons.mp inside with rfl | later
      · exact ⟨List.not_mem_nil, List.nil_subset _⟩
      · exact ⟨(ih later).1, List.subset_cons_of_subset _ (ih later).2⟩
    · rename_i other
      cases pieces : splitOn mark text with
      | nil => exact absurd pieces (splitOn_ne_nil mark text)
      | cons first others =>
        rw [pieces] at inside ih
        rcases List.mem_cons.mp inside with rfl | later
        · obtain ⟨whole, among⟩ := ih List.mem_cons_self
          exact ⟨List.not_mem_cons_of_ne_of_not_mem (Ne.symm other) whole, List.cons_subset_cons _ among⟩
        · have front := ih (List.mem_cons_of_mem _ later)
          exact ⟨front.1, List.subset_cons_of_subset _ front.2⟩

theorem splitOn_append_mark {mark : Char} {piece : Text} (whole : mark ∉ piece) (rest : Text) :
    splitOn mark (piece ++ mark :: rest) = piece :: splitOn mark rest := by
  induction piece with
  | nil => rw [List.nil_append, splitOn, if_pos rfl]
  | cons c piece ih =>
    rw [List.mem_cons, not_or] at whole
    rw [List.cons_append, splitOn, if_neg (Ne.symm whole.1), ih whole.2]

/-- Joining pieces with a character that none of them holds and cutting at it gives the pieces back. -/
theorem splitOn_joinWith {mark : Char} {pieces : List Text} (some : pieces ≠ [])
    (whole : ∀ piece ∈ pieces, mark ∉ piece) : splitOn mark (joinWith [mark] pieces) = pieces := by
  induction pieces with
  | nil => exact absurd rfl some
  | cons piece pieces ih =>
    rw [List.forall_mem_cons] at whole
    cases pieces with
    | nil => exact splitOn_of_notMem whole.1
    | cons other pieces =>
      rw [joinWith, List.append_assoc, List.singleton_append, splitOn_append_mark whole.1,
        ih (List.cons_ne_nil _ _) whole.2]
      rintro ⟨⟩

/-- What holds of the first characters one by one holds of every character among them. -/
@[elab_as_elim]
theorem forall_small {bound : Nat} {holds : Char → Prop} {c : Char} (small : c.toNat < bound)
    (all : ∀ code : Fin bound, holds (Char.ofNat code)) : holds c := by
  have here := all ⟨c.toNat, small⟩
  rwa [Char.ofNat_toNat] at here

/-- **A text is taken apart where its characters stop being of some kind.** -/
theorem span_append {p : Char → Bool} {start rest : Text} (inside : ∀ c ∈ start, p c = true)
    (boundary : ∀ c, rest.head? = some c → p c = false) :
    (start ++ rest).takeWhile p = start ∧ (start ++ rest).dropWhile p = rest := by
  rw [List.takeWhile_append_of_pos inside, List.dropWhile_append_of_pos inside]
  cases rest with
  | nil => simp
  | cons c rest => simp [boundary c rfl]

/-- The number of the line that a position is on, counted from one. -/
def lineAt (text : Text) (position : Nat) : Nat :=
  (text.take position).count '\n' + 1

end Text

/-- Keyed entries in the order in which their keys were first put in. -/
abbrev Entries (κ ν : Type) := List (κ × ν)

namespace Entries

variable {κ ν : Type}

/-- The value stored under a key. -/
def get? (same : κ → κ → Bool) (key : κ) : Entries κ ν → Option ν
  | [] => none
  | (other, value) :: rest => if same key other then some value else get? same key rest

/-- Stores a value; a key that is there already keeps its place and its spelling. -/
def put (same : κ → κ → Bool) (key : κ) (value : ν) : Entries κ ν → Entries κ ν
  | [] => [(key, value)]
  | (other, old) :: rest =>
    if same key other then (other, value) :: rest else (other, old) :: put same key value rest

/-- The entries of a list of pairs, the last value of a key winning. -/
def ofPairs (same : κ → κ → Bool) (pairs : List (κ × ν)) : Entries κ ν :=
  pairs.foldl (fun entries pair => put same pair.1 pair.2 entries) []

end Entries

end PromptWeave
