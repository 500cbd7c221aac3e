/-
**Written structures are read back.**

A structure is built from texts, integers, truth values and no value by sequences and by mappings whose
keys are names. Whatever its layout, what is written for it is read back as it, its collections being
plain ones. Main statements:

* `Value.IsStructure`: the structures;
* `Json.Reads`: a text is read as a value, whatever stands behind it;
* `Json.writeAt_reads`: what is written for a structure is read as it;
* `Json.Reads.parse?_gap`: as a whole text too, also before a gap.
-/

import Mathlib.Data.List.Forall2
import PromptWeave.Proofs.Json.Atoms
import PromptWeave.Proofs.Value.Labels
import PromptWeave.Proofs.Value.Paths
import PromptWeave.Failure
import PromptWeave.Value.Rendering

namespace PromptWeave

open Text

/-! ### Structures -/

/-- An atom that JSON has, fractions apart; an integer does not have too many digits. -/
def Atom.IsPlain : Atom → Prop
  | .null => True
  | .bool _ => True
  | .integer value => (Numeral.digits value.natAbs).length ≤ Numeral.digitLimit
  | .string _ => True
  | _ => False

namespace Value

/-- A value that is built from plain atoms by sequences and by mappings, the keys of a mapping being names
of which each stands there once. -/
inductive IsStructure : Value → Prop
  | atom {value : Atom} (plain : value.IsPlain) : IsStructure (.atom value)
  | sequence {frozen : Bool} {items : List Value} (inside : ∀ item ∈ items, IsStructure item) :
    IsStructure (.sequence frozen items)
  | mapping {frozen : Bool} {entries : List (Key × Value)} (named : ∀ entry ∈ entries, entry.1.IsName)
    (distinct : (entries.map Prod.fst).Nodup) (inside : ∀ entry ∈ entries, IsStructure entry.2) :
    IsStructure (.mapping frozen entries)

theorem plainItems_eq_map (items : List Value) : plainItems items = items.map plainCollections := by
  induction items with
  | nil => rfl
  | cons item items ih => rw [plainItems, ih, List.map_cons]

theorem plainEntries_eq_map (entries : List (Key × Value)) :
    plainEntries entries = entries.map fun entry => (entry.1, plainCollections entry.2) := by
  induction entries with
  | nil => rfl
  | cons entry entries ih => rw [plainEntries, ih, List.map_cons]

/-- A structure nowhere stands inside itself. -/
theorem IsStructure.isFinite {value : Value} (structured : value.IsStructure) : value.isFinite = true := by
  induction structured with
  | atom plain => rfl
  | sequence inside ih =>
    rw [Value.isFinite, areFinite_iff]
    exact ih
  | mapping named distinct inside ih =>
    rw [Value.isFinite, fieldsAreFinite_iff]
    exact ih

end Value

/-! ### Mappings with names as keys -/

namespace Mapping

/-- A name that is not there yet is put at the end. -/
theorem put_of_notMem {key : Key} (named : key.IsName) {entries : Mapping}
    (absent : key ∉ entries.map Prod.fst) (value : Value) :
    put key value entries = entries ++ [(key, value)] := by
  induction entries with
  | nil => rfl
  | cons entry entries ih =>
    obtain ⟨first, old⟩ := entry
    rw [List.map_cons, List.mem_cons, not_or] at absent
    have elsewhere : Key.same key first = false :=
      Bool.eq_false_iff.mpr fun alike => absent.1 (named.same_left.mp alike).symm
    rw [put, Entries.put, elsewhere]
    exact congrArg ((first, old) :: ·) (ih absent.2)

/-- **Pairs whose keys are names, each there once, are the entries of their mapping.** -/
theorem ofPairs_of_nodup {pairs : List (Key × Value)} (named : ∀ pair ∈ pairs, pair.1.IsName)
    (distinct : (pairs.map Prod.fst).Nodup) : ofPairs pairs = pairs := by
  have fold : ∀ before : Mapping, (∀ pair ∈ pairs, pair.1 ∉ before.map Prod.fst) →
      pairs.foldl (fun entries pair => put pair.1 pair.2 entries) before = before ++ pairs := by
    induction pairs with
    | nil =>
      intro before _
      rw [List.foldl_nil, List.append_nil]
    | cons pair pairs ih =>
      intro before apart
      rw [List.map_cons, List.nodup_cons] at distinct
      rw [List.foldl_cons, put_of_notMem (named pair List.mem_cons_self) (apart pair List.mem_cons_self),
        ih (fun other inside => named other (List.mem_cons_of_mem _ inside)) distinct.2,
        List.append_assoc, List.singleton_append]
      intro other inside
      rw [List.map_append, List.mem_append, not_or, List.map_singleton, List.mem_singleton]
      refine ⟨apart other (List.mem_cons_of_mem _ inside), fun same => distinct.1 ?_⟩
      rw [← same]
      exact List.mem_map_of_mem inside
  exact fold [] fun _ _ absent => by cases absent

end Mapping

namespace Json

/-! ### Gaps -/

/-- A gap between tokens. -/
def IsGap (gap : Text) : Prop := ∀ c ∈ gap, isBlank c = true

theorem skipBlanks_gap {gap : Text} (blank : IsGap gap) (text : Text) :
    skipBlanks (gap ++ text) = skipBlanks text :=
  List.dropWhile_append_of_pos blank

theorem skipBlanks_solid {c : Char} (solid : isBlank c = false) (rest : Text) :
    skipBlanks (c :: rest) = c :: rest := by
  rw [skipBlanks, List.dropWhile_cons, if_neg (by rw [solid]; decide)]

theorem isGap_singleton {c : Char} (blank : isBlank c = true) : IsGap [c] := by
  intro d inside
  rw [List.mem_singleton.mp inside]
  exact blank

theorem isGap_newline (style : Style) (depth : Nat) : IsGap (newline style depth) := by
  unfold newline
  split
  · intro c inside
    cases inside
  · intro c inside
    rw [List.mem_cons, List.mem_replicate] at inside
    rcases inside with rfl | ⟨-, rfl⟩ <;> rfl

/-- A separator is a comma before a gap. -/
theorem exists_separator (style : Style) (depth : Nat) :
    ∃ gap, separator style depth = ',' :: gap ∧ IsGap gap := by
  unfold separator
  split
  · exact ⟨[' '], rfl, isGap_singleton rfl⟩
  · exact ⟨_, rfl, isGap_newline style depth⟩

/-- Blanks end a number. -/
theorem endsNumber_gap {gap : Text} (blank : IsGap gap) {rest : Text} (ends : EndsNumber rest) :
    EndsNumber (gap ++ rest) := by
  cases gap with
  | nil => exact ends
  | cons c gap =>
    have here := blank c List.mem_cons_self
    refine endsNumber_cons ?_ _
    simp only [isBlank, Bool.or_eq_true, beq_iff_eq] at here
    rcases here with ((rfl | rfl) | rfl) | rfl <;> decide

/-! ### Texts that are read as values -/

/-- A text is read as a value, whatever stands behind it and does not go on with a number. -/
structure Reads (text : Text) (value : Value) : Prop where
  begins : ∃ c rest, text = c :: rest ∧ isBlank c = false ∧ c ≠ ']'
  read : ∀ {fuel : Nat} {rest : Text}, 2 * text.length ≤ fuel → EndsNumber rest →
    readValue fuel (text ++ rest) = some (some value, rest)

/-- A text is read as a member of an object. -/
def ReadsMember (text : Text) (member : Key × Value) : Prop :=
  ∃ name content, text = writeString false name ++ [':', ' '] ++ content ∧
    member.1 = Key.ofText name ∧ Reads content member.2

theorem Reads.skipBlanks {text : Text} {value : Value} (reads : Reads text value) (rest : Text) :
    Json.skipBlanks (text ++ rest) = text ++ rest := by
  obtain ⟨c, more, rfl, solid, -⟩ := reads.begins
  exact skipBlanks_solid solid _

/-! ### Rows of items and of members -/

/-- Texts joined by commas begin with the first of them. -/
theorem exists_joinWith_cons (between text : Text) (texts : List Text) :
    ∃ more, joinWith between (text :: texts) = text ++ more := by
  cases texts with
  | nil => exact ⟨[], (List.append_nil text).symm⟩
  | cons next texts => exact ⟨between ++ joinWith between (next :: texts), List.append_assoc ..⟩

/-- How a row is read up to its closing bracket: a text that is read as an item is one of the row, and what
follows it decides whether there are more. -/
structure ReadsRow {α : Type} (readAll : Nat → Text → Option (Option (List α) × Text)) (closing : Char)
    (reads : Text → α → Prop) : Prop where
  closes : isBlank closing = false ∧ ∀ rest, EndsNumber (closing :: rest)
  begins : ∀ {text value}, reads text value → ∃ c rest, text = c :: rest ∧ isBlank c = false ∧ c ≠ closing
  next : ∀ {text value fuel rest more}, reads text value → 2 * text.length ≤ fuel → EndsNumber rest →
    skipBlanks rest = ',' :: more → readAll (fuel + 1) (text ++ rest) =
      (readAll fuel (skipBlanks more)).map fun (values, left) => (values.map (value :: ·), left)
  last : ∀ {text value fuel rest more}, reads text value → 2 * text.length ≤ fuel → EndsNumber rest →
    skipBlanks rest = closing :: more → readAll (fuel + 1) (text ++ rest) = some (some [value], more)

namespace ReadsRow

variable {α : Type} {readAll : Nat → Text → Option (Option (List α) × Text)} {closing : Char}
  {reads : Text → α → Prop} (row : ReadsRow readAll closing reads)

include row

theorem skipBlanks_joined {gap : Text} (blank : IsGap gap) {text : Text} {value : α}
    (read : reads text value) (between : Text) (texts : List Text) (rest : Text) :
    skipBlanks (gap ++ (joinWith between (text :: texts) ++ rest)) =
      joinWith between (text :: texts) ++ rest := by
  obtain ⟨more, begun⟩ := exists_joinWith_cons between text texts
  obtain ⟨c, tail, rfl, solid, -⟩ := row.begins read
  rw [skipBlanks_gap blank, begun, List.append_assoc, List.cons_append, skipBlanks_solid solid]

/-- **A row is read** up to its closing bracket. -/
theorem joined {texts : List Text} {values : List α} (each : List.Forall₂ reads texts values)
    (inhabited : texts ≠ []) {gap ending : Text} (between : IsGap gap) (behind : IsGap ending) (rest : Text) :
    ∀ fuel, 2 * (joinWith (',' :: gap) texts).length < fuel →
      readAll fuel (joinWith (',' :: gap) texts ++ (ending ++ closing :: rest)) = some (some values, rest) := by
  induction each with
  | nil => exact absurd rfl inhabited
  | @cons text value texts values first others ih =>
    intro fuel enough
    obtain ⟨fuel, rfl⟩ := Nat.exists_eq_succ_of_ne_zero (Nat.ne_zero_of_lt enough)
    cases others with
    | nil =>
      rw [joinWith] at enough ⊢
      refine row.last first (by omega) (endsNumber_gap behind (row.closes.2 rest)) ?_
      rw [skipBlanks_gap behind, skipBlanks_solid row.closes.1]
    | @cons second value' texts values read others =>
      have joined : joinWith (',' :: gap) (text :: second :: texts) =
          text ++ ',' :: gap ++ joinWith (',' :: gap) (second :: texts) := rfl
      have whole : joinWith (',' :: gap) (text :: second :: texts) ++ (ending ++ closing :: rest) =
          text ++ ',' :: (gap ++
            (joinWith (',' :: gap) (second :: texts) ++ (ending ++ closing :: rest))) := by
        rw [joined]
        simp only [List.append_assoc, List.cons_append]
      rw [joined, List.length_append, List.length_append, List.length_cons] at enough
      rw [whole, row.next first (by omega) (endsNumber_cons (by decide) _) (skipBlanks_solid rfl _),
        row.skipBlanks_joined between read, ih (List.cons_ne_nil _ _) fuel (by omega)]
      rfl

/-- **What stands between brackets is read** as its row. -/
theorem enclosed {texts : List Text} {values : List α} (each : List.Forall₂ reads texts values)
    (inhabited : texts ≠ []) (style : Style) (depth : Nat) (opening : Char) (rest : Text) :
    ∃ inside whole, enclose style depth opening closing texts ++ rest = opening :: inside ∧
      skipBlanks inside = whole ∧ (∀ more, whole ≠ closing :: more) ∧
      ∀ fuel, 2 * (enclose style depth opening closing texts).length ≤ fuel + 1 →
        readAll fuel whole = some (some values, rest) := by
  obtain ⟨gap, separated, between⟩ := exists_separator style (depth + 1)
  have before := isGap_newline style (depth + 1)
  have behind := isGap_newline style depth
  have layout : enclose style depth opening closing texts = opening :: (newline style (depth + 1) ++
      (joinWith (',' :: gap) texts ++ (newline style depth ++ [closing]))) := by
    rw [enclose, if_neg inhabited, separated]
    simp only [List.append_assoc, List.cons_append, List.nil_append]
  have joined := row.joined each inhabited between behind rest
  refine ⟨newline style (depth + 1) ++ (joinWith (',' :: gap) texts ++ (newline style depth ++ closing :: rest)),
    joinWith (',' :: gap) texts ++ (newline style depth ++ closing :: rest), ?_, ?_, ?_, ?_⟩
  · rw [layout]
    simp only [List.append_assoc, List.cons_append, List.nil_append]
  · cases each with
    | nil => exact absurd rfl inhabited
    | cons first others => exact row.skipBlanks_joined before first _ _ _
  · intro more same
    cases each with
    | nil => exact absurd rfl inhabited
    | @cons text _ texts _ first others =>
      obtain ⟨c, tail, rfl, -, other⟩ := row.begins first
      obtain ⟨left, begun⟩ := exists_joinWith_cons (',' :: gap) (c :: tail) texts
      rw [begun] at same
      exact other (List.cons.inj same).1
  · intro fuel enough
    rw [layout] at enough
    simp only [List.length_cons, List.length_append] at enough
    exact joined fuel (by omega)

end ReadsRow

theorem readsRow_items : ReadsRow readItems ']' Reads where
  closes := ⟨rfl, endsNumber_cons (by decide)⟩
  begins read := read.begins
  next read enough ends comma := by
    rw [readItems.eq_2, read.read enough ends]
    dsimp only
    rw [comma]
    rfl
  last read enough ends closing := by
    rw [readItems.eq_2, read.read enough ends]
    dsimp only
    rw [closing]
    rfl

/-- A member is read up to what decides whether there are more. -/
theorem readMembers_member {text : Text} {member : Key × Value} (read : ReadsMember text member) {fuel : Nat}
    {rest : Text} (enough : 2 * text.length ≤ fuel) (ends : EndsNumber rest) :
    readMembers (fuel + 1) (text ++ rest) =
      match skipBlanks rest with
      | ',' :: more =>
        (readMembers fuel (skipBlanks more)).map fun (members, left) => (members.map (member :: ·), left)
      | '\x7d' :: more => some (some [member], more)
      | _ => none := by
  obtain ⟨key, value⟩ := member
  obtain ⟨name, content, rfl, rfl, content_read⟩ := read
  have whole : writeString false name ++ [':', ' '] ++ content ++ rest =
      '"' :: (name.flatMap (writeCharacter false) ++ '"' :: ':' :: ' ' :: (content ++ rest)) := by
    simp only [writeString, List.append_assoc, List.cons_append, List.nil_append]
  have start : skipBlanks (' ' :: (content ++ rest)) = content ++ rest := by
    rw [← List.singleton_append, skipBlanks_gap (isGap_singleton rfl), content_read.skipBlanks]
  simp only [List.length_append] at enough
  rw [whole, readMembers.eq_2, readString_written]
  dsimp only
  split
  · rename_i between colon
    rw [skipBlanks_solid rfl] at colon
    cases colon
    have inner : readValue fuel (skipBlanks (' ' :: (content ++ rest))) = some (some value, rest) := by
      rw [start, content_read.read (by omega) ends]
    split
    · rename_i nothing
      rw [inner] at nothing
      cases nothing
    · rename_i found
      rw [inner] at found
      cases found
      rfl
  · rename_i other
    exact absurd (skipBlanks_solid rfl _) (other _)

theorem readsRow_members : ReadsRow readMembers '\x7d' ReadsMember where
  closes := ⟨rfl, endsNumber_cons (by decide)⟩
  begins read := by
    obtain ⟨name, content, rfl, -⟩ := read
    exact ⟨'"', _, rfl, rfl, by decide⟩
  next read enough ends comma := by
    rw [readMembers_member read enough ends, comma]
    rfl
  last read enough ends closing := by
    rw [readMembers_member read enough ends, closing]
    rfl

/-! ### Values -/

theorem reads_atom {c : Char} {text : Text} {value : Atom} (begins : isBlank c = false)
    (other : c ≠ '"' ∧ c ≠ '[' ∧ c ≠ '\x7b' ∧ c ≠ ']')
    (read : ∀ {rest}, EndsNumber rest → readAtom (c :: text ++ rest) = some (value, rest)) :
    Reads (c :: text) (.atom value) := by
  refine ⟨⟨c, text, rfl, begins, other.2.2.2⟩, ?_⟩
  intro fuel rest enough ends
  rw [List.length_cons] at enough
  obtain ⟨fuel, rfl⟩ := Nat.exists_eq_succ_of_ne_zero (Nat.ne_zero_of_lt enough)
  rw [readValue.eq_5, read ends]
  · rfl
  · rintro _ same
    exact other.1 (List.cons.inj same).1
  · rintro _ same
    exact other.2.1 (List.cons.inj same).1
  · rintro _ same
    exact other.2.2.1 (List.cons.inj same).1

theorem reads_integer {value : Int} (short : (Numeral.digits value.natAbs).length ≤ Numeral.digitLimit) :
    Reads (Numeral.ofInt value) (.integer value) := by
  have read : ∀ {rest}, EndsNumber rest → readAtom (Numeral.ofInt value ++ rest) = some (.integer value, rest) :=
    readAtom_integer short
  cases value with
  | ofNat number =>
    rw [Numeral.ofInt] at read ⊢
    obtain ⟨c, row, whole, digit⟩ := Numeral.exists_digits_cons number
    have solid : isBlank c = false ∧ c ≠ '"' ∧ c ≠ '[' ∧ c ≠ '\x7b' ∧ c ≠ ']' :=
      Numeral.forall_digit digit (by decide)
    rw [whole] at read ⊢
    exact reads_atom solid.1 solid.2 read
  | negSucc number => exact reads_atom rfl (by decide) read

theorem reads_string (text : Text) : Reads (writeString false text) (.text text) := by
  refine ⟨⟨'"', _, rfl, rfl, by decide⟩, ?_⟩
  intro fuel rest enough ends
  have whole : writeString false text ++ rest =
      '"' :: (text.flatMap (writeCharacter false) ++ '"' :: rest) := by
    simp only [writeString, List.append_assoc, List.cons_append, List.nil_append]
  rw [whole]
  rw [writeString, List.length_cons] at enough
  obtain ⟨fuel, rfl⟩ := Nat.exists_eq_succ_of_ne_zero (Nat.ne_zero_of_lt enough)
  rw [readValue.eq_2, readString_written]
  rfl

/-- **What is written for a plain atom is read as it.** -/
theorem writeAtom_reads {style : Style} (unescaped : style.asciiOnly = false) {value : Atom}
    (plain : value.IsPlain) : ∃ text, writeAtom style value = .ok text ∧ Reads text (.atom value) := by
  cases value with
  | null => exact ⟨['n', 'u', 'l', 'l'], rfl, reads_atom rfl (by decide) fun _ => (readAtom_word _).1⟩
  | bool value =>
    cases value with
    | true =>
      exact ⟨['t', 'r', 'u', 'e'], rfl, reads_atom rfl (by decide) fun _ => (readAtom_word _).2.1⟩
    | false =>
      exact ⟨['f', 'a', 'l', 's', 'e'], rfl, reads_atom rfl (by decide) fun _ => (readAtom_word _).2.2⟩
  | integer value =>
    refine ⟨Numeral.ofInt value, ?_, reads_integer plain⟩
    rw [writeAtom, writeInteger, Numeral.write?, if_neg (Nat.not_lt.mpr plain)]
    rfl
  | string value =>
    refine ⟨_, rfl, ?_⟩
    have reads := reads_string value.toList
    rw [Value.text, String.ofList_toList] at reads
    rw [unescaped]
    exact reads
  | fraction => cases plain
  | date => cases plain
  | moment => cases plain
  | bytes => cases plain

/-- What is enclosed stands between its brackets. -/
theorem exists_enclose (style : Style) (depth : Nat) (opening closing : Char) (texts : List Text) :
    ∃ inside, enclose style depth opening closing texts = opening :: (inside ++ [closing]) := by
  unfold enclose
  split
  · exact ⟨[], rfl⟩
  · exact ⟨_, rfl⟩

/-- **An array is read** as its items. -/
theorem reads_sequence {texts : List Text} {items : List Value} (each : List.Forall₂ Reads texts items)
    (style : Style) (depth : Nat) : Reads (enclose style depth '[' ']' texts) (.list items) := by
  obtain ⟨inner, begins⟩ := exists_enclose style depth '[' ']' texts
  refine ⟨⟨'[', _, begins, rfl, by decide⟩, ?_⟩
  intro fuel rest enough ends
  have room : 2 ≤ fuel := by
    rw [begins, List.length_cons] at enough
    omega
  obtain ⟨fuel, rfl⟩ := Nat.exists_eq_succ_of_ne_zero (Nat.ne_zero_of_lt room)
  by_cases inhabited : texts = []
  · subst inhabited
    cases each
    rfl
  · obtain ⟨inside, whole, layout, start, other, read⟩ :=
      readsRow_items.enclosed each inhabited style depth '[' rest
    rw [layout, readValue.eq_3, start]
    split
    · rename_i after
      exact absurd rfl (other after)
    · rw [read fuel enough]
      rfl

/-- **An object is read** as its members, if these are named apart. -/
theorem reads_mapping {texts : List Text} {members : List (Key × Value)}
    (each : List.Forall₂ ReadsMember texts members) (named : ∀ member ∈ members, member.1.IsName)
    (distinct : (members.map Prod.fst).Nodup) (style : Style) (depth : Nat) :
    Reads (enclose style depth '\x7b' '\x7d' texts) (.mapping false members) := by
  obtain ⟨inner, begins⟩ := exists_enclose style depth '\x7b' '\x7d' texts
  refine ⟨⟨'\x7b', _, begins, rfl, by decide⟩, ?_⟩
  intro fuel rest enough ends
  have room : 2 ≤ fuel := by
    rw [begins, List.length_cons] at enough
    omega
  obtain ⟨fuel, rfl⟩ := Nat.exists_eq_succ_of_ne_zero (Nat.ne_zero_of_lt room)
  by_cases inhabited : texts = []
  · subst inhabited
    cases each
    rfl
  · obtain ⟨inside, whole, layout, start, other, read⟩ :=
      readsRow_members.enclosed each inhabited style depth '\x7b' rest
    rw [layout, readValue.eq_4, start]
    split
    · rename_i after
      exact absurd rfl (other after)
    · rw [read fuel enough, Option.map_some]
      dsimp only
      rw [Option.map_some, Mapping.ofPairs_of_nodup named distinct]

/-! ### What is written -/

/-- What is written for items that are read back are texts that are read as them. -/
theorem writeItems_reads {style : Style} {depth : Nat} {items : List Value}
    (each : ∀ item ∈ items, ∃ text, writeAt style depth item = .ok text ∧ Reads text item) :
    ∃ texts, writeItems style depth items = .ok texts ∧ List.Forall₂ Reads texts items := by
  induction items with
  | nil => exact ⟨[], rfl, .nil⟩
  | cons item items ih =>
    obtain ⟨text, written, reads⟩ := each item List.mem_cons_self
    obtain ⟨texts, all, others⟩ := ih fun other inside => each other (List.mem_cons_of_mem _ inside)
    refine ⟨text :: texts, ?_, .cons reads others⟩
    rw [writeItems, written, all]
    rfl

/-- What is written for members that are named and read back are texts that are read as them. -/
theorem writeEntries_reads {style : Style} (unescaped : style.asciiOnly = false) {depth : Nat}
    {entries : List (Key × Value)} (named : ∀ entry ∈ entries, entry.1.IsName)
    (each : ∀ entry ∈ entries, ∃ text, writeAt style depth entry.2 = .ok text ∧ Reads text entry.2) :
    ∃ texts, writeEntries style depth entries = .ok texts ∧ List.Forall₂ ReadsMember texts entries := by
  induction entries with
  | nil => exact ⟨[], rfl, .nil⟩
  | cons entry entries ih =>
    obtain ⟨key, value⟩ := entry
    obtain ⟨text, written, reads⟩ := each _ List.mem_cons_self
    obtain ⟨texts, all, others⟩ := ih (fun other inside => named other (List.mem_cons_of_mem _ inside))
      fun other inside => each other (List.mem_cons_of_mem _ inside)
    obtain ⟨name, rfl⟩ : ∃ name, key = Key.ofString name := named _ List.mem_cons_self
    have same : Key.ofString name = Key.ofText name.toList := by rw [Key.ofText, String.ofList_toList]; rfl
    refine ⟨_, ?_, .cons ⟨name.toList, text, rfl, same, reads⟩ others⟩
    rw [writeEntries, written, all, unescaped]
    rfl

/-- **What is written for a structure is read** as the structure with plain collections, in every layout and
at every depth. -/
theorem writeAt_reads {style : Style} (unescaped : style.asciiOnly = false) {value : Value}
    (structured : value.IsStructure) (depth : Nat) :
    ∃ text, writeAt style depth value.plainCollections = .ok text ∧ Reads text value.plainCollections := by
  induction structured generalizing depth with
  | atom plain => exact writeAtom_reads unescaped plain
  | @sequence frozen items inside ih =>
    have each : ∀ item ∈ items.map Value.plainCollections,
        ∃ text, writeAt style (depth + 1) item = .ok text ∧ Reads text item := by
      simpa only [List.forall_mem_map] using fun item inside => ih item inside (depth + 1)
    obtain ⟨texts, written, reads⟩ := writeItems_reads each
    refine ⟨enclose style depth '[' ']' texts, ?_, ?_⟩
    · rw [Value.plainCollections, Value.plainItems_eq_map, writeAt, written]
      rfl
    · rw [Value.plainCollections, Value.plainItems_eq_map]
      exact reads_sequence reads style depth
  | @mapping frozen entries named distinct inside ih =>
    rw [Value.plainCollections, Value.plainEntries_eq_map]
    have names : ∀ entry ∈ entries.map fun entry => (entry.1, entry.2.plainCollections), entry.1.IsName := by
      simpa only [List.forall_mem_map] using named
    have each : ∀ entry ∈ entries.map fun entry => (entry.1, entry.2.plainCollections),
        ∃ text, writeAt style (depth + 1) entry.2 = .ok text ∧ Reads text entry.2 := by
      simpa only [List.forall_mem_map] using fun entry inside => ih entry inside (depth + 1)
    obtain ⟨texts, written, reads⟩ := writeEntries_reads unescaped names each
    refine ⟨enclose style depth '\x7b' '\x7d' texts, ?_, ?_⟩
    · rw [writeAt, written]
      rfl
    · refine reads_mapping reads names ?_ style depth
      rw [List.map_map]
      exact distinct

/-- **A whole text that is read as a value has it**, also before a gap. -/
theorem Reads.parse?_gap {text gap : Text} {value : Value} (reads : Reads text value) (blank : IsGap gap) :
    Json.parse? (text ++ gap) = some (some value) := by
  have enough : 2 * text.length ≤ 2 * (text ++ gap).length + 2 := by
    rw [List.length_append]
    omega
  have ends : EndsNumber gap := by
    simpa only [List.append_nil] using endsNumber_gap blank endsNumber_nil
  have nothing : Json.skipBlanks gap = [] := List.dropWhile_eq_nil_iff.mpr blank
  rw [Json.parse?, reads.skipBlanks, reads.read enough ends]
  dsimp only
  rw [if_pos nothing]

theorem Reads.valueOf {text : Text} {value : Value} (reads : Reads text value) :
    Json.valueOf text = .ok value := by
  have none : IsGap [] := fun _ absent => by cases absent
  have whole := reads.parse?_gap none
  rw [List.append_nil] at whole
  rw [Json.valueOf, whole]

theorem Reads.read?_gap {text gap : Text} {value : Value} (reads : Reads text value) (blank : IsGap gap) :
    Json.read? (text ++ gap) = some value := by
  rw [Json.read?, reads.parse?_gap blank]
  rfl

end Json

end PromptWeave
