/-
**How tags are spelled.**

A tag is spelled with its name, its attributes with their values in quotes, and blanks between them;
blanks may also stand around the signs of assignment and in front of the end. Every such spelling
reads back, whatever follows it. Main statements:

* `Tag.read?_spelled`: an opening or single tag reads back;
* `Tag.read?_closing`: so does a closing tag;
* `Tag.afterClosing?_skip`: a search for a closing tag passes over a text in which no tag of that
  name may begin;
* `Tag.afterClosing?_closing`: and ends at the closing tag.
-/

import PromptWeave.Proofs.Tag.Locality

namespace PromptWeave

open Text

namespace Tag

/-! ### Spellings -/

/-- A value as it is spelled: a sign of assignment among blanks, and the value in quotes. -/
structure ValueSpelling where
  beforeSign : Text
  afterSign : Text
  quote : Char
  value : Text
  beforeSign_blank : ∀ c ∈ beforeSign, isBlank c = true
  afterSign_blank : ∀ c ∈ afterSign, isBlank c = true
  isQuote : quote = '"' ∨ quote = '\''
  value_free : quote ∉ value

/-- The characters of a value with its sign. -/
def ValueSpelling.text (spelling : ValueSpelling) : Text :=
  spelling.beforeSign ++ '=' ::
    (spelling.afterSign ++ spelling.quote :: (spelling.value ++ [spelling.quote]))

/-- An attribute as it is spelled: blanks in front of it, its name, and its value if it has one. -/
structure AttributeSpelling where
  gap : Text
  name : Text
  assigned : Option ValueSpelling
  gap_ne_nil : gap ≠ []
  gap_blank : ∀ c ∈ gap, isBlank c = true
  name_ne_nil : name ≠ []
  name_inside : ∀ c ∈ name, inAttribute c = true

namespace AttributeSpelling

/-- The characters of an attribute. -/
def text (item : AttributeSpelling) : Text :=
  item.gap ++ (item.name ++ (item.assigned.map ValueSpelling.text).getD [])

/-- The value of an attribute, which is empty where none is assigned. -/
def value (item : AttributeSpelling) : Text := (item.assigned.map (·.value)).getD []

end AttributeSpelling

/-- What stands in a tag behind its name: the attributes, and blanks in front of the end. -/
structure Inside where
  attributes : List AttributeSpelling
  gap : Text
  gap_blank : ∀ c ∈ gap, isBlank c = true

namespace Inside

/-- The characters behind the name of a tag. -/
def text (inside : Inside) : Text :=
  inside.attributes.flatMap AttributeSpelling.text ++ inside.gap

/-- The attributes in order of first mention, a repeated name with its last value. -/
def entries (inside : Inside) : Entries Text Text :=
  Entries.ofPairs (· == ·) (inside.attributes.map fun item => (item.name, item.value))

end Inside

/-- The end of a tag. -/
def ending (selfClosing : Bool) : Text := if selfClosing then ['/', '>'] else ['>']

/-- An opening tag, or a single tag that closes itself. -/
def spelled (name : Text) (inside : Inside) (selfClosing : Bool) : Text :=
  '<' :: (name ++ (inside.text ++ ending selfClosing))

/-- The closing tag of a name. -/
def closingOf (name : Text) : Text := '<' :: '/' :: (name ++ ['>'])

/-! ### Characters that end a name -/

/-- A blank does not go on with a name. -/
theorem continuesName_of_isBlank {c : Char} (blank : isBlank c = true) :
    continuesName c = false := by
  have blanks : ∀ code ∈ List.range' 9 5 ++ List.range' 28 5 ++ [0x85, 0xA0, 0x1680] ++
      List.range' 0x2000 11 ++ [0x2028, 0x2029, 0x202F, 0x205F, 0x3000],
      continuesName (Char.ofNat code) = false := by decide +kernel
  have listed : c.toNat ∈ List.range' 9 5 ++ List.range' 28 5 ++ [0x85, 0xA0, 0x1680] ++
      List.range' 0x2000 11 ++ [0x2028, 0x2029, 0x202F, 0x205F, 0x3000] := by
    simp only [isBlank, Bool.or_eq_true, Bool.and_eq_true, decide_eq_true_eq, beq_iff_eq] at blank
    simp only [List.mem_append, List.mem_range'_1, List.mem_cons, List.not_mem_nil, or_false]
    omega
  have stops := blanks _ listed
  rwa [Char.ofNat_toNat] at stops

/-- A blank is no character of an attribute's name. -/
theorem inAttribute_of_isBlank {c : Char} (blank : isBlank c = true) : inAttribute c = false := by
  simp [inAttribute, blank]

/-- What may follow a name in a tag: it goes on with neither kind of name, and no value is assigned
behind its blanks. -/
structure EndsName (behind : Text) : Prop where
  boundary : ∀ c, behind.head? = some c → isBlank c = true ∨ c = '/' ∨ c = '>'
  unsigned : ∀ assigned, stripLeft behind ≠ '=' :: assigned

theorem EndsName.inAttribute {behind : Text} (ends : EndsName behind) (c : Char)
    (begins : behind.head? = some c) : inAttribute c = false := by
  rcases ends.boundary c begins with blank | rfl | rfl
  · exact inAttribute_of_isBlank blank
  · rfl
  · rfl

theorem EndsName.continuesName {behind : Text} (ends : EndsName behind) (c : Char)
    (begins : behind.head? = some c) : continuesName c = false := by
  rcases ends.boundary c begins with blank | rfl | rfl
  · exact continuesName_of_isBlank blank
  · decide
  · decide

/-- Blanks end a name if a solid character other than the sign of assignment follows, and so does
that character alone if it begins the end of a tag. -/
theorem endsName_append {gap rest : Text} (blank : ∀ c ∈ gap, isBlank c = true) {c : Char}
    (begins : rest.head? = some c) (solid : isBlank c = false) (unsigned : c ≠ '=')
    (ends : gap = [] → c = '/' ∨ c = '>') : EndsName (gap ++ rest) := by
  constructor
  · intro d first
    cases gap with
    | nil =>
      rw [List.nil_append, begins] at first
      cases first
      exact Or.inr (ends rfl)
    | cons e gap =>
      cases first
      exact Or.inl (blank d List.mem_cons_self)
  · intro assigned signed
    have stripped : stripLeft (gap ++ rest) = rest := by
      refine (span_append blank fun d first => ?_).2
      rw [begins] at first
      cases first
      exact solid
    rw [stripped] at signed
    rw [signed] at begins
    cases begins
    exact unsigned rfl

/-- Behind a name in a tag stand attributes, or the end of the tag. -/
theorem endsName_attributes (attributes : List AttributeSpelling) {gap : Text}
    (blank : ∀ c ∈ gap, isBlank c = true) (selfClosing : Bool) (rest : Text) :
    EndsName (attributes.flatMap AttributeSpelling.text ++
      (gap ++ (ending selfClosing ++ rest))) := by
  cases attributes with
  | nil =>
    rw [List.flatMap_nil, List.nil_append]
    cases selfClosing with
    | false => exact endsName_append blank rfl (by decide) (by decide) fun _ => Or.inr rfl
    | true => exact endsName_append blank rfl (by decide) (by decide) fun _ => Or.inl rfl
  | cons item others =>
    obtain ⟨c, name, named⟩ := List.exists_cons_of_ne_nil item.name_ne_nil
    have here := item.name_inside c (by rw [named]; exact List.mem_cons_self)
    rw [List.flatMap_cons, AttributeSpelling.text, List.append_assoc, List.append_assoc, named]
    refine endsName_append item.gap_blank rfl ?_ ?_ fun empty => absurd empty item.gap_ne_nil
    · by_contra blank
      rw [Bool.not_eq_false] at blank
      simp [Tag.inAttribute, blank] at here
    · rintro rfl
      simp [Tag.inAttribute, stopsAttribute] at here

/-! ### Reading back -/

theorem readAttributes_blanks {closing : Bool} {entries : Entries Text Text} {gap : Text}
    (blank : ∀ c ∈ gap, isBlank c = true) (rest : Text) :
    readAttributes closing entries (gap ++ rest) = readAttributes closing entries rest := by
  induction gap with
  | nil => rfl
  | cons c gap ih =>
    obtain ⟨here, later⟩ := List.forall_mem_cons.mp blank
    rw [List.cons_append, readAttributes_blank here, ih later]

/-- A value is read behind the sign of assignment. -/
theorem readValue_spelled (spelling : ValueSpelling) (rest : Text) :
    readValue (spelling.text ++ rest) = some (spelling.value, rest) := by
  have whole : spelling.text ++ rest = spelling.beforeSign ++ '=' :: (spelling.afterSign ++
      spelling.quote :: (spelling.value ++ spelling.quote :: rest)) := by
    simp [ValueSpelling.text]
  have sign : stripLeft (spelling.text ++ rest) = '=' :: (spelling.afterSign ++
      spelling.quote :: (spelling.value ++ spelling.quote :: rest)) := by
    rw [whole]
    refine (span_append spelling.beforeSign_blank ?_).2
    rintro c ⟨⟩
    rfl
  have quoted : stripLeft (spelling.afterSign ++
      spelling.quote :: (spelling.value ++ spelling.quote :: rest)) =
      spelling.quote :: (spelling.value ++ spelling.quote :: rest) := by
    refine (span_append spelling.afterSign_blank ?_).2
    rintro c ⟨⟩
    rcases spelling.isQuote with is | is <;> rw [is] <;> rfl
  rw [readValue_eq, sign, readAssigned, quoted, readWord, if_pos spelling.isQuote]
  exact readQuoted_eq_some_iff.mpr ⟨spelling.value_free, rfl⟩

/-- An attribute is read up to its closing quote, or up to the end of its name. -/
theorem readAttributes_spelled (entries : Entries Text Text) (item : AttributeSpelling)
    {rest : Text} (ends : EndsName rest) :
    readAttributes false entries (item.text ++ rest) =
      readAttributes false (entries.put (· == ·) item.name item.value) rest := by
  obtain ⟨c, name, named⟩ := List.exists_cons_of_ne_nil item.name_ne_nil
  have inside := item.name_inside
  rw [named] at inside
  obtain ⟨here, later⟩ := List.forall_mem_cons.mp inside
  rw [AttributeSpelling.text, AttributeSpelling.value, List.append_assoc, List.append_assoc,
    readAttributes_blanks item.gap_blank, named]
  cases assigned : item.assigned with
  | none =>
    obtain ⟨taken, dropped⟩ := span_append later ends.inAttribute
    have read : readValue rest = some ([], stripLeft rest) := by
      rw [readValue_eq, readAssigned]
      exact ends.unsigned
    have leading : ∀ d ∈ rest.takeWhile isBlank, isBlank d = true :=
      fun d => List.mem_takeWhile_imp
    have parts : rest.takeWhile isBlank ++ stripLeft rest = rest :=
      List.takeWhile_append_dropWhile
    have blanks : readAttributes false (entries.put (· == ·) (c :: name) []) (stripLeft rest) =
        readAttributes false (entries.put (· == ·) (c :: name) []) rest := by
      rw [← readAttributes_blanks leading (stripLeft rest), parts]
    simp only [Option.map_none, Option.getD_none, List.nil_append, List.cons_append]
    rw [readAttributes_attribute here (by rw [dropped]; exact read), taken, blanks]
  | some spelling =>
    have boundary : ∀ d, (spelling.text ++ rest).head? = some d → Tag.inAttribute d = false := by
      intro d begins
      cases before : spelling.beforeSign with
      | nil =>
        rw [ValueSpelling.text, before] at begins
        cases begins
        rfl
      | cons e blanks =>
        rw [ValueSpelling.text, before] at begins
        cases begins
        exact inAttribute_of_isBlank
          (spelling.beforeSign_blank d (by rw [before]; exact List.mem_cons_self))
    obtain ⟨taken, dropped⟩ := span_append later boundary
    simp only [Option.map_some, Option.getD_some, List.cons_append]
    rw [readAttributes_attribute here (by rw [dropped]; exact readValue_spelled spelling rest),
      taken]

/-- What stands behind the name of a tag is read with the end of the tag. -/
theorem readAttributes_inside (inside : Inside) (selfClosing : Bool) (rest : Text) :
    readAttributes false [] (inside.text ++ (ending selfClosing ++ rest)) =
      some (inside.entries, selfClosing, rest) := by
  have ended (entries : Entries Text Text) :
      readAttributes false entries (inside.gap ++ (ending selfClosing ++ rest)) =
        some (entries, selfClosing, rest) := by
    rw [readAttributes_blanks inside.gap_blank]
    cases selfClosing with
    | false => exact readAttributes_end rest
    | true => exact readAttributes_slash rest
  -- The attributes that were read before are what the induction carries along.
  have all (attributes : List AttributeSpelling) (entries : Entries Text Text) :
      readAttributes false entries (attributes.flatMap AttributeSpelling.text ++
        (inside.gap ++ (ending selfClosing ++ rest))) =
      some (attributes.foldl
        (fun found item => found.put (· == ·) item.name item.value) entries,
        selfClosing, rest) := by
    induction attributes generalizing entries with
    | nil => exact ended entries
    | cons item others ih =>
      rw [List.flatMap_cons, List.append_assoc, readAttributes_spelled entries item
        (endsName_attributes others inside.gap_blank selfClosing rest), ih]
      rfl
  rw [Inside.text, List.append_assoc, all, Inside.entries, Entries.ofPairs, List.foldl_map]

/-- The body of a tag is read from the name on. -/
theorem readBody_of_readAttributes {closing selfClosing : Bool} {name behind rest : Text}
    {entries : Entries Text Text} (named : IsName name)
    (boundary : ∀ c, behind.head? = some c → continuesName c = false)
    (read : readAttributes closing [] behind = some (entries, selfClosing, rest)) :
    readBody closing (name ++ behind) = some (⟨name, closing, selfClosing, entries⟩, rest) := by
  cases name with
  | nil => exact named.elim
  | cons c name =>
    obtain ⟨taken, dropped⟩ := span_append named.2 boundary
    rw [List.cons_append, readBody, if_pos named.1, taken, dropped, read]
    rfl

theorem startsName_ne_slash {name behind : Text} (named : IsName name) :
    ∀ rest, name ++ behind ≠ '/' :: rest := by
  intro rest begins
  cases name with
  | nil => exact named
  | cons c name =>
    obtain ⟨rfl, _⟩ := List.cons.inj begins
    exact absurd named.1 (by decide)

/-- **An opening or single tag reads back**, whatever follows it. -/
theorem read?_spelled {name : Text} (named : IsName name) (inside : Inside) (selfClosing : Bool)
    (rest : Text) :
    read? (spelled name inside selfClosing ++ rest) =
      some (⟨name, false, selfClosing, inside.entries⟩, rest) := by
  have spelling : spelled name inside selfClosing ++ rest =
      '<' :: (name ++ (inside.text ++ (ending selfClosing ++ rest))) := by
    simp [spelled]
  have ends : EndsName (inside.text ++ (ending selfClosing ++ rest)) := by
    rw [Inside.text, List.append_assoc]
    exact endsName_attributes _ inside.gap_blank selfClosing rest
  rw [spelling, read?]
  · exact readBody_of_readAttributes named ends.continuesName (readAttributes_inside _ _ _)
  · exact startsName_ne_slash named

/-- **A closing tag reads back**, whatever follows it. -/
theorem read?_closing {name : Text} (named : IsName name) (rest : Text) :
    read? (closingOf name ++ rest) = some (⟨name, true, false, []⟩, rest) := by
  have spelling : closingOf name ++ rest = '<' :: '/' :: (name ++ '>' :: rest) := by
    simp [closingOf]
  rw [spelling, read?]
  refine readBody_of_readAttributes named ?_ (readAttributes_end rest)
  rintro c ⟨⟩
  decide

/-! ### Looking for the closing tag -/

theorem mayStart_closing (name rest : Text) : mayStart name (closingOf name ++ rest) = true := by
  have spelling : closingOf name ++ rest = '<' :: '/' :: (name ++ '>' :: rest) := by
    simp [closingOf]
  rw [spelling, mayStart, namesStart, List.drop_left]
  simp

/-- No tag of a name may begin in a text. -/
def FreeOf (name text : Text) : Prop :=
  ∀ rest, '<' :: rest <:+ text → mayStart name ('<' :: rest) = false

theorem FreeOf.of_cons {name text : Text} {c : Char} (free : FreeOf name (c :: text)) :
    FreeOf name text :=
  fun rest inside => free rest (inside.trans (List.suffix_cons c text))

/-- A name without `<` that stands at the start of a text in front of a `<` stands in the text
alone. -/
theorem namesStart_append {name : Text} (free : '<' ∉ name) (text rest : Text)
    (starts : namesStart name (text ++ '<' :: rest) = true) : namesStart name text = true := by
  induction name generalizing text with
  | nil =>
    cases text with
    | nil => rfl
    | cons c text => exact starts
  | cons d name ih =>
    obtain ⟨apart, free⟩ : '<' ≠ d ∧ '<' ∉ name := by simpa using free
    cases text with
    | nil =>
      have other : (d == '<') = false := beq_eq_false_iff_ne.mpr (Ne.symm apart)
      simp [namesStart, List.isPrefixOf, other] at starts
    | cons c text =>
      have inner := ih free text
      simp only [namesStart, List.cons_append, List.isPrefixOf, List.length_cons,
        List.drop_succ_cons, Bool.and_assoc, Bool.and_eq_true] at inner starts ⊢
      exact ⟨starts.1, inner starts.2⟩

/-- **A name that may begin a tag in front of a `<` may begin it without what follows.** -/
theorem mayStart_append {name text : Text} (free : '<' ∉ name) (c : Char) (rest : Text)
    (starts : mayStart name (c :: text ++ '<' :: rest) = true) :
    mayStart name (c :: text) = true := by
  have opening (text : Text) (plain : ∀ more, text ≠ '/' :: more) :
      mayStart name (c :: text) = namesStart name text := by
    rw [mayStart]
    exact plain
  cases text with
  | nil =>
    rw [List.cons_append, List.nil_append, opening _ (by simp)] at starts
    rw [opening _ (by simp)]
    exact namesStart_append free [] rest starts
  | cons d text =>
    by_cases slash : d = '/'
    · subst slash
      exact namesStart_append free text rest starts
    · rw [List.cons_append, List.cons_append, opening _ (by simp [slash])] at starts
      rw [opening _ (by simp [slash])]
      exact namesStart_append free (d :: text) rest starts

/-- **A search for a closing tag passes over a text in which no tag of the name may begin.** -/
theorem afterClosing?_skip {name body : Text} (named : IsName name) (free : FreeOf name body)
    (inner : Nat) (rest : Text) :
    afterClosing? name inner (body ++ '<' :: rest) = afterClosing? name inner ('<' :: rest) := by
  induction body with
  | nil => rfl
  | cons c body ih =>
    have nothing : ¬ (c = '<' ∧ mayStart name (c :: body ++ '<' :: rest) = true) := by
      rintro ⟨rfl, starts⟩
      have alone := mayStart_append (lt_notMem_of_isName named) '<' rest starts
      rw [free body List.suffix_rfl] at alone
      cases alone
    rw [List.cons_append] at nothing ⊢
    rw [afterClosing?, if_neg nothing]
    exact ih free.of_cons

/-- **The search ends at the closing tag** if no inner element is open. -/
theorem afterClosing?_closing {name : Text} (named : IsName name) (rest : Text) :
    afterClosing? name 0 (closingOf name ++ rest) = some rest := by
  have reads := read?_closing named rest
  have starts := mayStart_closing name rest
  rw [closingOf, List.cons_append] at reads starts ⊢
  rw [afterClosing?, if_pos ⟨rfl, starts⟩]
  split
  · rename_i nothing
    rw [reads] at nothing
    cases nothing
  · rename_i tag after again
    rw [reads] at again
    cases again
    simp

end Tag

end PromptWeave
