/-
**How an extraction ends, on every text.**

The machine keeps its books: it remembers an open block exactly while it is in one, the messages that
it has put out are those of blocks that stand in the text one behind the other, and what it will come
to is what the rest of the text comes to. So it is never lost, and at its end either all messages are
those of blocks, or a role tag is to blame, which stands where the flaw says. Main statements:

* `Message.Block.Stands` and `Message.Blames`: what a message and what a flaw have in the text;
* `Message.Machine.Sound`: the books of the machine;
* `Message.Machine.sound_of_goes` and `Message.Machine.sequel_of_goes`: what one move keeps;
* `Message.extract_outcome`: how the extraction of a text ends.
-/

import PromptWeave.Composition.Chat
import PromptWeave.Proofs.Message.Gist
import PromptWeave.Proofs.Message.Machine

namespace PromptWeave

open Text

namespace Message

variable {text : Text}

/-! ### Blocks -/

/-- The words of a message in a text. -/
structure Block where
  role : Role
  /-- The position behind the opening tag. -/
  start : Nat
  /-- The position of the closing tag. -/
  stop : Nat
deriving DecidableEq, Repr

/-- The message of a block. -/
def Block.message (text : Text) (block : Block) : Message :=
  ⟨block.role, strip (between text block.start block.stop)⟩

/-- A block stands in a text: behind a single tag of its role, or from an opening to a closing tag of
its role, with no role tag between them. -/
inductive Block.Stands (text : Text) : Block → Prop
  | single {spot : Spot} (stands : spot.Stands text) (opens : spot.tag.closing = false)
      (alone : spot.tag.selfClosing = true) : Stands text ⟨spot.role, spot.stop, spot.stop⟩
  | pair {opened closing : Spot} (stands : opened.Stands text) (opens : opened.tag.closing = false)
      (paired : opened.tag.selfClosing = false) (ends : closing.Stands text)
      (closes : closing.tag.closing = true) (role : closing.role = opened.role)
      (behind : opened.stop ≤ closing.start)
      (free : ∀ place, opened.stop ≤ place → place < closing.start →
        ¬ BeginsRoleTag (text.drop place)) :
      Stands text ⟨opened.role, opened.stop, closing.start⟩

/-- Blocks stand in a text one behind the other, up to a position. -/
structure Row (text : Text) (blocks : List Block) (bound : Nat) : Prop where
  stands : ∀ block ∈ blocks, block.Stands text
  le : ∀ block ∈ blocks, block.start ≤ block.stop
  ordered : blocks.Pairwise fun earlier later => earlier.stop < later.start
  before : ∀ block ∈ blocks, block.stop ≤ bound

theorem Row.mono {blocks : List Block} {bound further : Nat} (row : Row text blocks bound)
    (le : bound ≤ further) : Row text blocks further :=
  { row with before := fun block inside => (row.before block inside).trans le }

theorem Row.init {blocks : List Block} {block : Block} {bound : Nat}
    (row : Row text (blocks ++ [block]) bound) : Row text blocks bound where
  stands := (List.forall_mem_append.mp row.stands).1
  le := (List.forall_mem_append.mp row.le).1
  ordered := (List.pairwise_append.mp row.ordered).1
  before := (List.forall_mem_append.mp row.before).1

/-- One block more, behind all others. -/
theorem Row.append {blocks : List Block} {block : Block} {bound further : Nat}
    (row : Row text blocks bound) (stands : block.Stands text) (le : block.start ≤ block.stop)
    (behind : bound < block.start) (before : block.stop ≤ further) :
    Row text (blocks ++ [block]) further where
  stands := List.forall_mem_append.mpr ⟨row.stands, List.forall_mem_singleton.mpr stands⟩
  le := List.forall_mem_append.mpr ⟨row.le, List.forall_mem_singleton.mpr le⟩
  ordered := by
    refine List.pairwise_append.mpr ⟨row.ordered, List.pairwise_singleton _ _, ?_⟩
    intro earlier inside later last
    rw [List.mem_singleton.mp last]
    exact (row.before earlier inside).trans_lt behind
  before := by
    refine List.forall_mem_append.mpr ⟨fun earlier inside => ?_, List.forall_mem_singleton.mpr before⟩
    exact (row.before earlier inside).trans (behind.le.trans (le.trans before))

/-! ### Who is to blame -/

/-- A role tag of a text is to blame for a flaw, which is on the line of its `<`. -/
inductive Blames (text : Text) : Spot → Flaw → Prop
  /-- A closing tag outside of any block. -/
  | unexpectedClosing {spot : Spot} (stands : spot.Stands text) (closes : spot.tag.closing = true) :
      Blames text spot ⟨.unexpectedClosing spot.role, lineAt text spot.start⟩
  /-- An opening tag behind which there is no role tag any more. -/
  | unclosed {opened : Spot} (stands : opened.Stands text) (opens : opened.tag.closing = false)
      (paired : opened.tag.selfClosing = false)
      (never : ∀ place, opened.stop ≤ place → ¬ BeginsRoleTag (text.drop place)) :
      Blames text opened ⟨.unclosed opened.role, lineAt text opened.start⟩
  /-- The first role tag inside a block, if it opens another one. -/
  | nested {opened spot : Spot} (block : opened.Stands text) (opens : opened.tag.closing = false)
      (paired : opened.tag.selfClosing = false) (stands : spot.Stands text)
      (again : spot.tag.closing = false) (behind : opened.stop ≤ spot.start)
      (free : ∀ place, opened.stop ≤ place → place < spot.start →
        ¬ BeginsRoleTag (text.drop place)) :
      Blames text spot ⟨.nested spot.role opened.role, lineAt text spot.start⟩
  /-- The first role tag inside a block, if it closes one of another role. -/
  | mismatched {opened spot : Spot} (block : opened.Stands text) (opens : opened.tag.closing = false)
      (paired : opened.tag.selfClosing = false) (stands : spot.Stands text)
      (closes : spot.tag.closing = true) (other : spot.role ≠ opened.role)
      (behind : opened.stop ≤ spot.start)
      (free : ∀ place, opened.stop ≤ place → place < spot.start →
        ¬ BeginsRoleTag (text.drop place)) :
      Blames text spot ⟨.mismatched spot.role opened.role, lineAt text spot.start⟩

/-- **The line of a failure is that of the tag that is to blame.** -/
theorem Blames.line {spot : Spot} {flaw : Flaw} (blames : Blames text spot flaw) (source : String) :
    Mapping.get? (Key.ofString "line") (failure source flaw).context =
      some (.integer (lineAt text spot.start : Nat)) := by
  cases blames <;> rfl

/-! ### What is left of a text -/

/-- The line of a position further on. -/
theorem lineAt_add (text : Text) (position distance : Nat) :
    lineAt text (position + distance) =
      lineAt text position + lineEnds ((text.drop position).take distance) := by
  rw [lineAt, lineAt, lineEnds, List.take_add, List.count_append]
  omega

/-- The lines on which a tag that is found begins and ends. -/
theorem lineAt_of_found {position : Nat} {spot : Spot} {found : Found}
    (fits : found.Fits (text.drop position)) (start : spot.start = position + found.before.length)
    (stop : spot.stop + found.after.length = text.length)
    (less : found.before.length + found.after.length < (text.drop position).length) :
    lineAt text position + lineEnds found.before = lineAt text spot.start ∧
      lineAt text position + lineEndsUpTo (text.drop position) found.after =
        lineAt text spot.stop := by
  constructor
  · rw [start, lineAt_add, ← List.prefix_iff_eq_take.mp fits.before]
  · rw [List.length_drop] at less
    have further : spot.stop = position + ((text.drop position).length - found.after.length) := by
      rw [List.length_drop]
      omega
    rw [further, lineAt_add, lineEndsUpTo]

/-- What the rest of a text comes to, from a position on. -/
def sequelAt (text : Text) (position : Nat) : Extraction :=
  extractFrom (lineAt text position) (text.drop position)

/-- What the rest of a text comes to, behind the opening tag of a block. -/
def blockAt (text : Text) (opened : Spot) : Extraction :=
  blockFrom (lineAt text opened.start) (lineAt text opened.stop) opened.role
    (text.drop opened.stop)

theorem sequelAt_of_none {position : Nat} (next : spotFrom nextTopLevelTag text position = none) :
    sequelAt text position = ⟨[], none⟩ :=
  extractFrom_of_none _ (Option.map_eq_none_iff.mp next)

/-- **What the rest of a text comes to follows from its next role tag at the top level.** -/
theorem sequelAt_of_some {position : Nat} {spot : Spot}
    (next : spotFrom nextTopLevelTag text position = some spot) :
    sequelAt text position =
      if spot.tag.closing then ⟨[], some ⟨.unexpectedClosing spot.role, lineAt text spot.start⟩⟩
      else if spot.tag.selfClosing then (sequelAt text spot.stop).prepend ⟨spot.role, []⟩
      else blockAt text spot := by
  obtain ⟨found, same, role, tag, start, behind, stop, less⟩ :=
    exists_of_spotFrom fits_of_nextTopLevelTag next
  obtain ⟨lineStart, lineStop⟩ := lineAt_of_found (fits_of_nextTopLevelTag same) start stop less
  rw [sequelAt, extractFrom_of_some _ same, lineStart, lineStop, ← role, ← tag, ← behind]
  rfl

theorem blockAt_of_none {opened : Spot} (next : spotFrom nextRoleTag text opened.stop = none) :
    blockAt text opened = ⟨[], some ⟨.unclosed opened.role, lineAt text opened.start⟩⟩ := by
  rw [blockAt, blockFrom, Option.map_eq_none_iff.mp next]

/-- **What a block comes to follows from the next role tag in it.** -/
theorem blockAt_of_some {opened spot : Spot}
    (next : spotFrom nextRoleTag text opened.stop = some spot) :
    blockAt text opened =
      if !spot.tag.closing then ⟨[], some ⟨.nested spot.role opened.role, lineAt text spot.start⟩⟩
      else if spot.role ≠ opened.role then
        ⟨[], some ⟨.mismatched spot.role opened.role, lineAt text spot.start⟩⟩
      else
        (sequelAt text spot.stop).prepend
          ⟨opened.role, strip (between text opened.stop spot.start)⟩ := by
  obtain ⟨found, same, role, tag, start, behind, stop, less⟩ :=
    exists_of_spotFrom fits_of_nextRoleTag next
  have fits := fits_of_nextRoleTag same
  obtain ⟨lineStart, lineStop⟩ := lineAt_of_found fits start stop less
  rw [← behind] at lineStop
  have words : between text opened.stop spot.start = found.before := by
    rw [between, start, List.drop_take, Nat.add_sub_cancel_left]
    exact (List.prefix_iff_eq_take.mp fits.before).symm
  rw [blockAt, blockFrom, same, words]
  simp only [lineStart, lineStop, ← role, ← tag, ← behind]
  rfl

/-! ### The books of the machine -/

/-- Messages in front of what else was extracted. -/
def Extraction.behind (messages : List Message) (extraction : Extraction) : Extraction :=
  ⟨messages ++ extraction.messages, extraction.flaw⟩

theorem Extraction.behind_prepend (messages : List Message) (message : Message)
    (extraction : Extraction) :
    (extraction.prepend message).behind messages = extraction.behind (messages ++ [message]) := by
  simp [behind, prepend]

namespace Machine

/-- What is still to come. -/
def rest (text : Text) (machine : Machine) : Extraction :=
  match machine.phase, machine.opened with
  | .scanning, _ => sequelAt text machine.position
  | .inBlock, some opened => blockAt text opened
  | .emitting, some opened =>
    (sequelAt text machine.position).prepend ⟨opened.role, strip machine.content⟩
  | _, _ => ⟨[], none⟩

/-- What the machine will come to: the messages that it has put out, and what is still to come. -/
def sequel (text : Text) (machine : Machine) : Extraction :=
  (machine.rest text).behind machine.messages

/-- **The books of the machine.** The messages that it has put out are those of blocks up to its
position; an open block stands in the text, and the machine is right behind its opening tag; the words
that are to be put out are those of one block more. -/
inductive Sound (text : Text) : Machine → Prop
  | scanning {position : Nat} {content : Text} {blocks : List Block}
      (row : Row text blocks position) :
      Sound text ⟨.scanning, position, none, content, blocks.map (Block.message text)⟩
  | inBlock {opened : Spot} {content : Text} {blocks : List Block} (stands : opened.Stands text)
      (opens : opened.tag.closing = false) (paired : opened.tag.selfClosing = false)
      (row : Row text blocks opened.start) :
      Sound text ⟨.inBlock, opened.stop, some opened, content, blocks.map (Block.message text)⟩
  | emitting {position : Nat} {opened : Spot} {content : Text} {blocks : List Block} (block : Block)
      (words : block.message text = ⟨opened.role, strip content⟩)
      (row : Row text (blocks ++ [block]) position) :
      Sound text ⟨.emitting, position, some opened, content, blocks.map (Block.message text)⟩
  | done {position : Nat} {content : Text} {blocks : List Block} (row : Row text blocks position) :
      Sound text ⟨.done, position, none, content, blocks.map (Block.message text)⟩

theorem sound_start (text : Text) : Sound text .start :=
  have row : Row text [] 0 := ⟨by simp, by simp, .nil, by simp⟩
  .scanning row

/-- **A move keeps the books.** -/
theorem sound_of_goes {machine later : Machine} (sound : Sound text machine)
    (goes : Goes text machine later) : Sound text later := by
  cases goes with
  | finishes next =>
    cases sound with
    | scanning row => exact .done row
  | @single _ _ _ _ spot next opens alone =>
    cases sound with
    | scanning row =>
      obtain ⟨stands, behind⟩ := stands_of_spotFrom fits_of_nextTopLevelTag next
      have less := stands.start_lt
      refine .emitting ⟨spot.role, spot.stop, spot.stop⟩ ?_
        (row.append (.single stands opens alone) le_rfl ?_ le_rfl)
      · simp [Block.message, between]
      · show _ < spot.stop
        omega
  | opens next opens paired =>
    cases sound with
    | scanning row =>
      obtain ⟨stands, behind⟩ := stands_of_spotFrom fits_of_nextTopLevelTag next
      exact .inBlock stands opens paired (row.mono behind)
  | @closes _ opened _ _ spot next closing role =>
    cases sound with
    | inBlock stands opens paired row =>
      obtain ⟨ends, behind⟩ := stands_of_spotFrom fits_of_nextRoleTag next
      have free : ∀ place, opened.stop ≤ place → place < spot.start →
          ¬ BeginsRoleTag (text.drop place) := fun place => not_begins_of_spotFrom next
      exact .emitting ⟨opened.role, opened.stop, spot.start⟩ rfl
        (row.append (.pair stands opens paired ends closing role behind free) behind
          stands.start_lt ends.start_lt.le)
  | emits =>
    cases sound with
    | @emitting _ _ _ blocks block words row =>
      rw [← words, ← List.map_singleton, ← List.map_append]
      exact .scanning row

/-- **A move does not change what the machine will come to.** -/
theorem sequel_of_goes {machine later : Machine} (sound : Sound text machine)
    (goes : Goes text machine later) : later.sequel text = machine.sequel text := by
  cases goes with
  | finishes next => simp [sequel, rest, sequelAt_of_none next]
  | single next opens alone => simp [sequel, rest, sequelAt_of_some next, opens, alone, strip_nil]
  | opens next opens paired => simp [sequel, rest, sequelAt_of_some next, opens, paired]
  | closes next closing role =>
    cases sound with
    | inBlock => simp [sequel, rest, blockAt_of_some next, closing, role]
  | emits => simp only [sequel, rest, Extraction.behind_prepend]

/-! ### Runs -/

/-- The books are kept in a whole run, and what the machine will come to is settled from the start. -/
theorem sound_of_comes {machine last : Machine} (sound : Sound text machine)
    (comes : Comes text machine last) :
    Sound text last ∧ last.sequel text = machine.sequel text := by
  induction comes with
  | refl => exact ⟨sound, rfl⟩
  | tail _ moves ih =>
    obtain ⟨before, same⟩ := ih
    exact ⟨sound_of_goes before (goes_of_next moves),
      (sequel_of_goes before (goes_of_next moves)).trans same⟩

/-- A machine that looks for the next block goes on, or a closing tag is to blame. -/
theorem scan_next_or_raises (text : Text) (machine : Machine) :
    (∃ later, scan text machine = .next later) ∨
      ∃ spot flaw, scan text machine = .raises flaw ∧ Blames text spot flaw ∧
        flaw.defect.stage = .scanning ∧ sequelAt text machine.position = ⟨[], some flaw⟩ := by
  cases next : spotFrom nextTopLevelTag text machine.position with
  | none => exact Or.inl ⟨_, by rw [scan, next]⟩
  | some spot =>
    cases closes : spot.tag.closing with
    | true =>
      obtain ⟨stands, _⟩ := stands_of_spotFrom fits_of_nextTopLevelTag next
      exact Or.inr ⟨spot, ⟨.unexpectedClosing spot.role, lineAt text spot.start⟩,
        by simp [scan, next, closes], .unexpectedClosing stands closes, rfl,
        by simp [sequelAt_of_some next, closes]⟩
    | false =>
      rw [scan, next]
      simp only [closes, Bool.false_eq_true, if_false]
      split
      · exact Or.inl ⟨_, rfl⟩
      · exact Or.inl ⟨_, rfl⟩

/-- A machine that looks for the end of a block goes on, or a role tag of the block is to blame. -/
theorem close_next_or_raises (machine : Machine) {opened : Spot} (stands : opened.Stands text)
    (opens : opened.tag.closing = false) (paired : opened.tag.selfClosing = false)
    (here : machine.position = opened.stop) :
    (∃ later, close text machine opened = .next later) ∨
      ∃ spot flaw, close text machine opened = .raises flaw ∧ Blames text spot flaw ∧
        flaw.defect.stage = .inBlock ∧ blockAt text opened = ⟨[], some flaw⟩ := by
  rw [close, here]
  cases next : spotFrom nextRoleTag text opened.stop with
  | none =>
    exact Or.inr ⟨opened, _, rfl,
      .unclosed stands opens paired fun place => not_begins_of_spotFrom_none next, rfl,
      blockAt_of_none next⟩
  | some spot =>
    obtain ⟨ends, behind⟩ := stands_of_spotFrom fits_of_nextRoleTag next
    have free : ∀ place, opened.stop ≤ place → place < spot.start →
        ¬ BeginsRoleTag (text.drop place) := fun place => not_begins_of_spotFrom next
    rw [blockAt_of_some next]
    cases closes : spot.tag.closing with
    | false =>
      exact Or.inr ⟨spot, ⟨.nested spot.role opened.role, lineAt text spot.start⟩, by simp [closes],
        .nested stands opens paired ends closes behind free, rfl, rfl⟩
    | true =>
      simp only [closes, Bool.not_true, Bool.false_eq_true, if_false]
      by_cases role : spot.role = opened.role
      · exact Or.inl ⟨_, if_neg (not_not_intro role)⟩
      · exact Or.inr ⟨spot, ⟨.mismatched spot.role opened.role, lineAt text spot.start⟩, if_pos role,
          .mismatched stands opens paired ends closes role behind free, rfl, if_pos role⟩

/-- **What a machine with sound books can do**: it goes on, or it has finished, or a role tag is to
blame. It is never lost. -/
theorem next_or_ends {machine : Machine} (sound : Sound text machine) :
    (∃ later, step text machine = .next later) ∨
      (step text machine = .returns machine.messages ∧ machine.phase = .done ∧
        machine.rest text = ⟨[], none⟩) ∨
      ∃ spot flaw, step text machine = .raises flaw ∧ Blames text spot flaw ∧
        machine.phase = flaw.defect.stage.phase ∧ machine.rest text = ⟨[], some flaw⟩ := by
  cases sound with
  | @scanning position content blocks row =>
    rcases scan_next_or_raises text ⟨.scanning, position, none, content, blocks.map _⟩ with
      goes | ⟨spot, flaw, raises, blames, stage, left⟩
    · exact Or.inl goes
    · exact Or.inr (Or.inr ⟨spot, flaw, raises, blames, by rw [stage]; rfl, left⟩)
  | @inBlock opened content blocks stands opens paired row =>
    rcases close_next_or_raises ⟨.inBlock, opened.stop, some opened, content, blocks.map _⟩
        stands opens paired rfl with goes | ⟨spot, flaw, raises, blames, stage, left⟩
    · exact Or.inl goes
    · exact Or.inr (Or.inr ⟨spot, flaw, raises, blames, by rw [stage]; rfl, left⟩)
  | emitting => exact Or.inl ⟨_, rfl⟩
  | done => exact Or.inr (Or.inl ⟨rfl, rfl, rfl⟩)

theorem step_ne_lost {machine : Machine} (sound : Sound text machine) :
    step text machine ≠ .lost := by
  intro lost
  rcases next_or_ends sound with ⟨later, moves⟩ | ⟨ends, _⟩ | ⟨_, _, raises, _⟩
  · exact Move.noConfusion (moves.symm.trans lost)
  · exact Move.noConfusion (ends.symm.trans lost)
  · exact Move.noConfusion (raises.symm.trans lost)

/-- The blocks of the messages that a machine with sound books has put out. -/
theorem Sound.exists_row {machine : Machine} (sound : Sound text machine) :
    ∃ blocks bound, machine.messages = blocks.map (Block.message text) ∧ Row text blocks bound := by
  cases sound with
  | scanning row => exact ⟨_, _, rfl, row⟩
  | inBlock _ _ _ row => exact ⟨_, _, rfl, row⟩
  | emitting _ _ row => exact ⟨_, _, rfl, row.init⟩
  | done row => exact ⟨_, _, rfl, row⟩

end Machine

/-! ### The outcome -/

/-- A machine that fails was looking for the next block exactly at a closing tag outside of any. -/
theorem phase_of_stage {machine : Machine} {defect : Defect} (phase : machine.phase = defect.stage.phase) :
    machine.phase = .scanning ∧ (∃ role, defect = .unexpectedClosing role) ∨
      machine.phase = .inBlock ∧ ∀ role, defect ≠ .unexpectedClosing role := by
  cases defect with
  | unexpectedClosing role => exact Or.inl ⟨phase, role, rfl⟩
  | unclosed => exact Or.inr ⟨phase, fun _ => Defect.noConfusion⟩
  | nested => exact Or.inr ⟨phase, fun _ => Defect.noConfusion⟩
  | mismatched => exact Or.inr ⟨phase, fun _ => Defect.noConfusion⟩

/-- **How the extraction of a text ends, on every text.** The machine comes to an end and is never
lost on its way, and it has put out the messages of the extraction and is in the phase of its stage.
Either it has finished, and the messages are those of blocks that stand in the text one behind the
other; or a role tag is to blame, on whose line the failure is, and the machine was looking for the
next block exactly if that is a closing tag outside of any block. -/
theorem extract_outcome (text : Text) :
    ∃ last : Machine, Machine.Comes text .start last ∧
      (∀ machine, Machine.Comes text .start machine → Machine.step text machine ≠ .lost) ∧
      last.messages = (extract text).messages ∧ last.phase = (extract text).stage.phase ∧
      match (extract text).flaw with
      | none =>
        Machine.step text last = .returns (extract text).messages ∧ last.phase = .done ∧
          ∃ blocks bound, (extract text).messages = blocks.map (Block.message text) ∧
            Row text blocks bound
      | some flaw =>
        Machine.step text last = .raises flaw ∧
          (last.phase = .scanning ∧ (∃ role, flaw.defect = .unexpectedClosing role) ∨
            last.phase = .inBlock ∧ ∀ role, flaw.defect ≠ .unexpectedClosing role) ∧
          ∃ spot, Blames text spot flaw ∧
            ∀ source, Mapping.get? (Key.ofString "line") (failure source flaw).context =
              some (.integer (lineAt text spot.start : Nat)) := by
  obtain ⟨last, comes, stops⟩ := Machine.exists_last text .start
  obtain ⟨sound, same⟩ := Machine.sound_of_comes (Machine.sound_start text) comes
  have never : ∀ machine, Machine.Comes text .start machine → Machine.step text machine ≠ .lost :=
    fun machine way => Machine.step_ne_lost
      (Machine.sound_of_comes (Machine.sound_start text) way).1
  have whole : Machine.sequel text .start = extract text := rfl
  rw [whole, Machine.sequel] at same
  rcases Machine.next_or_ends sound with ⟨later, moves⟩ | ⟨ends, phase, left⟩ |
    ⟨spot, flaw, raises, blames, phase, left⟩
  · exact absurd moves (stops later)
  · have extracted : extract text = ⟨last.messages, none⟩ := by
      rw [← same, left, Extraction.behind, List.append_nil]
    rw [extracted]
    exact ⟨last, comes, never, rfl, phase, ends, phase, sound.exists_row⟩
  · have extracted : extract text = ⟨last.messages, some flaw⟩ := by
      rw [← same, left, Extraction.behind, List.append_nil]
    rw [extracted]
    exact ⟨last, comes, never, rfl, phase, raises, phase_of_stage phase, spot, blames, blames.line⟩

end Message

end PromptWeave
