/-
**Texts as bytes.**

The encoding of Unicode in bytes, read strictly: a lead byte says how many bytes follow and in which
range the second one lies, which rules out overlong forms, halves of pairs and code points beyond
the last. The first fault stops the reading. Main statements:

* `Utf8.decode`: the text of bytes, or the first fault;
* `Utf8.universalLines`: the text with every line end written as a line feed.
-/

import PromptWeave.Text

namespace PromptWeave

namespace Utf8

/-- Why bytes are no text. -/
inductive Reason
  /-- The byte starts no character. -/
  | invalidStart
  /-- The bytes start a character and go on with a byte that cannot be in it. -/
  | invalidContinuation
  /-- The bytes end inside a character. -/
  | truncated
deriving DecidableEq, Repr

/-- A fault with the byte and the positions where it begins and ends. -/
structure Fault where
  reason : Reason
  byte : UInt8
  start : Nat
  stop : Nat
deriving DecidableEq, Repr

/-- The wording of a reason. -/
def Reason.text : Reason → String
  | invalidStart => "invalid start byte"
  | invalidContinuation => "invalid continuation byte"
  | truncated => "unexpected end of data"

/-- What a lead byte calls for: its share of the code point, the number of bytes that follow, and
the range of the first of them. -/
structure Lead where
  share : Nat
  tails : Nat
  low : Nat
  high : Nat
deriving DecidableEq, Repr

/-- The call of a lead byte. -/
def lead? (byte : Nat) : Option Lead :=
  if byte < 0x80 then some ⟨byte, 0, 0, 0⟩
  else if byte < 0xC2 then none
  else if byte < 0xE0 then some ⟨byte - 0xC0, 1, 0x80, 0xBF⟩
  else if byte = 0xE0 then some ⟨0, 2, 0xA0, 0xBF⟩
  else if byte = 0xED then some ⟨0xD, 2, 0x80, 0x9F⟩
  else if byte < 0xF0 then some ⟨byte - 0xE0, 2, 0x80, 0xBF⟩
  else if byte = 0xF0 then some ⟨0, 3, 0x90, 0xBF⟩
  else if byte < 0xF4 then some ⟨byte - 0xF0, 3, 0x80, 0xBF⟩
  else if byte = 0xF4 then some ⟨4, 3, 0x80, 0x8F⟩
  else none

/-- How the bytes after a lead byte turned out. -/
inductive Tail
  /-- The code point, and what follows it. -/
  | complete (code : Nat) (rest : List UInt8)
  /-- So many bytes were right before a wrong one. -/
  | wrong (right : Nat)
  /-- The bytes ended. -/
  | short
deriving DecidableEq, Repr

/-- Reads the bytes that a lead byte calls for, the first of them in a range of its own. -/
def readTail (low high : Nat) (code right : Nat) : (tails : Nat) → List UInt8 → Tail
  | 0, rest => .complete code rest
  | _ + 1, [] => .short
  | tails + 1, byte :: rest =>
    if low ≤ byte.toNat ∧ byte.toNat ≤ high then
      readTail 0x80 0xBF (code * 64 + (byte.toNat - 0x80)) (right + 1) tails rest
    else .wrong right

theorem readTail_length_le {low high code right tails final : Nat} {bytes rest : List UInt8}
    (read : readTail low high code right tails bytes = .complete final rest) :
    rest.length ≤ bytes.length := by
  induction tails generalizing low high code right bytes with
  | zero =>
    simp only [readTail, Tail.complete.injEq] at read
    simp [read.2]
  | succ tails ih =>
    cases bytes with
    | nil => simp [readTail] at read
    | cons byte others =>
      unfold readTail at read
      split at read
      · have := ih read
        simp only [List.length_cons]
        omega
      · simp at read

/-- The text of bytes that begin at some position. -/
def decodeFrom (position : Nat) (bytes : List UInt8) : Except Fault Text :=
  match bytes with
  | [] => .ok []
  | byte :: rest =>
    match lead? byte.toNat with
    | none => .error ⟨.invalidStart, byte, position, position + 1⟩
    | some lead =>
      match _read : readTail lead.low lead.high lead.share 1 lead.tails rest with
      | .complete code after =>
        (decodeFrom (position + (bytes.length - after.length)) after).map (Char.ofNat code :: ·)
      | .wrong right => .error ⟨.invalidContinuation, byte, position, position + right⟩
      | .short => .error ⟨.truncated, byte, position, position + bytes.length⟩
termination_by bytes.length
decreasing_by
  have := readTail_length_le _read
  simp only [List.length_cons]
  omega

/-- The text of bytes. -/
def decode (bytes : List UInt8) : Except Fault Text := decodeFrom 0 bytes

/-- The bytes of a text. -/
def encode (text : Text) : List UInt8 := (String.ofList text).toUTF8.toList

/-- The text with every line end written as a line feed. -/
def universalLines : Text → Text
  | [] => []
  | '\r' :: '\n' :: rest => '\n' :: universalLines rest
  | '\r' :: rest => '\n' :: universalLines rest
  | c :: rest => c :: universalLines rest

end Utf8

end PromptWeave
