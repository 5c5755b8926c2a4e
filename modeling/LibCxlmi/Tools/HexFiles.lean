import Mathlib.Data.List.TakeWhile
import LibCxlmi.Tools.LdAllocations

/-!
# Hexadecimal payload files (cmd_features.c:98-162)

A payload is kept in a file of hexadecimal digits. The writer leaves two digits for
each byte and nothing else; the reader skips white space, and tells with its return
code why it refused a file.
-/

namespace LibCxlmi.Tools
open LibCxlmi.Word LibCxlmi.Text LibCxlmi.Dialogue

/-! ### The writer -/

inductive FileCall where
  | fopenWrite (path : String)
  | fprintf (d : Bytes)
  | fclose

abbrev FileTool := Program FileCall fun _ => Bool

def writeHexPairs : Bytes → FileTool ℤ
  | [] => do
      let ok ← (ask .fclose : FileTool Bool)
      return if ok = true then 0 else -1
  | b :: rest => do
      let ok ← (ask (.fprintf (hexPair b)) : FileTool Bool)
      if ok = true then writeHexPairs rest
      else do
        let _ ← (ask .fclose : FileTool Bool)
        return -1

def writeHexPayloadFile (path : String) (buf : Bytes) : FileTool ℤ := do
  let ok ← (ask (.fopenWrite path) : FileTool Bool)
  if ok = true then writeHexPairs buf else return -1

/-- What a call has left in the file. -/
def printedBy : Event FileCall (fun _ => Bool) → Bytes
  | ⟨.fprintf d, true⟩ => d
  | _ => []

def printedText (t : History FileCall fun _ => Bool) : Bytes := t.flatMap printedBy

/-- Writing comes back with 0 only after every digit is in the file. -/
theorem writeHexPairs_text (buf : Bytes) (t : History FileCall fun _ => Bool) (h : (writeHexPairs buf).Runs t 0) :
    printedText t = writeHex buf := by
  induction buf generalizing t with
  | nil =>
    obtain ⟨ok, t, rfl, rfl, -⟩ := h
    rfl
  | cons b rest ih =>
    obtain ⟨ok, t, rfl, h⟩ := h
    cases ok with
    | true => exact congrArg (hexPair b ++ ·) (ih t h)
    | false =>
      obtain ⟨closed, t, rfl, -, hrc⟩ := h
      cases hrc

theorem writeHexPayloadFile_text (path : String) (buf : Bytes) (t : History FileCall fun _ => Bool)
    (h : (writeHexPayloadFile path buf).Runs t 0) : printedText t = writeHex buf := by
  obtain ⟨ok, t, rfl, h⟩ := h
  cases ok with
  | true => exact writeHexPairs_text buf t h
  | false =>
    obtain ⟨-, hrc⟩ := h
    cases hrc

/-- When no call fails the writer does come back with 0. -/
theorem writeHexPairs_returns (buf : Bytes) : ∃ t, (writeHexPairs buf).Runs t 0 := by
  induction buf with
  | nil => exact ⟨[⟨.fclose, true⟩], true, [], rfl, rfl, rfl⟩
  | cons b rest ih =>
    obtain ⟨t, ht⟩ := ih
    exact ⟨⟨.fprintf (hexPair b), true⟩ :: t, true, t, rfl, ht⟩

theorem writeHexPayloadFile_returns (path : String) (buf : Bytes) : ∃ t, (writeHexPayloadFile path buf).Runs t 0 := by
  obtain ⟨t, ht⟩ := writeHexPairs_returns buf
  exact ⟨⟨.fopenWrite path, true⟩ :: t, true, t, rfl, ht⟩

/-! ### The reader -/

section Steps
variable {maxLen d : ℕ} {c : Byte} (s buf : Bytes)

theorem readHexLoop_bad (hi : Option ℕ) (hsp : ¬ isSpace (Char.ofNat c.val) = true) (hv : hexVal c = none) :
    readHexLoop maxLen (c :: s) hi buf = ⟨-2, buf⟩ := by
  rw [readHexLoop.eq_def]
  simp only [if_neg hsp, hv]

theorem readHexLoop_full (h : ℕ) (hsp : ¬ isSpace (Char.ofNat c.val) = true) (hv : hexVal c = some d)
    (hfull : maxLen ≤ buf.length) : readHexLoop maxLen (c :: s) (some h) buf = ⟨-3, buf⟩ := by
  rw [readHexLoop.eq_def]
  simp only [if_neg hsp, hv, if_pos hfull]

end Steps

end LibCxlmi.Tools
