import LibCxlmi.Dialogue.Asks
import LibCxlmi.Tools.Calls
import LibCxlmi.Tools.Observed
import LibCxlmi.Word.Memory

/-!
# What a program sends

`Sent p m` is that some run of `p` sends the vendor command `m`, whatever is
answered to it and to the other calls. A packet of the sideband tunnel has the
inner message behind four bytes of its own.
-/

namespace LibCxlmi.Tools
open LibCxlmi.Word LibCxlmi.Dialogue

variable {α β : Type}

section Answers
variable (ok : (q : SysCall) → q.Answer → Prop)

theorem ends_vendorSpecific (m : Message) (n : ℕ) (rc : ℤ) (rsp : Bytes) :
    (vendorSpecific m n).Ends ok (rc, rsp) ↔ ∃ x, ok (.vendor m n) x ∧ rc = x.rc ∧ rsp = x.buffer n := by
  rw [vendorSpecific, ends_bind]
  constructor
  · rintro ⟨x, hx, h⟩
    obtain ⟨hrc, hrsp⟩ := Prod.mk.inj h
    exact ⟨x, (ends_ask ok (.vendor m n) x).mp hx, hrc, hrsp⟩
  · rintro ⟨x, hx, rfl, rfl⟩
    exact ⟨x, (ends_ask ok (.vendor m n) x).mpr hx, rfl⟩

theorem asks_vendorSpecific (m : Message) (n : ℕ) (q : SysCall) :
    (vendorSpecific m n).Asks ok q ↔ q = .vendor m n := by
  rw [vendorSpecific, asks_bind]
  constructor
  · rintro (h | ⟨x, -, h⟩)
    · exact (asks_ask ok (.vendor m n) q).mp h
    · exact absurd h (asks_ret ok _ q)
  · exact fun h => Or.inl ((asks_ask ok (.vendor m n) q).mpr h)

variable (failed next : Tool α) (n : ℕ) (hok : ∀ b, ok (.calloc n) b)
include hok

theorem calloc_answers (P : Bool → Prop) : (∃ b, (calloc n).Ends ok b ∧ P b) ↔ P false ∨ P true := by
  constructor
  · rintro ⟨b, -, h⟩
    cases b with
    | true => exact Or.inr h
    | false => exact Or.inl h
  · rintro (h | h)
    · exact ⟨false, (ends_ask ok (.calloc n) false).mpr (hok false), h⟩
    · exact ⟨true, (ends_ask ok (.calloc n) true).mpr (hok true), h⟩

theorem ends_calloc (r : α) :
    (checked (calloc n) failed next).Ends ok r ↔ failed.Ends ok r ∨ next.Ends ok r := by
  rw [checked, ends_bind]
  exact calloc_answers ok n hok fun b => Program.Ends ok (if b then next else failed) r

theorem asks_calloc (m : Message) (len : ℕ) : (checked (calloc n) failed next).Asks ok (.vendor m len) ↔
    failed.Asks ok (.vendor m len) ∨ next.Asks ok (.vendor m len) := by
  have hother : ¬(ask (SysCall.calloc n) : Tool Bool).Asks ok (.vendor m len) := by
    intro h
    cases (asks_ask ok (SysCall.calloc n) (.vendor m len)).mp h
  rw [checked, calloc, asks_bind, or_iff_right hother]
  exact calloc_answers ok n hok fun b => Program.Asks ok (if b then next else failed) (.vendor m len)

end Answers

/-- Some run of the program sends this vendor command. -/
def Sent (p : Tool α) (m : Message) : Prop := ∃ t r, p.Runs t r ∧ m ∈ (vendorCalls t).map Prod.fst

theorem mem_vendorCalls (t : Log) (m : Message) :
    m ∈ (vendorCalls t).map Prod.fst ↔ ∃ n, .vendor m n ∈ t.map Event.asked := by
  induction t with
  | nil => exact iff_of_false List.not_mem_nil fun ⟨n, h⟩ => List.not_mem_nil h
  | cons e t ih =>
    obtain ⟨q, x⟩ := e
    simp only [List.map_cons, List.mem_cons, exists_or, ← ih]
    cases q with
    | vendor m' n =>
      change m ∈ m' :: (vendorCalls t).map Prod.fst ↔ _
      simp only [List.mem_cons, SysCall.vendor.injEq, exists_and_left, exists_eq, and_true]
    | _ =>
      change m ∈ (vendorCalls t).map Prod.fst ↔ _
      simp only [reduceCtorEq, exists_const, false_or]

theorem sent_iff_asks (p : Tool α) (m : Message) : Sent p m ↔ ∃ n, p.Asks (fun _ _ => True) (.vendor m n) := by
  have hasks := fun n => asks_iff_runs (fun _ _ => True) (fun q => ⟨willing q, trivial⟩) p (.vendor m n)
  simp only [hasks, Sent, mem_vendorCalls]
  constructor
  · rintro ⟨t, r, hrun, n, hmem⟩
    exact ⟨n, t, r, hrun, fun _ _ => trivial, hmem⟩
  · rintro ⟨n, t, r, hrun, -, hmem⟩
    exact ⟨t, r, hrun, n, hmem⟩

theorem sent_ret (a : α) (m : Message) : ¬Sent (pure a : Tool α) m := by
  rw [sent_iff_asks]
  rintro ⟨n, h⟩
  exact asks_ret _ a _ h

theorem sent_bind (p : Tool α) (g : α → Tool β) (m : Message) :
    Sent (p >>= g) m ↔ Sent p m ∨ ∃ a, p.Ends (fun _ _ => True) a ∧ Sent (g a) m := by
  simp only [sent_iff_asks, asks_bind, exists_or]
  refine or_congr_right ?_
  constructor
  · rintro ⟨n, a, ha, h⟩
    exact ⟨a, ha, n, h⟩
  · rintro ⟨a, ha, n, h⟩
    exact ⟨n, a, ha, h⟩

theorem sent_bind_silent (p : Tool α) (g : α → Tool β) (hg : ∀ a m, ¬Sent (g a) m) (m : Message) :
    Sent (p >>= g) m ↔ Sent p m := by
  rw [sent_bind]
  constructor
  · rintro (h | ⟨a, -, h⟩)
    · exact h
    · exact absurd h (hg a m)
  · exact Or.inl

theorem sent_vendorSpecific (m' : Message) (n : ℕ) (m : Message) : Sent (vendorSpecific m' n) m ↔ m = m' := by
  simp only [sent_iff_asks, asks_vendorSpecific, SysCall.vendor.injEq, exists_and_left, exists_eq, and_true]

theorem sent_calloc (n : ℕ) (failed next : Tool α) (m : Message) :
    Sent (checked (calloc n) failed next) m ↔ Sent failed m ∨ Sent next m := by
  have hasks := fun len => asks_calloc (fun _ _ => True) failed next n (fun _ => trivial) m len
  simp only [sent_iff_asks, hasks, exists_or]

/-! ### Packets of the tunnel -/

section Packet
variable (o : ByteOrder) (port cmd set : Byte) (lenBytes : ℕ) (pl : Bytes)

theorem sdbPacket_inner : (sdbPacket o port cmd set lenBytes pl).drop 4 =
    ([0, 0, 0, cmd, set] ++ fillBuf 3 (leBytes lenBytes pl.length) ++ zeros 4) ++ pl := by
  rw [sdbPacket]
  exact List.drop_left' (by simp only [List.length_append, storeWord_length, List.length_cons, List.length_nil])

theorem sdbPacket_command : Cci.command ((sdbPacket o port cmd set lenBytes pl).drop 4) = cmd := by
  rw [sdbPacket_inner]
  rfl

theorem sdbPacket_commandSet : Cci.commandSet ((sdbPacket o port cmd set lenBytes pl).drop 4) = set := by
  rw [sdbPacket_inner]
  rfl

theorem sdbPacket_payload (h : lenBytes ≤ 3) : Cci.payload ((sdbPacket o port cmd set lenBytes pl).drop 4) = pl := by
  rw [sdbPacket_inner]
  refine List.drop_left' ?_
  rw [List.length_append, List.length_append, fillBuf_length 3 _ (by rwa [leBytes_length]), zeros_length]
  rfl

theorem sdbPacket_commandSize :
    loadWord o (slice (sdbPacket o port cmd set lenBytes pl) 2 2) = (12 + pl.length) % 2 ^ 16 := by
  have hmid := slice_mid [port, 0] (storeWord o 2 (12 + pl.length))
    ([0, 0, 0, cmd, set] ++ fillBuf 3 (leBytes lenBytes pl.length) ++ zeros 4 ++ pl)
  rw [storeWord_length] at hmid
  rw [sdbPacket]
  exact (congrArg (loadWord o) hmid).trans (loadWord_storeWord o 2 (12 + pl.length))

/- Of the three bytes the first two are written. -/
theorem sdbPacket_plLength : Cci.plLength ((sdbPacket o port cmd set 2 pl).drop 4) = pl.length % 2 ^ 16 := by
  have hlen : 12 ≤ ([0, 0, 0, cmd, set] ++ fillBuf 3 (leBytes 2 pl.length) ++ zeros 4).length := Nat.le_refl 12
  rw [sdbPacket_inner, Cci.plLength_append _ pl hlen, Cci.plLength_eq]
  have h5 : (byteAt ([0, 0, 0, cmd, set] ++ fillBuf 3 (leBytes 2 pl.length) ++ zeros 4) 5).val = pl.length % 256 := rfl
  have h6 : (byteAt ([0, 0, 0, cmd, set] ++ fillBuf 3 (leBytes 2 pl.length) ++ zeros 4) 6).val =
    pl.length / 256 % 256 := rfl
  have h7 : (byteAt ([0, 0, 0, cmd, set] ++ fillBuf 3 (leBytes 2 pl.length) ++ zeros 4) 7).val = 0 := rfl
  rw [h5, h6, h7]
  omega

end Packet

end LibCxlmi.Tools
