import LibCxlmi.Transport.Silent

/-!
# Length fields of transmitted messages

Every CCI header has a 20-bit payload length, every tunnel header a 16-bit
command size, and neither encoder checks that the size fits. The bounds below
are exact, and each tunnel takes 16 bytes off them. A host of little byte order
is assumed throughout: `command_size` is stored in host order.
-/

namespace LibCxlmi.Contract
open LibCxlmi.Word LibCxlmi.Cci LibCxlmi.Transport

/-- `command_size` of the tunnel header at offset `i`. -/
def commandSize (m : Bytes) (i : ℕ) : ℕ := leVal (slice m (i + 2) 2)

/-- `m` is all of a message with `k` tunnels and `p` payload bytes in the
innermost one, and each length field in it is the number of bytes after it. -/
def Described : ℕ → ℕ → Bytes → Prop
  | 0, p, m => m.length = 12 + p ∧ 12 + plLength m = m.length
  | k + 1, p, m => 12 + plLength m = m.length ∧ 16 + commandSize m 12 = m.length ∧ Described k p (m.drop 16)

/- A mailbox takes the outermost CCI header apart: a direct command is handed
over without length fields, a tunnelled one starts with its tunnel header. -/
def Framed (k p : ℕ) : Tx → Prop
  | .mctp _ _ m => Described k p m
  | .mailbox _ _ b =>
      match k with
      | 0 => True
      | k + 1 => 4 + commandSize b 0 = b.length ∧ Described k p (b.drop 4)

/-- The payload sizes that the length fields of `k` tunnels can hold. -/
def FieldsHold : ℕ → ℕ → Prop
  | 0, p => p < 2 ^ 20
  | k + 1, p => 12 + 16 * k + p < 2 ^ 16

theorem described_length (k p : ℕ) (m : Bytes) (h : Described k p m) : m.length = 12 + 16 * k + p := by
  induction k generalizing m with
  | zero => exact h.1
  | succ k ih =>
    have hin := ih (m.drop 16) h.2.2
    have hsz := h.2.1
    rw [List.length_drop] at hin
    omega

theorem described_request (tg cmd set : Byte) (pl : Bytes) :
    Described 0 pl.length (cciHeader .little tg cmd set pl.length ++ pl) ↔ FieldsHold 0 pl.length := by
  rw [Described, FieldsHold, plLength_cciHeader, request_length]
  omega

theorem commandSize_buildTunnelReq (c : Option ℕ) (id : ℤ) (m : Bytes) :
    commandSize (buildTunnelReq .little c id m) 12 = m.length % 2 ^ 16 := by
  rw [commandSize, slice_commandSize]
  exact leVal_leBytes 2 m.length

theorem described_buildTunnelReq (k p : ℕ) (c : Option ℕ) (id : ℤ) (m : Bytes) :
    Described (k + 1) p (buildTunnelReq .little c id m) ↔ m.length < 2 ^ 16 ∧ Described k p m := by
  have hpl : plLength (buildTunnelReq .little c id m) = (4 + m.length) % 2 ^ 20 :=
    plLength_cciHeader .little _ _ _ _ _
  rw [Described, hpl, commandSize_buildTunnelReq, buildTunnelReq_length, buildTunnelReq_drop]
  constructor
  · rintro ⟨-, hsz, hin⟩
    exact ⟨by omega, hin⟩
  · rintro ⟨hlt, hin⟩
    exact ⟨by omega, by omega, hin⟩

/- The bound of the outermost size field is the tightest. -/
theorem fieldsHold_succ (k p n : ℕ) (hn : n = 12 + 16 * k + p) :
    (n < 2 ^ 16 ∧ FieldsHold k p) ↔ FieldsHold (k + 1) p := by
  subst hn
  cases k with
  | zero =>
    simp only [FieldsHold]
    omega
  | succ k =>
    simp only [FieldsHold]
    omega

theorem described_mctpMsg (m : MctpTransport) (ti : Option TunnelInfo) (tg cmd set : Byte) (pl : Bytes)
    (hk : knownLevel ti = true) :
    Described (tunnelDepth ti) pl.length (mctpMsg .little m ti (cciHeader .little tg cmd set pl.length ++ pl)) ↔
      FieldsHold (tunnelDepth ti) pl.length := by
  have hreq := described_request tg cmd set pl
  have hlen := request_length .little tg cmd set pl.length pl
  cases ti with
  | none => exact hreq
  | some t =>
    rcases knownLevel_cases t hk with h0 | h1 | h2
    · simp only [tunnelDepth, mctpMsg, h0, if_true]
      exact hreq
    · simp only [tunnelDepth, mctpMsg, mctpTunnelReq, h1, one_ne_zero, if_false, if_true, Int.toNat_one]
      rw [described_buildTunnelReq, hreq]
      exact fieldsHold_succ 0 _ _ hlen
    · simp only [tunnelDepth, mctpMsg, mctpTunnelReq, mctpTunnel2Req, h2, OfNat.ofNat_ne_zero, OfNat.ofNat_ne_one,
        if_false]
      show Described 2 _ _ ↔ FieldsHold 2 _
      rw [described_buildTunnelReq, described_buildTunnelReq, hreq, fieldsHold_succ 0 _ _ hlen,
        buildTunnelReq_length]
      exact fieldsHold_succ 1 _ _ (by omega)

theorem described_transferred (k p : ℕ) (m : Bytes) (hl : m.length = 12 + 16 * k + p)
    (h : Described k p m ↔ FieldsHold k p) : Described k p (transferred m) ↔ FieldsHold k p := by
  by_cases hm : m.length ≤ maxRwCount
  · rw [transferred_of_le m hm]
    exact h
  · refine iff_of_false (fun hd => ?_) (fun hf => hm ?_)
    · have hcut := described_length k p _ hd
      rw [transferred, List.length_take] at hcut
      omega
    · have hp : p < 2 ^ 20 ∧ k < 2 ^ 16 := by
        cases k with
        | zero => exact ⟨hf, by decide⟩
        | succ k =>
          simp only [FieldsHold] at hf
          omega
      unfold maxRwCount
      omega

theorem framed_ioctlTunnelReq (fd : ℤ) (opcode k p : ℕ) (id : ℤ) (m : Bytes)
    (hl : m.length = 12 + 16 * k + p) (h : Described k p m ↔ FieldsHold k p) :
    Framed (k + 1) p (mailboxTx fd opcode (ioctlTunnelReq .little id m)) ↔ FieldsHold (k + 1) p := by
  have hlen := ioctlTunnelReq_length .little id m
  by_cases hw : 4 + m.length < 2 ^ 32
  · have hsz : commandSize (ioctlTunnelReq .little id m) 0 = m.length % 2 ^ 16 := leVal_leBytes 2 m.length
    rw [mailboxTx, u32_of_lt _ (by omega), List.take_length, Framed, hsz, ioctlTunnelReq_drop, hlen, h,
      ← fieldsHold_succ k p _ hl]
    refine and_congr_left fun _ => ?_
    omega
  · -- a size of 32 bits no longer holds the message, and the kernel cuts it
    refine iff_of_false (fun hf => ?_) (fun hf => ?_)
    · have hcut := described_length k p _ hf.2
      have hsmall := u32_lt (ioctlTunnelReq .little id m).length
      rw [List.length_drop, List.length_take] at hcut
      omega
    · simp only [FieldsHold] at hf
      omega

theorem framed_mailboxMsg (fd : ℤ) (ti : Option TunnelInfo) (tg cmd set : Byte) (pl : Bytes)
    (hk : knownLevel ti = true) :
    Framed (tunnelDepth ti) pl.length
        (mailboxTx fd (mailboxMsg .little ti (cciHeader .little tg cmd set pl.length ++ pl)).1
          (mailboxMsg .little ti (cciHeader .little tg cmd set pl.length ++ pl)).2) ↔
      tunnelDepth ti = 0 ∨ FieldsHold (tunnelDepth ti) pl.length := by
  have hreq := described_request tg cmd set pl
  have hlen := request_length .little tg cmd set pl.length pl
  cases ti with
  | none => exact iff_of_true trivial (Or.inl rfl)
  | some t =>
    rcases knownLevel_cases t hk with h0 | h1 | h2
    · simp only [tunnelDepth, h0]
      exact iff_of_true trivial (Or.inl rfl)
    · simp only [tunnelDepth, mailboxMsg, mailboxTunnelReq, h1, one_ne_zero, if_false, if_true, Int.toNat_one,
        false_or]
      exact framed_ioctlTunnelReq fd _ 0 _ _ _ hlen hreq
    · have hin : Described 1 pl.length (buildTunnelReq .little none t.ld
          (cciHeader .little tg cmd set pl.length ++ pl)) ↔ FieldsHold 1 pl.length := by
        rw [described_buildTunnelReq, hreq]
        exact fieldsHold_succ 0 _ _ hlen
      simp only [tunnelDepth, mailboxMsg, mailboxTunnelReq, ioctlTunnel2Req, h2, OfNat.ofNat_ne_zero,
        OfNat.ofNat_ne_one, if_false]
      have hne : ¬(2 : ℤ).toNat = 0 := by decide
      rw [or_iff_right hne]
      exact framed_ioctlTunnelReq fd _ 1 _ _ _ (by rw [buildTunnelReq_length, hlen]; omega) hin

/-- The payload sizes a path has room for. -/
def Fits (ep : Endpoint) (ti : Option TunnelInfo) (p : ℕ) : Prop :=
  match ep.transportData with
  | some (.mock _) => p < 2 ^ 20
  | some (.mctp _) => FieldsHold (tunnelDepth ti) p
  | none => tunnelDepth ti = 0 ∨ FieldsHold (tunnelDepth ti) p

theorem outbound_framed (ep : Endpoint) (ti : Option TunnelInfo) (tg cmd set : Byte) (pl : Bytes) (tx : Tx)
    (h : outbound .little ep ti (cciHeader .little tg cmd set pl.length ++ pl) = some tx) :
    Framed (tunnelDepth ti) pl.length tx ↔ Fits ep ti pl.length := by
  have hlen := request_length .little tg cmd set pl.length pl
  obtain ⟨-, hk, ⟨htd, -, rfl⟩ | ⟨m, htd, -, -, rfl⟩⟩ := outbound_cases _ ep ti _ tx h
  · simp only [Fits, htd]
    exact framed_mailboxMsg ep.fd ti tg cmd set pl hk
  · have hmsg := mctpMsg_length .little m ti (cciHeader .little tg cmd set pl.length ++ pl) hk
    simp only [Fits, htd, Framed]
    exact described_transferred _ _ _ (by omega) (described_mctpMsg m ti tg cmd set pl hk)

theorem fits_armed (ep : Endpoint) (set cmd : Byte) (pl : Bytes) (ti : Option TunnelInfo) (p : ℕ) :
    Fits (armCciRequest .little ep set cmd pl).2 ti p ↔ Fits ep ti p := by
  cases htd : ep.transportData with
  | none => rw [armed_mailbox .little ep set cmd pl htd]
  | some td =>
    cases td with
    | mock k => rw [armed_mock .little ep set cmd pl k htd]
    | mctp m =>
      by_cases hi : isMockEndpoint ep = true
      · simp only [armCciRequest, htd, hi, if_true]
      · simp only [armCciRequest, htd, hi, if_false, Fits, Bool.false_eq_true]

end LibCxlmi.Contract
