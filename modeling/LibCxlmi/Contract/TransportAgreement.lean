import LibCxlmi.Cci.Wrap
import LibCxlmi.Transport.Send

/-!
# The two transports on one tunnelled command

The same command is tunnelled once over MCTP and once through the mailbox, and
both replies carry the same inner message, wrapped as each transport needs it.
The MCTP routines judge the inner message whatever its length; the mailbox
routines first compare the whole length with the smallest successful one, so
they lose the code of an error reply without payload. A second difference is
the 32-bit `out.size`, which cuts a reply when the buffer is 4 GiB or more.
-/

namespace LibCxlmi.Contract
open LibCxlmi.Word LibCxlmi.Cci LibCxlmi.Transport

/-- A mailbox payload that carries the message `r` at depth `k`. -/
def WrappedMailbox (o : ByteOrder) (k : ℕ) (req r out : Bytes) : Prop :=
  4 ≤ out.length ∧ leVal (slice out 0 2) = out.length - 4 ∧ Wrapped o k req r (out.drop 4)

theorem wrappedMailbox_length (o : ByteOrder) (k : ℕ) (req r out : Bytes)
    (h : WrappedMailbox o k req r out) : out.length = 4 + 16 * k + r.length := by
  obtain ⟨hl, -, hw⟩ := h
  have hd := wrapped_length o k req r (out.drop 4) hw
  rw [List.length_drop] at hd
  omega

theorem wrapped_length_le (o : ByteOrder) (k : ℕ) (req r d : Bytes) (h : Wrapped o (k + 1) req r d) :
    d.length ≤ maxRwCount := by
  obtain ⟨-, hl, ht, -⟩ := h
  have hlt := tunnelLength_lt d 12
  unfold maxRwCount
  omega

/- The code over MCTP: a datagram that does not fit the buffer is cut, and its
outermost header then names the wrong length. -/
theorem sendMctpTunnelled_wrapped (o : ByteOrder) (env : Env) (m : MctpTransport) (k : ℕ)
    (tReq r d : Bytes) (rspSz rspMin : ℕ) (hd : Delivers env d) (hsd : 0 ≤ m.fmapiSd)
    (hl : tReq.length ≤ maxRwCount) (hw : Wrapped o (k + 1) tReq r d) :
    (sendMctpTunnelled o env m (k + 1) tReq rspSz rspMin).rc =
      if r.length ≤ rspSz then (cciReport o (tReq.drop (16 * (k + 1))) r (rspSz == rspMin) rspMin).rc
      else -1 := by
  have hlen := wrapped_length o (k + 1) tReq r d hw
  have hmax := wrapped_length_le o k tReq r d hw
  rw [sendMctpTunnelled_rc, arrivedTunnelled_delivers env m (k + 1) tReq rspSz d hd hsd hl, judgeArrived]
  by_cases hfit : r.length ≤ rspSz
  · rw [if_pos hfit, received_of_le _ _ (by omega) hmax]
    exact wrapped_judge o rspSz rspMin (k + 1) tReq r d hw
  · have hcut : cciReport o tReq (received (16 * (k + 1) + rspSz) d) false 16 = .failed :=
      cciReport_take o tReq d _ false 16 hw.1 (by omega)
    rw [if_neg hfit, nestReports]
    simp only [mctpRule, hcut, judge]

theorem sendIoctlTunnelled_wrapped (o : ByteOrder) (env : Env) (fd : ℤ) (k : ℕ)
    (tReq r out : Bytes) (rspSz rspMin : ℕ) (ho : Returns env out) (hfd : 0 ≤ fd)
    (hw : WrappedMailbox o k (tReq.drop 4) r out) :
    (sendIoctlTunnelled o env fd k tReq rspSz rspMin).rc =
      if 4 + 16 * k + r.length ≤ u32 (4 + 16 * k + rspSz) ∧ rspMin ≤ r.length then
        (cciReport o ((tReq.drop 4).drop (16 * k)) r (rspSz == rspMin) rspMin).rc
      else -1 := by
  have hlen := wrappedMailbox_length o k (tReq.drop 4) r out hw
  have hio := tunnelledIoctl_returns env fd k rspSz out ho hfd
  rw [sendIoctlTunnelled_done o env fd k tReq rspSz rspMin 0 _ hio, if_neg (not_not.mpr rfl)]
  obtain ⟨h4, ht, hin⟩ := hw
  by_cases hfit : 4 + 16 * k + r.length ≤ u32 (4 + 16 * k + rspSz)
  · have htok : tunnelReport out = .ok := if_pos ⟨h4, ht⟩
    rw [List.take_of_length_le (by omega)]
    by_cases hmin : rspMin ≤ r.length
    · rw [if_neg (by omega), if_pos ⟨hfit, hmin⟩, tunnelledReports, htok, judge]
      exact wrapped_judge o rspSz rspMin k (tReq.drop 4) r (out.drop 4) hin
    · rw [if_pos (by omega), if_neg fun h => hmin h.2]
  · have hcut : (out.take (u32 (4 + 16 * k + rspSz))).length = u32 (4 + 16 * k + rspSz) := by
      rw [List.length_take]
      omega
    by_cases hs : (out.take (u32 (4 + 16 * k + rspSz))).length < 4 + 16 * k + rspMin
    · rw [if_pos hs, if_neg fun h => hfit h.1]
    · have htf : tunnelReport (out.take (u32 (4 + 16 * k + rspSz))) = .failed := by
        unfold tunnelReport
        apply if_neg
        rintro ⟨hl, hv⟩
        rw [slice_take out _ 0 2 (by omega)] at hv
        omega
      rw [if_neg hs, if_neg fun h => hfit h.1, tunnelledReports, htf]
      rfl

/-- The situation both transports are put in: the same command to the same
target, and the same inner reply, up to tags that are right on both sides or on
neither. -/
structure SameExchange (o : ByteOrder) (k : ℕ) (t : TunnelInfo) (m : MctpTransport) (fd : ℤ)
    (envM envI : Env) (reqM reqI r r' d out : Bytes) : Prop where
  depth : k = 0 ∨ k = 1
  level : t.level = k + 1
  socket : 0 ≤ m.fmapiSd
  mailbox : 0 ≤ fd
  request : SameButTag reqM reqI
  whole : 16 * (k + 1) + reqM.length ≤ maxRwCount
  reply : SameButTag r r'
  tags : tag r = tag reqM ↔ tag r' = tag reqI
  delivers : Delivers envM d
  wrapped : Wrapped o (k + 1) (mctpTunnelReq o m t reqM) r d
  returns : Returns envI out
  wrappedMailbox : WrappedMailbox o k ((mailboxTunnelReq o t reqI).drop 4) r' out

theorem cciReport_rc_eq_neg_one (o : ByteOrder) (req m : Bytes) (f : Bool) (n : ℕ) :
    (cciReport o req m f n).rc = -1 ↔ cciReport o req m f n = .failed := by
  cases h : cciReport o req m f n with
  | ok => exact ⟨fun hr => absurd hr (by decide), fun hr => Report.noConfusion hr⟩
  | failed => exact ⟨fun _ => rfl, fun _ => rfl⟩
  | code c =>
    refine ⟨fun hr => ?_, fun hr => Report.noConfusion hr⟩
    have hneg : (c : ℤ) = -1 := hr
    omega

/-- Both transports return the same code, and on success the same bytes, unless
the inner message is usable and fits the caller's buffer while it is shorter
than the smallest success or cut by the 32-bit size. -/
theorem tunnels_agree_iff (o : ByteOrder) (k : ℕ) (t : TunnelInfo) (m : MctpTransport) (fd : ℤ)
    (fmapi : Bool) (envM envI : Env) (reqM reqI r r' d out : Bytes) (rspSz rspMin : ℕ)
    (h : SameExchange o k t m fd envM envI reqM reqI r r' d out) :
    ((sendMctp o envM m fmapi (some t) reqM rspSz rspMin).rc =
          (sendIoctl o envI fd (some t) reqI rspSz rspMin).rc ∧
        ((sendMctp o envM m fmapi (some t) reqM rspSz rspMin).rc = 0 →
          SameButTag (sendMctp o envM m fmapi (some t) reqM rspSz rspMin).rsp
            (sendIoctl o envI fd (some t) reqI rspSz rspMin).rsp)) ↔
      ¬(r.length ≤ rspSz ∧ cciReport o reqM r (rspSz == rspMin) rspMin ≠ .failed ∧
        (r.length < rspMin ∨ u32 (4 + 16 * k + rspSz) < 4 + 16 * k + r.length)) := by
  have hml := mctpTunnelReq_length o m t reqM k h.depth h.level
  have hwhole := h.whole
  have hle := u32_le (4 + 16 * k + rspSz)
  have hrlen := sameButTag_length r r' h.reply
  have hrep := cciReport_sameButTag o reqM reqI r r' (rspSz == rspMin) rspMin h.request h.reply h.tags
  rw [sendMctp_tunnel o envM m fmapi t reqM rspSz rspMin k h.depth h.level h.delivers.alloc,
    sendIoctl_tunnel_alloc o envI fd t reqI rspSz rspMin k h.depth h.level h.returns.alloc]
  have hM := sendMctpTunnelled_wrapped o envM (m.advance (k + 1)) k (mctpTunnelReq o m t reqM) r d
    rspSz rspMin h.delivers h.socket (by omega) h.wrapped
  have hI := sendIoctlTunnelled_wrapped o envI fd k (mailboxTunnelReq o t reqI) r' out rspSz rspMin
    h.returns h.mailbox h.wrappedMailbox
  rw [mctpTunnelReq_drop o m t reqM k h.depth h.level] at hM
  rw [mailboxTunnelReq_drop o t reqI k h.depth h.level, ← hrep, ← hrlen] at hI
  have hneg := cciReport_rc_eq_neg_one o reqM r (rspSz == rspMin) rspMin
  by_cases hfit : r.length ≤ rspSz
  · rw [if_pos hfit] at hM
    by_cases hgood : 4 + 16 * k + r.length ≤ u32 (4 + 16 * k + rspSz) ∧ rspMin ≤ r.length
    · -- both judge the inner message
      rw [if_pos hgood] at hI
      refine ⟨fun _ hc => ?_, fun _ => ⟨hM.trans hI.symm, fun h0 => ?_⟩⟩
      · omega
      · have hlen := wrapped_length o (k + 1) _ r d h.wrapped
        have hlen' := wrappedMailbox_length o k _ r' out h.wrappedMailbox
        have hI0 : (sendIoctlTunnelled o envI fd k (mailboxTunnelReq o t reqI) rspSz rspMin).rc = 0 :=
          hI.trans (hM.symm.trans h0)
        have hok := (cciReport_eq_ok o reqM r _ _).mp
          ((cciReport_rc_eq_zero o reqM r _ _).mp (hM.symm.trans h0))
        have hio := tunnelledIoctl_returns envI fd k rspSz out h.returns h.mailbox
        have harr := arrivedTunnelled_delivers envM (m.advance (k + 1)) (k + 1)
          (mctpTunnelReq o m t reqM) rspSz d h.delivers h.socket (by omega)
        rw [received_of_le _ _ (by omega) (wrapped_length_le o k _ r d h.wrapped)] at harr
        rw [List.take_of_length_le (by omega)] at hio
        rw [sendMctpTunnelled_rsp o envM _ (k + 1) _ rspSz rspMin d harr (by omega) h0,
          sendIoctlTunnelled_rsp o envI fd k _ rspSz rspMin 0 out hio (by omega) hI0,
          wrapped_drop o (k + 1) _ r d h.wrapped, ← List.drop_drop,
          wrapped_drop o k _ r' (out.drop 4) h.wrappedMailbox.2.2]
        exact sameButTag_fillBuf r r' rspSz h.reply (by omega)
    · -- the mailbox gives up: the two agree when the message is unusable anyway
      rw [if_neg hgood] at hI
      constructor
      · rintro ⟨he, -⟩ ⟨-, hf, -⟩
        exact hf (hneg.mp (hM.symm.trans (he.trans hI)))
      · intro hc
        have hf : cciReport o reqM r (rspSz == rspMin) rspMin = .failed := by
          by_contra hf
          exact hc ⟨hfit, hf, by omega⟩
        have hM' := hM.trans (hneg.mpr hf)
        exact ⟨hM'.trans hI.symm, fun h0 => absurd (hM'.symm.trans h0) (by decide)⟩
  · rw [if_neg hfit] at hM
    rw [if_neg (by omega)] at hI
    exact ⟨fun _ hc => hfit hc.1,
      fun _ => ⟨hM.trans hI.symm, fun h0 => absurd (hM.symm.trans h0) (by decide)⟩⟩

/-! ### An error reply without payload -/

def busyReply (tg : Byte) : Bytes := [1, tg, 0, 0x01, 0x00, 0, 0, 0, 6, 0, 0, 0]

def busyDatagram : Bytes :=
  wrapReply 1 (mctpTunnelReq .little mctpPort (behindPort 0) (identifyReq 0x21)) (busyReply 0x21)
def busyPayload : Bytes := leBytes 2 12 ++ zeros 2 ++ busyReply 0

theorem busy_exchange :
    SameExchange .little 0 (behindPort 0) mctpPort 3 (socketDelivers busyDatagram)
      (mailboxAnswers 0 busyPayload) (identifyReq 0x21) (identifyReq 0) (busyReply 0x21) (busyReply 0)
      busyDatagram busyPayload where
  depth := Or.inl rfl
  level := rfl
  socket := by decide
  mailbox := by decide
  request := rfl
  whole := by decide
  reply := rfl
  tags := by decide
  delivers := ⟨fun _ _ => rfl, rfl, rfl, rfl⟩
  wrapped := ⟨⟨by decide, by decide, by decide, by decide⟩, by decide, by decide, rfl⟩
  returns := ⟨fun _ _ => rfl, rfl⟩
  wrappedMailbox := ⟨by decide, by decide, rfl⟩

/- With 12 as the smallest size both transports return the code. -/
theorem tunnels_agree_on_busy :
    SameExchange .little 0 (behindPort 0) mctpPort 3 (socketDelivers busyDatagram)
        (mailboxAnswers 0 busyPayload) (identifyReq 0x21) (identifyReq 0) (busyReply 0x21) (busyReply 0)
        busyDatagram busyPayload ∧
      (sendMctp .little (socketDelivers busyDatagram) mctpPort false (some (behindPort 0))
          (identifyReq 0x21) 30 12).rc =
        (sendIoctl .little (mailboxAnswers 0 busyPayload) 3 (some (behindPort 0))
          (identifyReq 0) 30 12).rc :=
  ⟨busy_exchange, ((tunnels_agree_iff .little 0 (behindPort 0) mctpPort 3 false _ _ _ _ _ _ _ _
    30 12 busy_exchange).mpr (by decide +kernel)).1⟩

/- Identify expects 30 bytes; the reply without payload gives 6 over MCTP and -1
through the mailbox. -/
theorem tunnels_disagree_on_busy :
    SameExchange .little 0 (behindPort 0) mctpPort 3 (socketDelivers busyDatagram)
        (mailboxAnswers 0 busyPayload) (identifyReq 0x21) (identifyReq 0) (busyReply 0x21) (busyReply 0)
        busyDatagram busyPayload ∧
      (sendMctp .little (socketDelivers busyDatagram) mctpPort false (some (behindPort 0))
        (identifyReq 0x21) 30 30).rc = 6 ∧
      (sendIoctl .little (mailboxAnswers 0 busyPayload) 3 (some (behindPort 0))
        (identifyReq 0) 30 30).rc = -1 :=
  ⟨busy_exchange, by decide +kernel, by decide +kernel⟩

end LibCxlmi.Contract
