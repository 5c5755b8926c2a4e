import LibCxlmi.Cci.Sanity

/-!
# Tunnel Management Command (cxlmi.c:458-527, opcode 5300h)

A tunnelled request is a CCI message whose payload is a 4-byte tunnel header
(target id, target type, 16-bit command size) and the wrapped message; a
tunnelled response has a 4-byte header (16-bit length, 16 reserved bits) and
the wrapped response. So every tunnel level adds 16 bytes on either side, and
both sides are unwound with `List.drop 16`.
-/

namespace LibCxlmi.Cci
open LibCxlmi.Word

/-- struct cxlmi_tunnel_info; `int` members. -/
structure TunnelInfo where
  port : ℤ
  ld : ℤ
  level : ℤ
  mhd : Bool
  deriving DecidableEq, Repr

def targetTypePortOrLd : Byte := 0
def targetTypeLdPoolCci : Byte := 1

def mldPort : Byte := 0x53
def tunnelManagementCommand : Byte := 0x00

/-- Narrowing of an `int` to `uint8_t`. -/
def uint8 (i : ℤ) : Byte := ⟨(i % 256).toNat, by omega⟩

/-- struct cxlmi_cmd_fmapi_tunnel_command_req up to `message`; `command_size`
is stored without a byte order conversion. -/
def tunnelReqHdr (o : ByteOrder) (id targetType : Byte) (commandSize : ℕ) : Bytes :=
  [id, targetType] ++ storeWord o 2 commandSize

/-- The header tag: the MCTP counter, or `0x10` on an endpoint without one. -/
def tunnelTag : Option ℕ → Byte
  | some t => uint8 t
  | none => 0x10

/-- The message `build_tunnel_req` allocates; the counter is advanced by the
caller of this definition. -/
def buildTunnelReq (o : ByteOrder) (counter : Option ℕ) (portOrLd : ℤ) (payloadIn : Bytes) : Bytes :=
  cciHeader o (tunnelTag counter) tunnelManagementCommand mldPort (4 + payloadIn.length) ++
    (tunnelReqHdr o (uint8 portOrLd)
      (if portOrLd = -1 then targetTypeLdPoolCci else targetTypePortOrLd) payloadIn.length ++
    payloadIn)

/-- `length` of struct cxlmi_cmd_fmapi_tunnel_command_rsp at offset `i`. -/
def tunnelRspLength (o : ByteOrder) (m : Bytes) (i : ℕ) : ℕ :=
  leToCpu o 2 (loadWord o (slice m i 2))

@[simp] theorem tunnelReqHdr_length (o : ByteOrder) (id targetType : Byte) (n : ℕ) :
    (tunnelReqHdr o id targetType n).length = 4 := by
  simp [tunnelReqHdr]

@[simp] theorem buildTunnelReq_length (o : ByteOrder) (c : Option ℕ) (p : ℤ) (m : Bytes) :
    (buildTunnelReq o c p m).length = 16 + m.length := by
  simp only [buildTunnelReq, List.length_append, cciHeader_length, tunnelReqHdr_length]
  omega

@[simp] theorem buildTunnelReq_drop (o : ByteOrder) (c : Option ℕ) (p : ℤ) (m : Bytes) :
    (buildTunnelReq o c p m).drop 16 = m := by
  unfold buildTunnelReq
  rw [← List.append_assoc]
  exact List.drop_left' (by simp)

theorem slice_commandSize (o : ByteOrder) (c : Option ℕ) (p : ℤ) (m : Bytes) :
    slice (buildTunnelReq o c p m) 14 2 = storeWord o 2 m.length := by
  unfold buildTunnelReq
  rw [slice_append_right _ _ 14 2 (by simp), cciHeader_length, slice_append _ _ _ 2 (by simp)]
  unfold tunnelReqHdr
  rw [slice_append_right _ _ _ 2 (by simp)]
  exact slice_self _ 2 (storeWord_length o 2 m.length)

@[simp] theorem tunnelRspLength_eq (o : ByteOrder) (m : Bytes) (i : ℕ) :
    tunnelRspLength o m i = leVal (slice m i 2) :=
  leToCpu_loadWord o 2 (slice m i 2) (slice_length m i 2)

theorem tunnelLength_lt (m : Bytes) (i : ℕ) : leVal (slice m i 2) < 2 ^ 16 := by
  have h := leVal_lt (slice m i 2)
  rw [slice_length] at h
  exact h

/-! ### Unwinding a reply -/

/- The length rule of each CCI layer, indexed by the number of tunnels still
inside it: whether the length is fixed, and the length. -/
abbrev LengthRule := ℕ → Bool × ℕ

/- Over MCTP only the innermost message is held to the caller's sizes; the
layers around it need their own two headers. -/
def mctpRule (rspSz rspMin : ℕ) : LengthRule
  | 0 => (rspSz == rspMin, rspMin)
  | _ + 1 => (false, 16)

/- The mailbox routines keep `len_min` and `len_max` running and apply them at
every layer. -/
def ioctlRule (rspSz rspMin : ℕ) : LengthRule := fun k => (rspSz == rspMin, 16 * k + rspMin)

/- The body the unwrapping routines share, from the buffer and the length on.
`len` is an `int`: it is converted to `size_t` for the check of a layer and
compared as it is with the length field of a tunnel header. -/
def unwind (o : ByteOrder) (rule : LengthRule) : ℕ → Bytes → Bytes → ℤ → ℤ
  | 0, req, buf, len => sanityCheckMctpRsp o req buf (sizeT len) (rule 0).1 (rule 0).2
  | k + 1, req, buf, len =>
      let rc := sanityCheckMctpRsp o req buf (sizeT len) (rule (k + 1)).1 (rule (k + 1)).2
      if rc ≠ 0 then rc
      else
        let len := int32 (len - 16)
        if (tunnelRspLength o buf 12 : ℤ) ≠ len then -1
        else unwind o rule k (req.drop 16) (buf.drop 16) len

/-! ### Reports of a nest of layers -/

/-- The tunnel header at the front of `t`: its length field counts the bytes
after it. -/
def tunnelReport (t : Bytes) : Report :=
  if 4 ≤ t.length ∧ leVal (slice t 0 2) = t.length - 4 then .ok else .failed

/-- Reports of a reply to a request tunnelled `k` times, outermost first. -/
def nestReports (o : ByteOrder) (rule : LengthRule) : ℕ → Bytes → Bytes → List Report
  | 0, req, d => [cciReport o req d (rule 0).1 (rule 0).2]
  | k + 1, req, d => cciReport o req d (rule (k + 1)).1 (rule (k + 1)).2 ::
      tunnelReport (d.drop 12) :: nestReports o rule k (req.drop 16) (d.drop 16)

theorem tunnelReport_ok_iff (d : Bytes) :
    tunnelReport (d.drop 12) = .ok ↔ 16 ≤ d.length ∧ leVal (slice d 12 2) = d.length - 16 := by
  unfold tunnelReport
  rw [slice_drop, List.length_drop, Nat.add_zero]
  split_ifs with h
  · exact ⟨fun _ => ⟨by omega, by omega⟩, fun _ => rfl⟩
  · constructor
    · intro hr
      cases hr
    · intro hr
      exact absurd ⟨by omega, by omega⟩ h

theorem tunnelReport_cases (t : Bytes) : tunnelReport t = .ok ∨ tunnelReport t = .failed := by
  unfold tunnelReport
  split_ifs
  · exact Or.inl rfl
  · exact Or.inr rfl

theorem cciReport_rc_eq_zero (o : ByteOrder) (req m : Bytes) (f : Bool) (n : ℕ) :
    (cciReport o req m f n).rc = 0 ↔ cciReport o req m f n = .ok := by
  cases h : cciReport o req m f n with
  | ok => exact ⟨fun _ => rfl, fun _ => rfl⟩
  | failed => exact ⟨fun hr => absurd hr (by decide), fun hr => Report.noConfusion hr⟩
  | code c =>
    obtain ⟨-, -, h0, hc⟩ := (cciReport_eq_code o req m f n c).mp h
    refine ⟨fun hr => ?_, fun hr => Report.noConfusion hr⟩
    have hz : c = 0 := Int.natCast_eq_zero.mp hr
    exact absurd (hc.symm.trans hz) h0

/- The specification of `unwind`: on a buffer that starts with the received
bytes it judges the layers of these bytes, and what follows them is never
looked at. The induction is on the number of tunnels; a layer that passes is at
least 16 bytes long, so the next one again starts inside `d`. -/
theorem unwind_eq_judge (o : ByteOrder) (rule : LengthRule) (hr : ∀ k, 16 ≤ (rule (k + 1)).2)
    (k : ℕ) (req d z : Bytes) (hd : d.length < 2 ^ 31) :
    unwind o rule k req (d ++ z) d.length = judge (nestReports o rule k req d) := by
  have hs : sizeT (d.length : ℤ) = d.length := sizeT_natCast d.length (by omega)
  induction k generalizing req d with
  | zero => rw [unwind, hs, sanityCheck_eq_report, nestReports, judge_singleton]
  | succ k ih =>
    rw [unwind, hs, sanityCheck_eq_report, nestReports]
    by_cases hok : cciReport o req d (rule (k + 1)).1 (rule (k + 1)).2 = .ok
    · have hlen : 16 ≤ d.length :=
        (hr k).trans ((cciReport_eq_ok o req d _ _).mp hok).2.2.2.1.le
      have hi : int32 ((d.length : ℤ) - 16) = ((d.drop 16).length : ℤ) := by
        rw [List.length_drop, show (d.length : ℤ) - 16 = ((d.length - 16 : ℕ) : ℤ) by omega]
        exact int32_natCast _ (by omega)
      have hsl : slice (d ++ z) 12 2 = slice d 12 2 := slice_append d z 12 2 (by omega)
      simp only [hok, Report.rc, ne_eq, not_true_eq_false, if_false, judge, hi, tunnelRspLength_eq, hsl]
      by_cases ht : tunnelReport (d.drop 12) = .ok
      · obtain ⟨-, hl⟩ := (tunnelReport_ok_iff d).mp ht
        rw [if_neg (by rw [List.length_drop]; omega), ht, List.drop_append_of_le_length hlen]
        exact ih (req.drop 16) (d.drop 16) (by rw [List.length_drop]; omega)
          (sizeT_natCast _ (by rw [List.length_drop]; omega))
      · have hf := (tunnelReport_cases (d.drop 12)).resolve_left ht
        have hl : ¬leVal (slice d 12 2) = d.length - 16 := fun h =>
          ht ((tunnelReport_ok_iff d).mpr ⟨hlen, h⟩)
        rw [if_pos (by rw [List.length_drop]; omega), hf]
        rfl
    · have hne := fun h => hok ((cciReport_rc_eq_zero o req d _ _).mp h)
      rw [judge_cons _ _ hok]
      exact if_pos hne

/-- A failed `recvfrom` leaves a zeroed buffer, which is never accepted. -/
theorem unwind_zeros (o : ByteOrder) (rule : LengthRule) (k n : ℕ) (req : Bytes) (len : ℤ) :
    unwind o rule k req (zeros n) len = -1 := by
  cases k with
  | zero => exact sanityCheck_zeros o req n _ _ _
  | succ k =>
    rw [unwind, sanityCheck_zeros]
    rfl

/-- On success every layer is exactly what its request asked for. -/
structure CciLayer (o : ByteOrder) (req d : Bytes) : Prop where
  header : 12 ≤ d.length
  answers : Answers req d
  success : returnCode o d = 0
  exactLength : plLength d = d.length - 12

instance (o : ByteOrder) (req d : Bytes) : Decidable (CciLayer o req d) :=
  decidable_of_iff (12 ≤ d.length ∧ Answers req d ∧ returnCode o d = 0 ∧ plLength d = d.length - 12)
    ⟨fun ⟨h1, h2, h3, h4⟩ => ⟨h1, h2, h3, h4⟩, fun h => ⟨h.header, h.answers, h.success, h.exactLength⟩⟩

/-- `d` is exactly the nest of layers that answers a request tunnelled `k`
times. -/
def Nest (o : ByteOrder) : ℕ → Bytes → Bytes → Prop
  | 0, req, d => CciLayer o req d
  | k + 1, req, d => CciLayer o req d ∧ 16 ≤ d.length ∧ leVal (slice d 12 2) = d.length - 16 ∧
      Nest o k (req.drop 16) (d.drop 16)

instance decidableNest (o : ByteOrder) : ∀ k req d, Decidable (Nest o k req d)
  | 0, req, d => inferInstanceAs (Decidable (CciLayer o req d))
  | k + 1, req, d =>
      have := decidableNest o k (req.drop 16) (d.drop 16)
      inferInstanceAs (Decidable (CciLayer o req d ∧ 16 ≤ d.length ∧
        leVal (slice d 12 2) = d.length - 16 ∧ Nest o k (req.drop 16) (d.drop 16)))

theorem nest_length (o : ByteOrder) (k : ℕ) (req d : Bytes) (h : Nest o k req d) :
    16 * k + 12 ≤ d.length := by
  induction k generalizing req d with
  | zero =>
    have hh := h.header
    omega
  | succ k ih =>
    obtain ⟨-, hl, -, hn⟩ := h
    have hi := ih (req.drop 16) (d.drop 16) hn
    rw [List.length_drop] at hi
    omega

theorem cciReport_ok_iff_layer (o : ByteOrder) (req d : Bytes) (f : Bool) (n : ℕ) :
    cciReport o req d f n = .ok ↔ CciLayer o req d ∧ LengthOk f n d.length := by
  rw [cciReport_eq_ok]
  constructor
  · intro ⟨h1, h2, h3, h4, h5⟩
    exact ⟨⟨h1, h2, h3, h5.symm⟩, h4⟩
  · intro ⟨⟨h1, h2, h3, h5⟩, h4⟩
    exact ⟨h1, h2, h3, h4, h5.symm⟩

theorem judge_cciReport_cons (o : ByteOrder) (req m : Bytes) (f : Bool) (n : ℕ) (rs : List Report) :
    judge (cciReport o req m f n :: rs) = 0 ↔ cciReport o req m f n = .ok ∧ judge rs = 0 := by
  by_cases h : cciReport o req m f n = .ok
  · rw [h]
    exact ⟨fun hj => ⟨rfl, hj⟩, fun hj => hj.2⟩
  · rw [judge_cons _ _ h, cciReport_rc_eq_zero]
    exact ⟨fun ha => absurd ha h, fun ha => ha.1⟩

theorem judge_tunnelReport_cons (t : Bytes) (rs : List Report) :
    judge (tunnelReport t :: rs) = 0 ↔ tunnelReport t = .ok ∧ judge rs = 0 := by
  rcases tunnelReport_cases t with h | h
  · rw [h]
    exact ⟨fun hj => ⟨rfl, hj⟩, fun hj => hj.2⟩
  · rw [h]
    exact ⟨fun hj => absurd hj (show (-1 : ℤ) ≠ 0 by decide), fun hj => Report.noConfusion hj.1⟩

/-- Success over MCTP is exactly: the received string is the full nest and its
innermost message obeys the caller's length rule. -/
theorem judge_mctpRule_eq_zero (o : ByteOrder) (rspSz rspMin k : ℕ) (req d : Bytes) :
    judge (nestReports o (mctpRule rspSz rspMin) k req d) = 0 ↔
      Nest o k req d ∧ LengthOk (rspSz == rspMin) rspMin (d.length - 16 * k) := by
  induction k generalizing req d with
  | zero =>
    rw [nestReports, judge_cciReport_cons, cciReport_ok_iff_layer]
    exact ⟨fun h => h.1, fun h => ⟨h, rfl⟩⟩
  | succ k ih =>
    rw [nestReports, judge_cciReport_cons, judge_tunnelReport_cons, ih, cciReport_ok_iff_layer,
      tunnelReport_ok_iff, List.length_drop,
      show d.length - 16 - 16 * k = d.length - 16 * (k + 1) by omega]
    constructor
    · intro ⟨⟨hc, _⟩, ⟨hl, ht⟩, hn, hi⟩
      exact ⟨⟨hc, hl, ht, hn⟩, hi⟩
    · intro ⟨⟨hc, hl, ht, hn⟩, hi⟩
      exact ⟨⟨hc, hl⟩, ⟨hl, ht⟩, hn, hi⟩

end LibCxlmi.Cci
