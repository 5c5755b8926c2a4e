import LibCxlmi.Cci.Tunnel

/-!
# Wrapped replies

The device side of a tunnel. `Wrapped o k req r d` says that `d` carries the
message `r` under `k` tunnel layers that all answer `req` with success, as a
conforming device builds it; the fields the library does not look at stay
free. `SameButTag` relates two messages that differ at most in their tag.
-/

namespace LibCxlmi.Cci
open LibCxlmi.Word

def Wrapped (o : ByteOrder) : ℕ → Bytes → Bytes → Bytes → Prop
  | 0, _, r, d => d = r
  | k + 1, req, r, d => CciLayer o req d ∧ 16 ≤ d.length ∧ leVal (slice d 12 2) = d.length - 16 ∧
      Wrapped o k (req.drop 16) r (d.drop 16)

theorem wrapped_length (o : ByteOrder) (k : ℕ) (req r d : Bytes) (h : Wrapped o k req r d) :
    d.length = 16 * k + r.length := by
  induction k generalizing req d with
  | zero =>
    have hd : d = r := h
    rw [hd]
    omega
  | succ k ih =>
    obtain ⟨-, hl, -, hn⟩ := h
    have hi := ih (req.drop 16) (d.drop 16) hn
    rw [List.length_drop] at hi
    omega

theorem wrapped_drop (o : ByteOrder) (k : ℕ) (req r d : Bytes) (h : Wrapped o k req r d) :
    d.drop (16 * k) = r := by
  induction k generalizing req d with
  | zero => exact h
  | succ k ih =>
    obtain ⟨-, -, -, hn⟩ := h
    have hi := ih (req.drop 16) (d.drop 16) hn
    rw [List.drop_drop] at hi
    rw [← hi]
    congr 1
    omega

theorem wrapped_judge (o : ByteOrder) (rspSz rspMin k : ℕ) (req r d : Bytes)
    (h : Wrapped o k req r d) :
    judge (nestReports o (mctpRule rspSz rspMin) k req d) =
      (cciReport o (req.drop (16 * k)) r (rspSz == rspMin) rspMin).rc := by
  induction k generalizing req d with
  | zero =>
    have hd : d = r := h
    rw [hd]
    exact judge_singleton _
  | succ k ih =>
    obtain ⟨hc, hl, ht, hn⟩ := h
    have hok : cciReport o req d false 16 = .ok := (cciReport_ok_iff_layer o req d false 16).mpr ⟨hc, hl⟩
    have htok : tunnelReport (d.drop 12) = .ok := (tunnelReport_ok_iff d).mpr ⟨hl, ht⟩
    have hi := ih (req.drop 16) (d.drop 16) hn
    rw [List.drop_drop, show 16 + 16 * k = 16 * (k + 1) by omega] at hi
    rw [nestReports, htok]
    simp only [mctpRule, hok, judge]
    exact hi

/-! ### A device that tunnels -/

/-- The tunnel response a device builds around `inner`. -/
def tunnelRsp (req inner : Bytes) : Bytes :=
  [categoryRsp, tag req, 0, command req, commandSet req] ++ leBytes 3 (4 + inner.length) ++ zeros 4 ++
    (leBytes 2 inner.length ++ zeros 2 ++ inner)

def wrapReply : ℕ → Bytes → Bytes → Bytes
  | 0, _, r => r
  | k + 1, req, r => tunnelRsp req (wrapReply k (req.drop 16) r)

/-- The wrapped request, as a device reads it: a tunnel command whose payload
length and `command_size` are those of the bytes that follow them. -/
def stripTunnel (m : Bytes) : Option Bytes :=
  if 16 ≤ m.length ∧ category m = categoryReq ∧ command m = tunnelManagementCommand ∧
      commandSet m = mldPort ∧ plLength m = m.length - 12 ∧ leVal (slice m 14 2) = m.length - 16 then
    some (m.drop 16)
  else none

def stripTunnels : ℕ → Bytes → Option Bytes
  | 0, m => some m
  | k + 1, m => (stripTunnel m).bind (stripTunnels k)

theorem tunnelRsp_length (req inner : Bytes) : (tunnelRsp req inner).length = 16 + inner.length := by
  simp only [tunnelRsp, List.length_append, List.length_cons, List.length_nil, leBytes_length,
    zeros_length]
  omega

theorem tunnelRsp_drop (req inner : Bytes) : (tunnelRsp req inner).drop 16 = inner := by
  unfold tunnelRsp
  rw [← List.append_assoc]
  exact List.drop_left' (by simp)

theorem tunnelRsp_layer (o : ByteOrder) (req inner : Bytes) (h : inner.length < 2 ^ 16) :
    CciLayer o req (tunnelRsp req inner) ∧
      leVal (slice (tunnelRsp req inner) 12 2) = (tunnelRsp req inner).length - 16 := by
  have hl := tunnelRsp_length req inner
  have h5 : (byteAt (tunnelRsp req inner) 5).val = (4 + inner.length) % 256 := rfl
  have h6 : (byteAt (tunnelRsp req inner) 6).val = (4 + inner.length) / 256 % 256 := rfl
  have h7 : (byteAt (tunnelRsp req inner) 7).val = (4 + inner.length) / 256 / 256 % 256 := rfl
  have hfield : slice (tunnelRsp req inner) 12 2 = leBytes 2 inner.length := rfl
  refine ⟨⟨by omega, ⟨rfl, rfl, rfl, rfl⟩, ?_, ?_⟩, ?_⟩
  · cases o with
    | little => rfl
    | big => rfl
  · rw [plLength_eq, h5, h6, h7]
    omega
  · rw [hfield, leVal_leBytes_of_lt 2 _ h, hl]
    omega

theorem wrapReply_wrapped (o : ByteOrder) (k : ℕ) (req r : Bytes) (h : 16 * k + r.length < 2 ^ 16) :
    Wrapped o k req r (wrapReply k req r) := by
  induction k generalizing req with
  | zero => exact rfl
  | succ k ih =>
    have hin := ih (req.drop 16) (by omega)
    have hlen := wrapped_length o k _ r _ hin
    obtain ⟨hc, ht⟩ := tunnelRsp_layer o req (wrapReply k (req.drop 16) r) (by omega)
    have hl := tunnelRsp_length req (wrapReply k (req.drop 16) r)
    refine ⟨hc, ?_, ht, ?_⟩
    · rw [wrapReply, hl]
      omega
    · rw [wrapReply, tunnelRsp_drop]
      exact hin

/-- Stripping undoes the library's wrapping, on a little-endian host. -/
theorem stripTunnel_build (c : Option ℕ) (p : ℤ) (m : Bytes) (h : m.length < 2 ^ 16) :
    stripTunnel (buildTunnelReq .little c p m) = some m := by
  have hl := buildTunnelReq_length .little c p m
  have hp : plLength (buildTunnelReq .little c p m) = (buildTunnelReq .little c p m).length - 12 := by
    rw [hl]
    unfold buildTunnelReq
    rw [plLength_cciHeader]
    omega
  have hsize : leVal (slice (buildTunnelReq .little c p m) 14 2) = (buildTunnelReq .little c p m).length - 16 := by
    rw [slice_commandSize, hl, Nat.add_sub_cancel_left]
    exact leVal_leBytes_of_lt 2 _ h
  unfold stripTunnel
  rw [if_pos ⟨by omega, rfl, rfl, rfl, hp, hsize⟩, buildTunnelReq_drop]

/-! ### Cut replies -/

/- A layer that was cut short no longer has the length its header names. -/
theorem cciReport_take (o : ByteOrder) (req d : Bytes) (n : ℕ) (f : Bool) (l : ℕ)
    (h : CciLayer o req d) (hn : n < d.length) : cciReport o req (d.take n) f l = .failed := by
  have hlen : (d.take n).length = n := by
    rw [List.length_take]
    omega
  unfold cciReport
  by_cases h1 : (d.take n).length < 12 ∨ ¬Answers req (d.take n)
  · rw [if_pos h1]
  · push Not at h1
    have hsplit := List.take_append_drop n d
    have hs : returnCode o (d.take n) = 0 := by
      rw [← returnCode_append o (d.take n) (d.drop n) h1.1, hsplit]
      exact h.success
    have hp : plLength (d.take n) = d.length - 12 := by
      rw [← plLength_append (d.take n) (d.drop n) h1.1, hsplit]
      exact h.exactLength
    rw [if_neg (by push Not; exact h1), if_neg (not_not.mpr hs), if_neg (by omega)]

/-! ### Messages up to their tag -/

def SameButTag (a b : Bytes) : Prop := a.set 1 0 = b.set 1 0

theorem sameButTag_length (a b : Bytes) (h : SameButTag a b) : a.length = b.length := by
  have hl := congrArg List.length h
  rwa [List.length_set, List.length_set] at hl

theorem byteAt_set (a : Bytes) (i : ℕ) (hi : i ≠ 1) : byteAt (a.set 1 0) i = byteAt a i := by
  simp only [byteAt, List.getD_eq_getElem?_getD, List.getElem?_set_ne hi.symm]

theorem sameButTag_byteAt (a b : Bytes) (h : SameButTag a b) (i : ℕ) (hi : i ≠ 1) :
    byteAt a i = byteAt b i := by
  rw [← byteAt_set a i hi, ← byteAt_set b i hi, h]

/-- Replies that differ only in a tag that is right on both sides, or wrong on
both, get the same report. -/
theorem cciReport_sameButTag (o : ByteOrder) (req req' m m' : Bytes) (f : Bool) (n : ℕ)
    (hreq : SameButTag req req') (hm : SameButTag m m') (ht : tag m = tag req ↔ tag m' = tag req') :
    cciReport o req m f n = cciReport o req' m' f n := by
  have hb := sameButTag_byteAt m m' hm
  have hc := sameButTag_byteAt req req' hreq
  have hans : Answers req m ↔ Answers req' m' := by
    simp only [Answers, category, command, commandSet, hb 0 (by decide), hb 3 (by decide),
      hb 4 (by decide), hc 3 (by decide), hc 4 (by decide), ht]
  have hrc : returnCode o m = returnCode o m' := by
    unfold returnCode slice
    congr 1
    refine List.map_congr_left fun k _ => hb (8 + k) ?_
    omega
  have hpl : plLength m = plLength m' := by
    unfold plLength
    rw [hb 5 (by decide), hb 6 (by decide), hb 7 (by decide)]
  unfold cciReport
  simp only [sameButTag_length m m' hm, hans, hrc, hpl]

theorem sameButTag_fillBuf (a b : Bytes) (n : ℕ) (h : SameButTag a b) (hl : 1 < a.length) :
    SameButTag (fillBuf n a) (fillBuf n b) := by
  have hlen := sameButTag_length a b h
  unfold SameButTag fillBuf
  rw [List.set_append_left _ _ hl, List.set_append_left _ _ (by omega), h, hlen]

end LibCxlmi.Cci
