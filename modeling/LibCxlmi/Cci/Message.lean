import LibCxlmi.Word.Buffer

/-!
# CCI messages (api-types.h, struct cxlmi_cci_msg)

A message is a byte string: the packed 12-byte header

    category, tag, rsv1, command, command_set, pl_length[3],
    return_code (16 bits), vendor_ext_status (16 bits)

followed by the payload. The three bytes of `pl_length` are assembled by hand
on both sides; `return_code` and `vendor_ext_status` are plain 16-bit struct
members, which the library reads and writes in host byte order.
-/

namespace LibCxlmi.Cci
open LibCxlmi.Word

def categoryReq : Byte := 0
def categoryRsp : Byte := 1

def category (m : Bytes) : Byte := byteAt m 0
def tag (m : Bytes) : Byte := byteAt m 1
def command (m : Bytes) : Byte := byteAt m 3
def commandSet (m : Bytes) : Byte := byteAt m 4

/-- The 20-bit payload length as the library decodes it (`cxlmi.c:396`). -/
def plLength (m : Bytes) : ℕ :=
  (byteAt m 5).val ||| ((byteAt m 6).val <<< 8) ||| (((byteAt m 7).val &&& 0xf) <<< 16)

/-- `return_code`, read in host order. -/
def returnCode (o : ByteOrder) (m : Bytes) : ℕ := loadWord o (slice m 8 2)

def payload (m : Bytes) : Bytes := m.drop 12

/-- The three bytes an encoder writes: 24 bits of the size (`cxlmi.c:1809`). -/
def plLengthBytes (sz : ℕ) : Bytes := leBytes 3 sz

/-- A request header. A zero size leaves `pl_length` zero, as its encoding is. -/
def cciHeader (o : ByteOrder) (tg cmd set : Byte) (plSz : ℕ) : Bytes :=
  [categoryReq, tg, 0, cmd, set] ++ plLengthBytes plSz ++ storeWord o 2 0 ++ storeWord o 2 0xabcd

@[simp] theorem cciHeader_length (o : ByteOrder) (tg cmd set : Byte) (plSz : ℕ) :
    (cciHeader o tg cmd set plSz).length = 12 := by
  simp [cciHeader, plLengthBytes]

theorem request_length (o : ByteOrder) (tg cmd set : Byte) (n : ℕ) (pl : Bytes) :
    (cciHeader o tg cmd set n ++ pl).length = 12 + pl.length := by
  rw [List.length_append, cciHeader_length]

theorem plLength_eq (m : Bytes) :
    plLength m = (byteAt m 5).val + 256 * (byteAt m 6).val + 65536 * ((byteAt m 7).val % 16) := by
  have h5 := (byteAt m 5).isLt
  have h6 := (byteAt m 6).isLt
  have hlo : (byteAt m 6).val <<< 8 ||| (byteAt m 5).val =
      (byteAt m 6).val <<< 8 + (byteAt m 5).val :=
    (Nat.shiftLeft_add_eq_or_of_lt (by omega) _).symm
  have hand : (byteAt m 7).val &&& 0xf = (byteAt m 7).val % 16 :=
    Nat.and_two_pow_sub_one_eq_mod (byteAt m 7).val 4
  have hsh : (byteAt m 6).val <<< 8 = 256 * (byteAt m 6).val := by
    rw [Nat.shiftLeft_eq, Nat.mul_comm]
  have hhi : ((byteAt m 7).val % 16) <<< 16 ||| ((byteAt m 6).val <<< 8 + (byteAt m 5).val) =
      ((byteAt m 7).val % 16) <<< 16 + ((byteAt m 6).val <<< 8 + (byteAt m 5).val) :=
    (Nat.shiftLeft_add_eq_or_of_lt (by omega) _).symm
  rw [plLength, hand, Nat.or_comm (byteAt m 5).val, hlo, Nat.or_comm, hhi, hsh, Nat.shiftLeft_eq]
  omega

/-! ### The header only depends on the first twelve bytes -/

theorem plLength_append (d z : Bytes) (h : 12 ≤ d.length) : plLength (d ++ z) = plLength d := by
  simp only [plLength, byteAt_append d z 5 (by omega), byteAt_append d z 6 (by omega),
    byteAt_append d z 7 (by omega)]

theorem returnCode_append (o : ByteOrder) (d z : Bytes) (h : 12 ≤ d.length) :
    returnCode o (d ++ z) = returnCode o d := by
  simp only [returnCode, slice_append d z 8 2 (by omega)]

/-- A response header that answers the request: category, tag and opcode. -/
def Answers (req rsp : Bytes) : Prop :=
  category rsp = categoryRsp ∧ tag rsp = tag req ∧ command rsp = command req ∧
    commandSet rsp = commandSet req

instance (req rsp : Bytes) : Decidable (Answers req rsp) := by
  unfold Answers
  infer_instance

theorem answers_append (req d z : Bytes) (h : 12 ≤ d.length) :
    Answers req (d ++ z) ↔ Answers req d := by
  simp only [Answers, category, tag, command, commandSet, byteAt_append d z 0 (by omega),
    byteAt_append d z 1 (by omega), byteAt_append d z 3 (by omega), byteAt_append d z 4 (by omega)]

theorem payload_zeros (n : ℕ) : payload (zeros n) = zeros (n - 12) := by
  rw [payload, zeros, List.drop_replicate]
  rfl

/-- Nothing in a zeroed buffer is a response. -/
theorem not_answers_zeros (req : Bytes) (n : ℕ) : ¬Answers req (zeros n) := by
  intro h
  have hc := h.1
  simp only [category, byteAt_zeros, categoryRsp] at hc
  exact absurd hc (by decide)

/-! ### Reading an armed header back -/

theorem tag_cciHeader (o : ByteOrder) (tg cmd set : Byte) (plSz : ℕ) (pl : Bytes) :
    tag (cciHeader o tg cmd set plSz ++ pl) = tg := rfl

theorem command_cciHeader (o : ByteOrder) (tg cmd set : Byte) (plSz : ℕ) (pl : Bytes) :
    command (cciHeader o tg cmd set plSz ++ pl) = cmd := rfl

theorem commandSet_cciHeader (o : ByteOrder) (tg cmd set : Byte) (plSz : ℕ) (pl : Bytes) :
    commandSet (cciHeader o tg cmd set plSz ++ pl) = set := rfl

theorem payload_cciHeader (o : ByteOrder) (tg cmd set : Byte) (plSz : ℕ) (pl : Bytes) :
    payload (cciHeader o tg cmd set plSz ++ pl) = pl :=
  List.drop_left' (cciHeader_length o tg cmd set plSz)

/-- The encoder writes 24 bits, the decoder keeps 20: the field reads back
modulo `2^20`. -/
theorem plLength_cciHeader (o : ByteOrder) (tg cmd set : Byte) (plSz : ℕ) (pl : Bytes) :
    plLength (cciHeader o tg cmd set plSz ++ pl) = plSz % 2 ^ 20 := by
  have h5 : (byteAt (cciHeader o tg cmd set plSz ++ pl) 5).val = plSz % 256 := rfl
  have h6 : (byteAt (cciHeader o tg cmd set plSz ++ pl) 6).val = plSz / 256 % 256 := rfl
  have h7 : (byteAt (cciHeader o tg cmd set plSz ++ pl) 7).val = plSz / 256 / 256 % 256 := rfl
  rw [plLength_eq, h5, h6, h7]
  omega

end LibCxlmi.Cci
