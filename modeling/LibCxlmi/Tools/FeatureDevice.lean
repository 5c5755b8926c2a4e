import LibCxlmi.Contract.Decoders
import LibCxlmi.Tools.Features
import LibCxlmi.Tools.Sent

/-!
# Set Feature on both paths

A device answers Get Supported Features with a table, or does not answer it. The
direct command and the tunnel's subcommand are asked what Set Feature requests
they may send to such a device, with the same arguments and the same files.
-/

namespace LibCxlmi.Tools
open LibCxlmi.Word LibCxlmi.Commands LibCxlmi.Dialogue

/-! ### The device -/

/-- The reply to the request for 16 entries: no more are in it, and it is a success. -/
structure FeatureTable where
  reply : Bytes
  size : reply.length = 12 + 8 + featureDefaultCount
  success : slice reply 8 2 = zeros 2
  counted : leVal (slice (Cci.payload reply) 0 2) ≤ 16

/-- The entries, as both decoders read one. -/
def FeatureTable.entries (o : ByteOrder) (t : FeatureTable) : List SupportedFeatureEntry :=
  (List.range (leVal (slice (Cci.payload t.reply) 0 2))).map fun k =>
    supportedFeatureEntry o (slice (Cci.payload t.reply) (8 + k * 48) 48)

/-- What the tunnel makes of the table. -/
def FeatureTable.sdb (o : ByteOrder) (t : FeatureTable) : GetSupportedFeaturesRsp :=
  ⟨leVal (slice (Cci.payload t.reply) 0 2), getLe o 2 (Cci.payload t.reply) 2, t.entries o⟩

/-- What the library makes of it: on a big-endian host it finds no entry. -/
def FeatureTable.library (o : ByteOrder) (t : FeatureTable) : GetSupportedFeaturesRsp :=
  match o with
  | .little => t.sdb .little
  | .big => ⟨0, getLe .big 2 (Cci.payload t.reply) 2, []⟩

theorem FeatureTable.payload_length (t : FeatureTable) : (Cci.payload t.reply).length = 776 := by
  rw [Cci.payload, List.length_drop, t.size]
  rfl

theorem FeatureTable.entries_read (o : ByteOrder) (t : FeatureTable) :
    records (Cci.payload t.reply) 8 48 (leVal (slice (Cci.payload t.reply) 0 2)) (supportedFeatureEntry o) =
      some (t.entries o) := by
  have hlen := t.payload_length
  have hcount := t.counted
  exact Contract.records_of_le _ 8 48 _ _ (by omega) (by omega)

theorem FeatureTable.sdb_parsed (o : ByteOrder) (t : FeatureTable) :
    sdbParseSupportedFeaturesRsp o (Cci.payload t.reply) = some (t.sdb o) := by
  unfold sdbParseSupportedFeaturesRsp
  dsimp only
  rw [getLe_eq, t.entries_read, Option.map_some]
  rfl

theorem FeatureTable.library_decoded (o : ByteOrder) (t : FeatureTable) :
    (getSupportedFeatures 768 0).decode o t.reply = some (t.library o) := by
  change (records (Cci.payload t.reply) 8 48 (numSupportedFeatureEntries o (Cci.payload t.reply))
    (supportedFeatureEntry o)).map _ = _
  cases o with
  | little =>
    rw [numSupportedFeatureEntries_little, t.entries_read, Option.map_some]
    rfl
  | big =>
    have hroom : 8 + 0 * 48 ≤ (Cci.payload t.reply).length := by rw [t.payload_length]; decide
    rw [numSupportedFeatureEntries_big, Contract.records_of_le _ 8 48 0 _ hroom (by decide)]
    rfl

def featureRequest (o : ByteOrder) (port : Byte) : Message :=
  .sdb port 0x00 0x05 3 (putLe o 4 featureDefaultCount ++ putLe o 2 0 ++ zeros 2)

section Device
variable (o : ByteOrder) (dev : Option FeatureTable)

def DirectAnswer : (q : FeatureCall) → q.Answer → Prop
  | .getSupportedFeatures _ _, x =>
      match dev with
      | none => x.rc ≠ 0
      | some t => x = ⟨0, t.reply⟩
  | _, _ => True

/-- The vendor command fails, or the inner request does, or the table is in the reply. -/
def TableAnswer (x : VendorReply) : Prop :=
  match dev with
  | none => x.rc ≠ 0 ∨ innerReturnCode o (x.buffer (16 + 8 + featureDefaultCount)) ≠ 0
  | some t => x.rc = 0 ∧ (x.buffer (16 + 8 + featureDefaultCount)).drop 4 = t.reply

def TunnelAnswer : (q : SysCall) → q.Answer → Prop
  | .vendor m _, x => (∃ port, m = featureRequest o port) → TableAnswer o dev x
  | _, _ => True

/-! ### What may be sent -/

variable (disk : Disk) (scan : List Char → Option Byte) (args : List String) (pl : Bytes)

def DirectSends : Prop :=
  ∃ t r, (cmdSetFeature o disk scan args).Runs t r ∧ Answered (DirectAnswer dev) t ∧
    ∃ req, .setFeature req ∈ t.map Event.asked ∧ (setFeature req).payload o = some pl

/-- A packet with the inner request Set Feature. -/
structure SetFeaturePacket (m : Message) : Prop where
  tunnel : m.opcode = sdbTunnelOpcode
  command : Cci.command ((m.encode o).drop 4) = 0x02
  commandSet : Cci.commandSet ((m.encode o).drop 4) = 0x05
  payload : Cci.payload ((m.encode o).drop 4) = pl

def TunnelSends : Prop :=
  ∃ t r, (sdbTunnelSetFeatureArgs o disk scan args).Runs t r ∧ Answered (TunnelAnswer o dev) t ∧
    ∃ m n, .vendor m n ∈ t.map Event.asked ∧ SetFeaturePacket o pl m

end Device

/-- Neither sends, or both send the same feature id, flags, offset, version and data. -/
def SetsAlike (o : ByteOrder) (disk : Disk) (scan : List Char → Option Byte) (dev : Option FeatureTable)
    (args : List String) : Prop :=
  ∀ pl, DirectSends o dev disk scan (portless args) pl ↔ TunnelSends o dev disk scan args pl

theorem directAnswer_exists (dev : Option FeatureTable) (q : FeatureCall) : ∃ x, DirectAnswer dev q x := by
  cases q with
  | calloc n => exact ⟨true, trivial⟩
  | getSupportedFeatures count start =>
    cases dev with
    | none => exact ⟨⟨1, []⟩, Int.one_ne_zero⟩
    | some t => exact ⟨⟨0, t.reply⟩, rfl⟩
  | setFeature req => exact ⟨0, trivial⟩

theorem tunnelAnswer_exists (o : ByteOrder) (dev : Option FeatureTable) (q : SysCall) :
    ∃ x, TunnelAnswer o dev q x := by
  cases q with
  | vendor m n =>
    cases dev with
    | none => exact ⟨⟨1, []⟩, fun _ => Or.inl Int.one_ne_zero⟩
    | some t =>
      refine ⟨⟨0, zeros 4 ++ t.reply⟩, fun _ => ⟨rfl, ?_⟩⟩
      have hlen : (zeros 4 ++ t.reply).length = 16 + 8 + featureDefaultCount := by
        rw [List.length_append, zeros_length, t.size]
        rfl
      change (fillBuf _ ((zeros 4 ++ t.reply).take _)).drop 4 = t.reply
      rw [List.take_of_length_le (Nat.le_of_eq hlen), fillBuf, hlen, Nat.sub_self]
      exact List.append_nil t.reply
  | fseekEnd | ftell | fseekSet off | fread pos len | fopenWrite path | fwrite d | calloc n => exact ⟨true, trivial⟩
  | clockGettime => exact ⟨none, trivial⟩
  | usleep us => exact ⟨(), trivial⟩
  | transferFw r => exact ⟨0, trivial⟩

end LibCxlmi.Tools
