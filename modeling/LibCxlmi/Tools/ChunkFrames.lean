import LibCxlmi.Tools.ChunkSizes
import LibCxlmi.Tools.SdbTunnel
import LibCxlmi.Tools.Sent

/-!
# Chunks in packets of the sideband tunnel (cmd_sdb_tunnel.c:633-831)

A packet of the tunnel is put together by hand beside the library's own encoder.
It carries two lengths, of each of which 16 bits are filled in.
-/

namespace LibCxlmi.Tools
open LibCxlmi.Word LibCxlmi.Dialogue

/-! ### Packets of the tunnel -/

/-- The packet's two lengths are those of what it carries, which is `direct`. -/
structure PacketExact (o : ByteOrder) (packet : Bytes) (direct : Option Bytes) : Prop where
  commandSize : loadWord o (slice packet 2 2) = (packet.drop 4).length
  plLength : Cci.plLength (packet.drop 4) = (Cci.payload (packet.drop 4)).length
  carried : direct = some (Cci.payload (packet.drop 4))

theorem packetExact_iff (o : ByteOrder) (port cmd set : Byte) (pl : Bytes) :
    PacketExact o (sdbPacket o port cmd set 2 pl) (some pl) ↔ 12 + pl.length < 2 ^ 16 := by
  have hlen : ((sdbPacket o port cmd set 2 pl).drop 4).length = 12 + pl.length := by
    rw [sdbPacket_inner, List.length_append]
    rfl
  constructor
  · intro h
    have hsize := h.commandSize
    rw [sdbPacket_commandSize, hlen] at hsize
    omega
  · intro hlt
    constructor
    · rw [sdbPacket_commandSize, hlen, Nat.mod_eq_of_lt hlt]
    · rw [sdbPacket_plLength, sdbPacket_payload o port cmd set 2 pl (by decide), Nat.mod_eq_of_lt (by omega)]
    · rw [sdbPacket_payload o port cmd set 2 pl (by decide)]

/-! ### Chunks through the tunnel -/

def Download.tunnelSend (o : ByteOrder) (port : Byte) : Download → Chunk → Tool ℤ
  | .firmware slot, ch => sdbXferFwSend o port (transferFwReq slot ch)
  | .config cfgType, ch => sdbVuDlcfgSend o port (dlcfgRequest cfgType ch)

/-- What the library sends for the chunk when it goes to the mailbox. -/
def Download.directPayload (o : ByteOrder) : Download → Chunk → Option Bytes
  | .firmware slot, ch => (Commands.transferFw (transferFwReq slot ch)).payload o
  | .config cfgType, ch => (Commands.vendorSpecific ((Message.vu (dlcfgRequest cfgType ch)).req o 0)).payload o

def Download.packet (o : ByteOrder) (port : Byte) : Download → Chunk → Message
  | .firmware slot, ch => .sdb port 0x01 0x02 2 (sdbXferFwPayload o (transferFwReq slot ch))
  | .config cfgType, ch => .sdbVu port (dlcfgRequest cfgType ch)

/- The chunk's data, padded by the configuration download, behind what is fixed. -/
def Download.payloadSize : Download → Chunk → ℕ
  | .firmware _, ch => 128 + ch.data.length
  | .config _, ch => 32 + dlcfgPadLen ch.data.length

theorem sent_tunnelSend (o : ByteOrder) (port : Byte) (d : Download) (ch : Chunk) (m : Message) :
    Sent (d.tunnelSend o port ch) m ↔ m = d.packet o port ch := by
  cases d with
  | firmware slot =>
    rw [Download.tunnelSend, sdbXferFwSend, sent_calloc, sdbTunnelSend,
      sent_bind_silent _ _ fun a => sent_ret _, sent_vendorSpecific]
    exact or_iff_right (sent_ret _ m)
  | config cfgType =>
    rw [Download.tunnelSend, sdbVuDlcfgSend, Via.send, sent_bind_silent _ _ fun a => sent_ret _, Via.exchange,
      sdbVuTunnelExchange, sent_calloc, sent_calloc,
      or_iff_right (sent_ret _ m), or_iff_right (sent_ret _ m), sent_bind_silent, sent_vendorSpecific]
    · rfl
    · intro a m
      dsimp only
      split_ifs
      · exact sent_ret _ m
      · exact sent_ret _ m
      · exact sent_ret _ m

theorem VuRequest.encode_length (o : ByteOrder) (r : VuRequest) : (r.encode o).length = 32 + r.payload.length := by
  rw [VuRequest.encode, List.length_append]
  simp only [VuRequest.words, List.flatMap_cons, List.flatMap_nil, List.length_append, storeWord_length,
    List.length_nil]

/-- The hand-written packet carries what the library encodes. -/
theorem Download.packet_payload (o : ByteOrder) (port : Byte) (d : Download) (ch : Chunk) :
    ∃ cmd set pl, (d.packet o port ch).encode o = sdbPacket o port cmd set 2 pl ∧ d.directPayload o ch = some pl ∧
      pl.length = d.payloadSize ch := by
  cases d with
  | firmware slot =>
    refine ⟨0x01, 0x02, sdbXferFwPayload o (transferFwReq slot ch), rfl, rfl, ?_⟩
    exact (Commands.transferFw (transferFwReq slot ch)).framed o _ rfl
  | config cfgType =>
    have hpad : ch.data.length ≤ dlcfgPadLen ch.data.length := by
      unfold dlcfgPadLen
      omega
    refine ⟨0x53, 0xCC, (dlcfgRequest cfgType ch).encode o, rfl, rfl, ?_⟩
    rw [VuRequest.encode_length]
    exact congrArg (32 + ·) (fillBuf_length _ _ hpad)

theorem packet_exact_iff (o : ByteOrder) (port : Byte) (d : Download) (ch : Chunk) :
    PacketExact o ((d.packet o port ch).encode o) (d.directPayload o ch) ↔ 12 + d.payloadSize ch < 2 ^ 16 := by
  obtain ⟨cmd, set, pl, hpacket, hdirect, hlen⟩ := d.packet_payload o port ch
  rw [hpacket, hdirect, packetExact_iff, hlen]

/-- Whatever is sent for a chunk carries what the mailbox would get, under the right
lengths if these fit into 16 bits. -/
theorem sdb_chunk_framed_iff (o : ByteOrder) (port : Byte) (d : Download) (ch : Chunk) :
    (∀ m, Sent (d.tunnelSend o port ch) m → PacketExact o (m.encode o) (d.directPayload o ch)) ↔
      12 + d.payloadSize ch < 2 ^ 16 := by
  rw [← packet_exact_iff o port]
  constructor
  · exact fun h => h _ ((sent_tunnelSend o port d ch _).mpr rfl)
  · intro h m hm
    rwa [(sent_tunnelSend o port d ch m).mp hm]

theorem Download.payloadSize_chunkAt (slot : Byte) (f : File) (c n i : ℕ) :
    (Download.firmware slot).payloadSize (chunkAt f c n i) = 128 + chunkLen f c i := by
  rw [Download.payloadSize, chunkAt, File.read_length]

/-- An image of one chunk. -/
def wideFile : File := ⟨65536, fun _ => 0, by decide⟩

/-- The only chunk of the image goes out under lengths that have wrapped. -/
theorem wideChunk_misframed :
    (Download.firmware 1).Accepts ["--input", "fw.bin", "--slot", "1", "--chunk-size", "65536"] "fw.bin" 65536 ∧
    u32 (chunkCount wideFile.size 65536) = 1 ∧
    ∃ m, Sent ((Download.firmware 1).tunnelSend .little 0 (chunkAt wideFile 65536 1 0)) m ∧
      ¬PacketExact .little (m.encode .little) ((Download.firmware 1).directPayload .little
        (chunkAt wideFile 65536 1 0)) := by
  refine ⟨.transferFw _ _ _ _ (by decide), by decide, _, (sent_tunnelSend .little 0 _ _ _).mpr rfl, ?_⟩
  rw [packet_exact_iff, Download.payloadSize_chunkAt]
  decide

end LibCxlmi.Tools
