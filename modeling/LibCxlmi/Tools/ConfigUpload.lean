import LibCxlmi.Tools.Observed
import LibCxlmi.Tools.VuCommands

/-!
# Reading the configuration of a device (cmd_vu_getdevcfg.c:62-138)

`vu_getdevcfg_fetch` asks for one piece after the other, writes it to the file and
goes on behind it while the device says that there is more. `Upload` is what a run
leaves behind: the requests with the bytes written before each, the pieces that came
and the file. The offset of a request is the number of these bytes modulo 2^32, and a
piece may be empty.
-/

namespace LibCxlmi.Tools
open LibCxlmi.Word LibCxlmi.Dialogue

/-! ### What a run leaves behind -/

/-- What `exchange` makes of a reply. -/
def Via.reply (o : ByteOrder) (n : ℕ) : Via → VendorReply → ℤ × Bytes
  | .direct, a => (a.rc, if a.rc = 0 then fillBuf n (a.data.take n) else zeros n)
  | .sdb _, a =>
      let rsp := if a.rc = 0 then fillBuf (16 + n) (a.data.take (16 + n)) else zeros (16 + n)
      if a.rc ≠ 0 then (a.rc, zeros n)
      else if innerReturnCode o rsp ≠ 0 then ((innerReturnCode o rsp : ℤ), zeros n)
      else (0, rsp.drop 16)

/-- The prefix of the payload that the device declares valid. -/
def pieceOf (out : Bytes) (o : ByteOrder) : Bytes := slice out 8 (hostWord o out 4).val

def Message.offset : Message → ℕ
  | .vu r => r.arg1.val
  | .sdbVu _ r => r.arg1.val
  | .sdb _ _ _ _ _ => 0

structure Upload where
  /-- The offset of each request, and the bytes in the file before it. -/
  requests : List (ℕ × ℕ)
  pieces : List Bytes
  file : Bytes

def Upload.next (o : ByteOrder) (v : Via) (u : Upload) : Event SysCall SysCall.Answer → Upload
  | ⟨.vendor m _, a⟩ =>
      { u with
        requests := u.requests ++ [(m.offset, u.file.length)]
        pieces := u.pieces ++ [pieceOf (v.reply o 520 a).2 o] }
  | ⟨.fwrite d, true⟩ => { u with file := u.file ++ d }
  | _ => u

def uploadOf (o : ByteOrder) (v : Via) (t : Log) : Upload := t.foldl (Upload.next o v) ⟨[], [], []⟩

/-- Every request continues where the file ends, and behind the one before it. -/
def Upload.Progress (u : Upload) : Prop :=
  (∀ p ∈ u.requests, p.1 = p.2) ∧ (u.requests.map Prod.fst).IsChain (· < ·)

/-- A piece that is followed by another request is not empty, and the offsets behind
these pieces have 32 bits. -/
def BringsData (pieces : List Bytes) : Prop :=
  (∀ p ∈ pieces.dropLast, p ≠ []) ∧ pieces.dropLast.flatten.length < 2 ^ 32

/-! ### Offsets -/

/-- The requests for `pieces`, with `w` bytes in the file before the first. -/
def requestsFor : ℕ → List Bytes → List (ℕ × ℕ)
  | _, [] => []
  | w, p :: ps => (w % 2 ^ 32, w) :: requestsFor (w + p.length) ps

theorem requestsFor_snoc (w : ℕ) (ps : List Bytes) (p : Bytes) : requestsFor w (ps ++ [p]) =
    requestsFor w ps ++ [((w + ps.flatten.length) % 2 ^ 32, w + ps.flatten.length)] := by
  induction ps generalizing w with
  | nil => rfl
  | cons q ps ih =>
    simp only [List.cons_append, requestsFor, ih, List.flatten_cons, List.length_append, Nat.add_assoc]

theorem requestsFor_chain (w : ℕ) (p : Bytes) (ps : List Bytes) (hw : w < 2 ^ 32) :
    ((∀ r ∈ requestsFor w (p :: ps), r.1 = r.2) ∧ ((requestsFor w (p :: ps)).map Prod.fst).IsChain (· < ·)) ↔
      (∀ q ∈ (p :: ps).dropLast, q ≠ []) ∧ w + (p :: ps).dropLast.flatten.length < 2 ^ 32 := by
  induction ps generalizing w p with
  | nil =>
    refine iff_of_true ⟨?_, List.IsChain.singleton _⟩ ⟨List.forall_mem_nil _, hw⟩
    intro r hr
    rw [List.mem_singleton.mp hr]
    exact Nat.mod_eq_of_lt hw
  | cons q ps ih =>
    rw [requestsFor, List.dropLast_cons_cons, List.forall_mem_cons, List.forall_mem_cons, List.flatten_cons,
      List.length_append, ← Nat.add_assoc, List.map_cons, requestsFor, List.map_cons, List.isChain_cons_cons,
      ← List.map_cons (f := Prod.fst) (a := ((w + p.length) % 2 ^ 32, w + p.length)), ← requestsFor]
    dsimp only
    rw [Nat.mod_eq_of_lt hw]
    constructor
    · rintro ⟨⟨-, heq⟩, hlt, hchain⟩
      have hbound : w + p.length < 2 ^ 32 := by
        have hfirst : (w + p.length) % 2 ^ 32 = w + p.length := heq _ List.mem_cons_self
        omega
      obtain ⟨hne, hsum⟩ := (ih (w + p.length) q hbound).mp ⟨heq, hchain⟩
      refine ⟨⟨?_, hne⟩, hsum⟩
      rintro rfl
      rw [List.length_nil, Nat.add_zero, Nat.mod_eq_of_lt hw] at hlt
      exact Nat.lt_irrefl w hlt
    · rintro ⟨⟨hp, hne⟩, hsum⟩
      have hbound : w + p.length < 2 ^ 32 := by omega
      obtain ⟨heq, hchain⟩ := (ih (w + p.length) q hbound).mpr ⟨hne, hsum⟩
      refine ⟨⟨rfl, heq⟩, ?_, hchain⟩
      rw [Nat.mod_eq_of_lt hbound]
      exact Nat.lt_add_of_pos_right (List.length_pos_iff.mpr hp)

theorem progress_iff (u : Upload) (h : u.requests = requestsFor 0 u.pieces) : u.Progress ↔ BringsData u.pieces := by
  rw [Upload.Progress, BringsData, h]
  cases u.pieces with
  | nil => exact iff_of_true ⟨List.forall_mem_nil _, List.IsChain.nil⟩ ⟨List.forall_mem_nil _, by decide⟩
  | cons p ps =>
    have hchain := requestsFor_chain 0 p ps (by decide)
    rwa [Nat.zero_add] at hchain

/-! ### Runs -/

/-- Nothing is relied on: the answers are the device's. -/
def uploading (o : ByteOrder) (v : Via) : Contract SysCall SysCall.Answer Upload where
  next := Upload.next o v
  rely _ _ _ := True
  guarantee _ _ := True

section Runs
variable (o : ByteOrder) (v : Via)

theorem uploads_checked {α : Type} (call : Tool Bool) (failed next : Tool α) (post : α → Upload → Prop) (u : Upload)
    (hcall : call.Meets (uploading o v) (fun b u' => if b = true then next.Meets (uploading o v) post u'
      else failed.Meets (uploading o v) post u') u) : (checked call failed next).Meets (uploading o v) post u := by
  refine meets_bind _ _ _ _ u (meets_mono _ _ _ _ u hcall fun b u' hb => ?_)
  cases b with
  | false => exact hb
  | true => exact hb

/- A buffer that cannot be had ends the tunnelled exchange before anything is sent. -/
theorem uploads_exchange (r : VuRequest) (post : ℤ × Bytes → Upload → Prop) (u : Upload)
    (hfail : post (-1, zeros 520) u)
    (hreply : ∀ a n, post (v.reply o 520 a) (u.next o v ⟨.vendor (v.message r) n, a⟩)) :
    (v.exchange o r 520).Meets (uploading o v) post u := by
  cases v with
  | direct => exact ⟨trivial, fun a _ => hreply a 520⟩
  | sdb port =>
    refine uploads_checked o _ _ _ _ post u ⟨trivial, fun b _ => ?_⟩
    cases b with
    | false => exact hfail
    | true =>
      refine uploads_checked o _ _ _ _ post u ⟨trivial, fun b _ => ?_⟩
      cases b with
      | false => exact hfail
      | true =>
        refine meets_bind _ _ _ post u ⟨trivial, fun a _ => ?_⟩
        have hpost := hreply a (16 + 520)
        dsimp only [Via.reply] at hpost
        change Program.Meets _ (if a.rc ≠ 0 then (pure (a.rc, zeros 520) : Tool (ℤ × Bytes)) else _) post _
        by_cases hrc : a.rc ≠ 0
        · rw [if_pos hrc] at hpost ⊢
          exact hpost
        · rw [if_neg hrc] at hpost ⊢
          by_cases hinner : innerReturnCode o
              (if a.rc = 0 then fillBuf (16 + 520) (a.data.take (16 + 520)) else zeros (16 + 520)) ≠ 0
          · rw [if_pos hinner] at hpost ⊢
            exact hpost
          · rw [if_neg hinner] at hpost ⊢
            exact hpost

/-- Between two rounds the file holds all pieces, and `offset` is its length. -/
structure Upload.Between (u : Upload) (offset : U 32) : Prop where
  requests : u.requests = requestsFor 0 u.pieces
  file : u.file = u.pieces.flatten
  offset : offset.val = u.file.length % 2 ^ 32

/-- After the last round. -/
structure Upload.Ended (u : Upload) (rc : ℤ) : Prop where
  requests : u.requests = requestsFor 0 u.pieces
  file : rc = 0 → u.file = u.pieces.flatten

theorem Upload.Between.asks (u : Upload) (offset : U 32) (h : u.Between offset) (p : Bytes) :
    u.requests ++ [(offset.val, u.file.length)] = requestsFor 0 (u.pieces ++ [p]) := by
  rw [requestsFor_snoc, Nat.zero_add, ← h.requests, ← h.file, h.offset]

theorem message_offset (offset : U 32) : (v.message (getcfgRequest offset)).offset = offset.val := by
  cases v with
  | direct => rfl
  | sdb port => rfl

theorem uploads_round (offset : U 32) (u : Upload) (h : u.Between offset) :
    (getcfgRound o v offset).Meets (uploading o v) (Sum.elim (fun off u' => u'.Between off) fun rc u' => u'.Ended rc)
      u := by
  refine meets_bind _ _ _ _ u (uploads_exchange o v _ _ u ?_ fun a n => ?_)
  · exact ⟨h.requests, fun hrc => absurd hrc (by decide)⟩
  · generalize hout : v.reply o 520 a = x
    obtain ⟨rc, out⟩ := x
    have hnext : u.next o v ⟨.vendor (v.message (getcfgRequest offset)) n, a⟩ =
        ⟨requestsFor 0 (u.pieces ++ [pieceOf out o]), u.pieces ++ [pieceOf out o], u.file⟩ := by
      rw [Upload.next, message_offset, h.asks _ _ (pieceOf out o), hout]
    rw [hnext]
    generalize hlen : hostWord o out 4 = respLen
    have hpiece : pieceOf out o = slice out 8 respLen.val := by rw [pieceOf, hlen]
    have hoffset := h.offset
    have hfile : (u.pieces ++ [pieceOf out o]).flatten = u.file ++ slice out 8 respLen.val := by
      rw [List.flatten_append, ← h.file, hpiece, List.flatten_singleton]
    dsimp only
    rw [hlen]
    -- the four ways out of a round, the last of which may end it or not
    by_cases hrc : rc ≠ 0
    · rw [if_pos hrc]
      exact ⟨rfl, fun h0 => absurd h0 hrc⟩
    rw [if_neg hrc]
    by_cases hbig : 512 < respLen.val
    · rw [if_pos hbig]
      exact ⟨rfl, fun h0 => absurd h0 (by decide)⟩
    rw [if_neg hbig]
    have hgo : ∀ file', file' = (u.pieces ++ [pieceOf out o]).flatten →
        (pure (if hostWord o out 0 ≠ 0 then .inl (offset + respLen) else .inr 0) : Tool (U 32 ⊕ ℤ)).Meets
          (uploading o v) (Sum.elim (fun off u' => u'.Between off) fun rc u' => u'.Ended rc)
          ⟨requestsFor 0 (u.pieces ++ [pieceOf out o]), u.pieces ++ [pieceOf out o], file'⟩ := by
      rintro file' rfl
      by_cases hmore : hostWord o out 0 ≠ 0
      · rw [if_pos hmore]
        refine ⟨rfl, rfl, ?_⟩
        dsimp only
        rw [hfile, List.length_append, slice_length, Fin.val_add, hoffset, Nat.mod_add_mod]
      · rw [if_neg hmore]
        exact ⟨rfl, fun _ => rfl⟩
    by_cases hzero : respLen = 0
    · rw [if_pos hzero]
      refine hgo u.file ?_
      rw [hfile, hzero]
      exact (List.append_nil _).symm
    · rw [if_neg hzero]
      refine uploads_checked o v _ _ _ _ _ ⟨trivial, fun b _ => ?_⟩
      cases b with
      | false => exact ⟨rfl, fun h0 => absurd h0 (by decide)⟩
      | true => exact hgo (u.file ++ slice out 8 respLen.val) hfile.symm

theorem uploads_fetch (outputFile : String) (rounds : ℕ) :
    (vuGetdevcfgFetch o v outputFile rounds).Meets (uploading o v)
      (fun e u => u.requests = requestsFor 0 u.pieces ∧ (e = .returned 0 → u.file = u.pieces.flatten))
      ⟨[], [], []⟩ := by
  refine uploads_checked o v _ _ _ _ _ ⟨trivial, fun b _ => ?_⟩
  cases b with
  | false => exact ⟨rfl, fun h0 => nomatch h0⟩
  | true =>
    have hloop := meets_iterate (uploading o v) (getcfgRound o v) (fun off u => u.Between off) (fun rc u => u.Ended rc)
      (fun off u hu => meets_mono _ _ _ _ u (uploads_round o v off u hu) fun r u' hr => by
        cases r with
        | inl off' => exact hr
        | inr rc => exact hr)
      rounds 0 ⟨[], [], []⟩ ⟨rfl, rfl, rfl⟩
    refine meets_bind _ _ _ _ _ (meets_mono _ _ _ _ _ hloop fun r u hr => ?_)
    cases r with
    | none =>
      obtain ⟨off, hoff⟩ := hr
      exact ⟨hoff.requests, fun h0 => nomatch h0⟩
    | some rc => exact ⟨hr.requests, fun h0 => hr.file (End.returned.inj h0)⟩

end Runs

/-- In every run the offset is the number of bytes in the file and grows from request to
request, exactly if the device brings data; a run that succeeds leaves all of it. -/
theorem upload_progress_iff (o : ByteOrder) (v : Via) (outputFile : String) (rounds : ℕ) (t : Log) (e : End)
    (h : (vuGetdevcfgFetch o v outputFile rounds).Runs t e) :
    ((uploadOf o v t).Progress ∧ (e = .returned 0 → (uploadOf o v t).file = (uploadOf o v t).pieces.flatten)) ↔
      BringsData (uploadOf o v t).pieces := by
  have hkept := kept_of_rely (uploading o v) (fun _ _ _ => trivial) ⟨[], [], []⟩ t
  obtain ⟨-, hrequests, hfile⟩ := meets_sound (uploading o v) _ _ _ t e (uploads_fetch o v outputFile rounds) h hkept
  change (uploadOf o v t).requests = requestsFor 0 (uploadOf o v t).pieces at hrequests
  rw [progress_iff _ hrequests]
  exact and_iff_left hfile

/- Two pieces of one byte. -/
def twoPieces (h : Log) : (q : SysCall) → q.Answer
  | .vendor _ _ =>
      if (deviceCalls h).isEmpty = true then ⟨0, leBytes 4 1 ++ leBytes 4 1 ++ [0xaa]⟩
      else ⟨0, leBytes 4 0 ++ leBytes 4 1 ++ [0xbb]⟩
  | q => willing q

def twoPiecesLog : Log := ((vuGetdevcfgFetch .little .direct "cfg" 2).play twoPieces []).1

theorem twoPieces_progress : (vuGetdevcfgFetch .little .direct "cfg" 2).Runs twoPiecesLog (.returned 0) ∧
    (uploadOf .little .direct twoPiecesLog).Progress ∧
      (uploadOf .little .direct twoPiecesLog).file = [0xaa, 0xbb] := by
  have hruns : (vuGetdevcfgFetch .little .direct "cfg" 2).Runs twoPiecesLog (.returned 0) := by
    have hplay := play_runs twoPieces (vuGetdevcfgFetch .little .direct "cfg" 2) []
    have hend : ((vuGetdevcfgFetch .little .direct "cfg" 2).play twoPieces []).2 = .returned 0 := by decide +kernel
    rwa [hend] at hplay
  have hpieces : (uploadOf .little .direct twoPiecesLog).pieces = [[0xaa], [0xbb]] := by decide +kernel
  have hbrings : BringsData (uploadOf .little .direct twoPiecesLog).pieces := by
    rw [hpieces]
    exact ⟨by decide, by decide⟩
  obtain ⟨hprogress, hfile⟩ :=
    (upload_progress_iff .little .direct "cfg" 2 twoPiecesLog (.returned 0) hruns).mpr hbrings
  refine ⟨hruns, hprogress, ?_⟩
  rw [hfile rfl, hpieces]
  rfl

/- Nothing, and more of it. -/
def stuck : (q : SysCall) → q.Answer
  | .vendor _ _ => ⟨0, leBytes 4 1 ++ leBytes 4 0⟩
  | q => willing q

/-- The same request is sent again and again. -/
theorem stuck_never_ends :
    (∀ rounds, ((vuGetdevcfgFetch .little .direct "cfg" rounds).play (fun _ => stuck) []).2 = .running) ∧
      (uploadOf .little .direct ((vuGetdevcfgFetch .little .direct "cfg" 2).play (fun _ => stuck) []).1).requests =
        [(0, 0), (0, 0)] := by
  have hround : ((getcfgRound .little .direct 0).play (fun _ => stuck) []).2 = .inl 0 := by decide +kernel
  have hloop : ∀ rounds h, ((iterate (getcfgRound .little .direct) rounds 0).play (fun _ => stuck) h).2 = none := by
    intro rounds
    induction rounds with
    | zero => intro h; rfl
    | succ rounds ih =>
      intro h
      rw [play_iterate_next _ _ _ _ _ h ((play_oracle_result stuck _ h []).trans hround)]
      exact ih _
  refine ⟨fun rounds => ?_, ?_⟩
  · rw [vuGetdevcfgFetch, checked, play_bind]
    change ((iterate (getcfgRound .little .direct) rounds 0 >>= _).play (fun _ => stuck) _).2 = _
    rw [play_bind, hloop]
    rfl
  · decide +kernel

end LibCxlmi.Tools
