import LibCxlmi.Run.Session

/-!
# Reply association

The device may answer any request it got, at any time, more than once or never;
its replies carry the tag of their request. Counter values grow by one to three
with every command and a header keeps only their low byte, so a reply can be
told from a stale one as long as fewer than 256 tags lie between the two
requests. Under that proviso a command that returns 0 or a CXL code was judged
on a reply to its own request.
-/

namespace LibCxlmi.Run
open LibCxlmi.Word LibCxlmi.Cci LibCxlmi.Transport

/-- The datagram `g` is a reply to the request `q`: it has the tag of `q`, if it
is long enough to have a header at all. -/
def Echo (q : Request) (g : Datagram) : Prop :=
  g.request = q.number ∧ (12 ≤ g.bytes.length → tag g.bytes = tag q.msg)

/- What the device may do: every datagram answers a request that was put on the
same socket, the one just sent included. -/
def Answerable (o : ByteOrder) (s : Session) : Event → Prop
  | .arrive k g => ∃ q ∈ s.transmitted k, Echo q g
  | .command c => ∀ g ∈ c.during, ∃ q ∈ (s.step o (.command c)).1.transmitted c.sock, Echo q g

/-- The invariant of a session. -/
structure Tracked (s : Session) (m : MctpTransport) : Prop where
  transport : s.ep.transportData = some (.mctp m)
  identified : m.nid ≠ mockMagic
  issued : ∀ k, ∀ q ∈ s.transmitted k, q.number < m.tag ∧ tag q.msg = uint8 (q.number : ℤ)
  queued : ∀ k, ∀ g ∈ s.queue k, ∃ q ∈ s.transmitted k, Echo q g

theorem start_tracked (m : MctpTransport) (fd : ℤ) (hasFmapi : Bool) (hn : m.nid ≠ mockMagic) :
    Tracked (Session.start m fd hasFmapi) m :=
  ⟨rfl, hn, fun _ _ hq => absurd hq List.not_mem_nil, fun _ _ hg => absurd hg List.not_mem_nil⟩

theorem tracked_step (o : ByteOrder) (s : Session) (e : Event) (h : ∃ m, Tracked s m)
    (hok : Answerable o s e) : ∃ m, Tracked (s.step o e).1 m := by
  obtain ⟨m, h⟩ := h
  cases e with
  | arrive k g =>
    refine ⟨m, h.transport, h.identified, h.issued, fun j g' hg' => ?_⟩
    rcases deliver_mem s k j [g] g' hg' with hg | ⟨rfl, hg⟩
    · exact h.queued j g' hg
    · obtain rfl := List.mem_singleton.mp hg
      exact hok
  | command c =>
    obtain ⟨r, j, hcall, hst, hcases⟩ :=
      call_cases o (s.deliver c.sock c.during) c m h.transport h.identified
    have hstep := step_command o s c r hcall
    have hdur : ∀ g ∈ c.during, ∃ q ∈ (s.step o (.command c)).1.transmitted c.sock, Echo q g := hok
    rw [hstep] at hdur ⊢
    have hnew : ∀ q, requestOf c r = some q →
        q.number < (m.advance (j + 1)).tag ∧ tag q.msg = uint8 (q.number : ℤ) := by
      intro q hq
      rcases hcases with ⟨hnone, -⟩ | ⟨tReq, hreq, htag, -⟩
      · rw [hnone] at hq
        cases hq
      · obtain rfl := Option.some.inj (hreq.symm.trans hq)
        refine ⟨?_, (tag_transferred tReq).trans htag⟩
        simp only [MctpTransport.advance]
        omega
    refine ⟨m.advance (j + 1), ?_, h.identified, fun k q hq => ?_, fun k g hg => ?_⟩
    · simp only [Session.settle, hst]
    · rcases (settle_transmitted_mem _ c k r q).mp hq with hq | ⟨-, hq⟩
      · obtain ⟨hlt, htag⟩ := h.issued k q hq
        refine ⟨?_, htag⟩
        simp only [MctpTransport.advance]
        omega
      · exact hnew q hq
    · have hkeep : ∀ q ∈ s.transmitted k, q ∈ ((s.deliver c.sock c.during).settle c r).transmitted k :=
        fun q hq => (settle_transmitted_mem _ c k r q).mpr (Or.inl hq)
      rcases deliver_mem s c.sock k c.during g (settle_queue_mem _ c k r g hg) with hold | ⟨rfl, hnew⟩
      · obtain ⟨q, hq, he⟩ := h.queued k g hold
        exact ⟨q, hkeep q hq, he⟩
      · exact hdur g hnew

/-! ### Windows of tags -/

theorem uint8_natCast_inj (a b : ℕ) (h : uint8 (a : ℤ) = uint8 (b : ℤ)) : a % 256 = b % 256 := by
  have hv := congrArg Fin.val h
  simp only [uint8] at hv
  omega

/-- Inside a window of 256 values the low byte decides. -/
theorem eq_of_tag_eq (a n : ℕ) (hle : a ≤ n) (hwin : n - a < 256) (h : uint8 (a : ℤ) = uint8 (n : ℤ)) :
    a = n := by
  have hmod := uint8_natCast_inj a n h
  omega

theorem tag_of_judge (o : ByteOrder) (rule : LengthRule) (k : ℕ) (req d : Bytes)
    (h : 0 ≤ judge (nestReports o rule k req d)) : 12 ≤ d.length ∧ tag d = tag req := by
  have hne : ∀ f n rs, 0 ≤ judge (cciReport o req d f n :: rs) → 12 ≤ d.length ∧ tag d = tag req := by
    intro f n rs hj
    have hrep : cciReport o req d f n ≠ .failed := by
      intro hf
      rw [hf] at hj
      exact absurd hj (show ¬(0 : ℤ) ≤ -1 by decide)
    obtain ⟨hl, ha⟩ := cciReport_ne_failed_answers o req d f n hrep
    exact ⟨hl, ha.2.1⟩
  cases k with
  | zero => exact hne _ _ _ h
  | succ k => exact hne _ _ _ h

/- The datagram a command takes answers its own request or an earlier one of
the socket; either way the low byte of that request's number is its tag. -/
theorem taken_answers (s : Session) (c : Turn) (m : MctpTransport) (h : Tracked s m)
    (r : Outcome Endpoint) (q₀ : Request) (hreq : requestOf c r = some q₀) (hle : m.tag ≤ q₀.number)
    (htag : tag q₀.msg = uint8 (q₀.number : ℤ))
    (hdur : ∀ g ∈ c.during, ∃ q ∈ ((s.deliver c.sock c.during).settle c r).transmitted c.sock, Echo q g)
    (g : Datagram) (hg : g ∈ s.queue c.sock ++ c.during) :
    g.request ≤ q₀.number ∧ (12 ≤ g.bytes.length → tag g.bytes = uint8 (g.request : ℤ)) := by
  have hold : ∀ q ∈ s.transmitted c.sock, Echo q g →
      g.request ≤ q₀.number ∧ (12 ≤ g.bytes.length → tag g.bytes = uint8 (g.request : ℤ)) := by
    intro q hq he
    obtain ⟨hlt, ht⟩ := h.issued c.sock q hq
    rw [he.1]
    exact ⟨by omega, fun hl => (he.2 hl).trans ht⟩
  rcases List.mem_append.mp hg with hqueue | hnew
  · obtain ⟨q, hq, he⟩ := h.queued c.sock g hqueue
    exact hold q hq he
  · obtain ⟨q, hq, he⟩ := hdur g hnew
    rcases (settle_transmitted_mem _ c c.sock r q).mp hq with hq | ⟨-, hq⟩
    · exact hold q hq he
    · obtain rfl := Option.some.inj (hreq.symm.trans hq)
      rw [he.1]
      exact ⟨Nat.le_refl _, fun hl => (he.2 hl).trans htag⟩

theorem received_header (bufSz : ℕ) (d : Bytes) (h : 12 ≤ (received bufSz d).length) :
    12 ≤ d.length ∧ tag (received bufSz d) = tag d := by
  unfold received at h ⊢
  rw [List.length_take] at h
  exact ⟨by omega, byteAt_take d _ 1 (by omega)⟩

/-- In every session whose datagrams are replies, a command that returns 0 or a
code, while fewer than 256 tags lie between its request and that of any unread
reply, was judged on a reply to its own request, whose number no other request
has. -/
theorem judged_on_own_reply (o : ByteOrder) (m : MctpTransport) (fd : ℤ) (hasFmapi : Bool)
    (hn : m.nid ≠ mockMagic) (events : List Event)
    (hl : Legal (Session.step o) (Answerable o) (Session.start m fd hasFmapi) events)
    (e : Entry Session Event (Option Result))
    (he : e ∈ trace (Session.step o) (Session.start m fd hasFmapi) events) (c : Turn)
    (hc : e.input = .command c) (res : Result) (hres : e.result = some res)
    (hwin : ∀ n, res.number = some n → ∀ g ∈ e.before.queue c.sock ++ c.during, n - g.request < 256)
    (hrc : 0 ≤ res.rc) :
    ∃ n g tReq, res.number = some n ∧ (∀ j, ∀ q ∈ e.before.transmitted j, q.number < n) ∧
      ⟨n, transferred tReq, tunnelDepth c.ti, c.rspSz, c.rspMin⟩ ∈
        (Session.step o e.before e.input).1.transmitted c.sock ∧
      res.judged = some g ∧ g.request = n ∧
      res.rc = judge (nestReports o (mctpRule c.rspSz c.rspMin) (tunnelDepth c.ti) tReq
        (received (16 * tunnelDepth c.ti + c.rspSz) g.bytes)) := by
  obtain ⟨⟨m', h⟩, hok, hr⟩ := trace_invariant (Session.step o) (Answerable o) (fun s => ∃ m, Tracked s m)
    (fun s i hs hi => tracked_step o s i hs hi) _ events ⟨m, start_tracked m fd hasFmapi hn⟩ hl e he
  obtain ⟨s, input, result⟩ := e
  simp only at hc hres hr hok h hwin ⊢
  subst hc
  obtain ⟨r, j, hcall, -, hcases⟩ :=
    call_cases o (s.deliver c.sock c.during) c m' h.transport h.identified
  have hdur : ∀ g ∈ c.during, ∃ q ∈ (s.step o (.command c)).1.transmitted c.sock, Echo q g := hok
  rw [step_command o s c r hcall] at hr hdur ⊢
  rw [deliver_queue] at hcases
  obtain rfl := Option.some.inj (hres.symm.trans hr)
  simp only at hrc hwin ⊢
  rcases hcases with ⟨-, -, hneg⟩ | ⟨tReq, hreq, htag, -, ⟨-, hneg, -⟩ | ⟨g, rest, hg, htaken, hj⟩⟩
  · rw [hneg] at hrc
    exact absurd hrc (by decide)
  · rw [hneg] at hrc
    exact absurd hrc (by decide)
  · have hmem : g ∈ s.queue c.sock ++ c.during := by
      rw [hg]
      exact List.mem_cons_self
    have hnum : (requestOf c r).map Request.number = some (m'.tag + j) := by
      rw [hreq]
      rfl
    obtain ⟨hle, hlow⟩ := taken_answers s c m' h r _ hreq (Nat.le_add_right m'.tag j)
      ((tag_transferred tReq).trans htag) hdur g hmem
    obtain ⟨hl12, htg⟩ := tag_of_judge o _ _ tReq _ (by rw [← hj]; exact hrc)
    obtain ⟨hg12, hgt⟩ := received_header _ g.bytes hl12
    have hsame : uint8 (g.request : ℤ) = uint8 ((m'.tag + j : ℕ) : ℤ) := by
      rw [← hlow hg12, ← hgt, htg, htag]
    have heq := eq_of_tag_eq g.request (m'.tag + j) hle (hwin _ hnum g hmem) hsame
    refine ⟨m'.tag + j, g, tReq, hnum, fun i p hp => ?_, ?_, ?_, heq, hj⟩
    · have hlt := (h.issued i p hp).1
      omega
    · exact (settle_transmitted_mem _ c c.sock r _).mpr (Or.inr ⟨rfl, hreq⟩)
    · rw [if_pos htaken, hg]
      rfl

def busyRsp (tg : Byte) : Bytes := [1, tg, 0, 0x01, 0x00, 0, 0, 0, 6, 0, 0, 0]

/- The first command is answered late; the second one takes that answer, and is never
answered itself. -/
def lateAndNever : List Event :=
  [.command (identifyTurn []), .arrive .cci ⟨0x22, busyRsp 0x22⟩, .command (identifyTurn [])]

def thirdTurn : Turn := identifyTurn [⟨0x24, busyRsp 0x24⟩]

/- The session before the third command. -/
def unanswered : Session := after (Session.step .little) (Session.start mctpPort (-1) true) lateAndNever

theorem thirdTurn_judged_on_own_reply :
    (trace (Session.step .little) (Session.start mctpPort (-1) true) (lateAndNever ++ [Event.command thirdTurn])).map
      (fun e => e.result.map Result.rc) = [some (-1), none, some (-1), some 6] ∧
    ∃ n g tReq, some 0x24 = some n ∧ (∀ j, ∀ q ∈ unanswered.transmitted j, q.number < n) ∧
      ⟨n, transferred tReq, 0, 30, 30⟩ ∈ (Session.step .little unanswered (.command thirdTurn)).1.transmitted .cci ∧
      thirdTurn.during.head? = some g ∧ g.request = n ∧
      6 = judge (nestReports .little (mctpRule 30 30) 0 tReq (received 30 g.bytes)) := by
  have hresult : (Session.step .little unanswered (.command thirdTurn)).2 =
      some ⟨6, some 0x24, thirdTurn.during.head?⟩ := by decide +kernel
  have hmem := mem_trace_after (Session.step .little) (Session.start mctpPort (-1) true) lateAndNever
    (.command thirdTurn) []
  refine ⟨by decide +kernel, judged_on_own_reply .little mctpPort (-1) true (by decide)
    (lateAndNever ++ [Event.command thirdTurn])
    ⟨List.forall_mem_nil _, ⟨⟨0x22, identifyReq 0x22, 0, 30, 30⟩, by decide +kernel, rfl, fun _ => rfl⟩,
      List.forall_mem_nil _, fun g hg => ⟨⟨0x24, identifyReq 0x24, 0, 30, 30⟩, by decide +kernel, ?_⟩, trivial⟩
    _ hmem thirdTurn rfl ⟨6, some 0x24, thirdTurn.during.head?⟩ hresult (by decide +kernel) (by decide)⟩
  obtain rfl := List.mem_singleton.mp hg
  exact ⟨rfl, fun _ => rfl⟩

end LibCxlmi.Run
