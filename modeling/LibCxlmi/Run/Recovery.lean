import LibCxlmi.Run.Channel
import LibCxlmi.Run.Session

/-!
# Sessions after a timeout

The device answers every request correctly and in the order of the requests,
only some answers come after the library has given up. Each command reads at
most one datagram and never drains the socket, so an answer that came too late
is read by the next command, whose own answer is read by the one after it, and
so on: the number of answers a socket is behind never goes down. A command is
matched with its own answer exactly when no earlier command on its socket was
left without one.
-/

namespace LibCxlmi.Run
open LibCxlmi.Word LibCxlmi.Cci LibCxlmi.Transport

/-- A correct answer: the full nest for the request, of a size it allows. -/
def Correct (o : ByteOrder) (q : Request) (g : Datagram) : Prop :=
  g.request = q.number ∧ Nest o q.depth q.msg g.bytes ∧ q.rspMin ≤ g.bytes.length - 16 * q.depth ∧
    g.bytes.length ≤ 16 * q.depth + q.rspSz ∧ g.bytes.length ≤ maxRwCount

instance (o : ByteOrder) (q : Request) (g : Datagram) : Decidable (Correct o q g) :=
  inferInstanceAs (Decidable (_ ∧ _ ∧ _ ∧ _ ∧ _))

/- The device gets every request and answers it, in order, late or in time; the
calls of the library themselves do not fail. -/
def Served (o : ByteOrder) (s : Session) : Event → Prop
  | .arrive k g => InOrder (Correct o) ((s.transmitted k).drop (s.arrivals k)) [g]
  | .command c =>
      (s.step o (.command c)).1.transmitted c.sock ≠ s.transmitted c.sock ∧
      c.env.poll ≠ .failed ∧ c.env.recv ≠ .error ∧ 16 * tunnelDepth c.ti + 12 + c.pl.length ≤ maxRwCount ∧
      InOrder (Correct o) (((s.step o (.command c)).1.transmitted c.sock).drop (s.arrivals c.sock)) c.during

instance decidableServed (o : ByteOrder) (s : Session) : ∀ e, Decidable (Served o s e)
  | .arrive _ _ => inferInstanceAs (Decidable (InOrder _ _ _))
  | .command _ => inferInstanceAs (Decidable (_ ∧ _ ∧ _ ∧ _ ∧ _))

/-- The invariant: each socket is a channel with `missed` unread answers. -/
structure Behind (o : ByteOrder) (s : Session) (m : MctpTransport) : Prop where
  transport : s.ep.transportData = some (.mctp m)
  identified : m.nid ≠ mockMagic
  issued : ∀ k, ∀ q ∈ s.transmitted k, q.number < m.tag
  channel : ∀ k, Channel (Correct o) (s.transmitted k) (s.arrivals k) (s.missed k) (s.queue k)

theorem start_behind (o : ByteOrder) (m : MctpTransport) (fd : ℤ) (hasFmapi : Bool)
    (hn : m.nid ≠ mockMagic) : Behind o (Session.start m fd hasFmapi) m :=
  ⟨rfl, hn, fun _ _ hq => absurd hq List.not_mem_nil, fun _ => Channel.empty⟩

/-- What a call of a served command comes to: with nothing queued it times out,
and otherwise it judges the oldest datagram. -/
theorem served_call (o : ByteOrder) (s : Session) (c : Turn) (m : MctpTransport) (h : Behind o s m)
    (hok : Served o s (.command c)) :
    ∃ r j tReq, (s.deliver c.sock c.during).call o c = some r ∧
      r.st = { s.ep with transportData := some (.mctp (m.advance (j + 1))) } ∧
      requestOf c r = some ⟨m.tag + j, tReq, tunnelDepth c.ti, c.rspSz, c.rspMin⟩ ∧
      ((s.queue c.sock ++ c.during = [] ∧ r.taken = none) ∨
        ∃ g rest, s.queue c.sock ++ c.during = g :: rest ∧ r.taken.isSome ∧
          r.rc = judge (nestReports o (mctpRule c.rspSz c.rspMin) (tunnelDepth c.ti) tReq
            (received (16 * tunnelDepth c.ti + c.rspSz) g.bytes))) := by
  obtain ⟨r, j, hcall, hst, hcases⟩ :=
    call_cases o (s.deliver c.sock c.during) c m h.transport h.identified
  obtain ⟨hnew, hp, hr, hl, -⟩ := hok
  rw [step_command o s c r hcall] at hnew
  rw [deliver_queue] at hcases
  rcases hcases with ⟨hnone, -, -⟩ | ⟨tReq, hreq, -, hlen, hcase⟩
  · refine absurd ?_ hnew
    simp only [Session.settle, hnone, Option.toList_none, List.append_nil, Function.update_self]
    rfl
  · have hle : tReq.length ≤ maxRwCount := hlen ▸ hl
    rw [transferred_of_le tReq hle] at hreq
    refine ⟨r, j, tReq, hcall, hst, hreq, ?_⟩
    rcases hcase with ⟨htaken, -, hempty⟩ | hcase
    · exact Or.inl ⟨hempty hp hr hle, htaken⟩
    · exact Or.inr hcase

/-- The socket of a served command afterwards: its request is the last one, and
the oldest datagram is gone unless there was none. -/
theorem served_settle (s : Session) (c : Turn) (r : Outcome Endpoint) (q₀ : Request)
    (hreq : requestOf c r = some q₀) :
    let s' := (s.deliver c.sock c.during).settle c r
    s'.transmitted c.sock = s.transmitted c.sock ++ [q₀] ∧
      s'.arrivals c.sock = s.arrivals c.sock + c.during.length ∧
      s'.queue c.sock = (if r.taken.isSome then (s.queue c.sock ++ c.during).tail
        else s.queue c.sock ++ c.during) ∧
      s'.missed c.sock = s.missed c.sock + (if r.taken.isSome then 0 else 1) ∧
      ∀ k, k ≠ c.sock → s'.transmitted k = s.transmitted k ∧ s'.arrivals k = s.arrivals k ∧
        s'.queue k = s.queue k ∧ s'.missed k = s.missed k := by
  cases ht : r.taken with
  | none =>
    simp [Session.settle, Session.deliver, hreq, ht]
    intro k hk
    simp [hk]
  | some v =>
    simp [Session.settle, Session.deliver, hreq, ht]
    intro k hk
    simp [hk]

/- While a served command waits, its socket is one more answer behind. -/
theorem Behind.waiting {o : ByteOrder} {s : Session} {m : MctpTransport} (h : Behind o s m) (c : Turn)
    (r : Outcome Endpoint) (q₀ : Request) (hcall : (s.deliver c.sock c.during).call o c = some r)
    (hreq : requestOf c r = some q₀) (hok : Served o s (.command c)) :
    Channel (Correct o) (s.transmitted c.sock ++ [q₀]) (s.arrivals c.sock + c.during.length)
      (s.missed c.sock + 1) (s.queue c.sock ++ c.during) := by
  obtain ⟨-, -, -, -, hdur⟩ := hok
  rw [step_command o s c r hcall] at hdur
  simp only [(served_settle s c r q₀ hreq).1] at hdur
  exact ((h.channel c.sock).ask q₀).arrive c.during hdur

theorem behind_step (o : ByteOrder) (s : Session) (e : Event) (h : ∃ m, Behind o s m)
    (hok : Served o s e) : ∃ m, Behind o (s.step o e).1 m := by
  obtain ⟨m, h⟩ := h
  cases e with
  | arrive k g =>
    refine ⟨m, h.transport, h.identified, h.issued, fun j => ?_⟩
    by_cases hj : j = k
    · subst hj
      simp only [Session.step, Session.deliver, Function.update_self]
      exact (h.channel j).arrive [g] hok
    · simp only [Session.step, Session.deliver, Function.update_of_ne hj]
      exact h.channel j
  | command c =>
    obtain ⟨r, j, tReq, hcall, hst, hreq, hcase⟩ := served_call o s c m h hok
    have hwait := h.waiting c r _ hcall hreq hok
    obtain ⟨hT, hA, hQ, hM, hother⟩ := served_settle s c r _ hreq
    rw [step_command o s c r hcall]
    refine ⟨m.advance (j + 1), ?_, h.identified, fun k q hq => ?_, fun k => ?_⟩
    · simp only [Session.settle, hst]
    · simp only [MctpTransport.advance]
      rcases (settle_transmitted_mem _ c k r q).mp hq with hq | ⟨-, hq⟩
      · have hlt := h.issued k q hq
        omega
      · obtain rfl := Option.some.inj (hreq.symm.trans hq)
        simp only
        omega
    · by_cases hk : k = c.sock
      · subst hk
        simp only [hT, hA, hQ, hM]
        rcases hcase with ⟨-, htaken⟩ | ⟨g, rest, hq, htaken, -⟩
        · simp only [htaken, Option.isSome_none, Bool.false_eq_true, if_false]
          exact hwait
        · rw [hq] at hwait
          simp only [htaken, if_true, hq, List.tail_cons, Nat.add_zero]
          exact hwait.read.2.1
      · obtain ⟨h1, h2, h3, h4⟩ := hother k hk
        simp only [h1, h2, h3, h4]
        exact h.channel k

theorem judge_correct (o : ByteOrder) (q : Request) (g : Datagram) (h : Correct o q g) :
    judge (nestReports o (mctpRule q.rspSz q.rspMin) q.depth q.msg
      (received (16 * q.depth + q.rspSz) g.bytes)) = 0 := by
  obtain ⟨-, hnest, hmin, hfit, hmax⟩ := h
  have hall : received (16 * q.depth + q.rspSz) g.bytes = g.bytes := by
    unfold received
    exact List.take_of_length_le (by omega)
  rw [hall, judge_mctpRule_eq_zero]
  refine ⟨hnest, ?_⟩
  unfold LengthOk
  split_ifs with hfix
  · have heq : q.rspSz = q.rspMin := eq_of_beq hfix
    omega
  · exact hmin

/-- In every session with such a device, a command succeeds on the answer to its
own request exactly when no earlier command of its socket was left without an
answer and its own came in time; and one that is left without leaves its socket
one more answer behind for good. -/
theorem command_matched_iff (o : ByteOrder) (m : MctpTransport) (fd : ℤ) (hasFmapi : Bool)
    (hn : m.nid ≠ mockMagic) (events : List Event)
    (hl : Legal (Session.step o) (Served o) (Session.start m fd hasFmapi) events)
    (e : Entry Session Event (Option Result))
    (he : e ∈ trace (Session.step o) (Session.start m fd hasFmapi) events) (c : Turn)
    (hc : e.input = .command c) (res : Result) (hres : e.result = some res) :
    ((res.rc = 0 ∧ ∃ n g, res.number = some n ∧ res.judged = some g ∧ g.request = n) ↔
      e.before.missed c.sock = 0 ∧ c.during ≠ []) ∧
    (Session.step o e.before e.input).1.missed c.sock =
      e.before.missed c.sock + if res.judged = none then 1 else 0 := by
  obtain ⟨⟨m', h⟩, hok, hr⟩ := trace_invariant (Session.step o) (Served o) (fun s => ∃ m, Behind o s m)
    (fun s i hs hi => behind_step o s i hs hi) _ events ⟨m, start_behind o m fd hasFmapi hn⟩ hl e he
  obtain ⟨s, input, result⟩ := e
  simp only at hc hres hr hok h ⊢
  subst hc
  obtain ⟨r, j, tReq, hcall, -, hreq, hcase⟩ := served_call o s c m' h hok
  have hwait := h.waiting c r _ hcall hreq hok
  obtain ⟨-, -, -, hM, -⟩ := served_settle s c r _ hreq
  rw [step_command o s c r hcall] at hr ⊢
  obtain rfl := Option.some.inj (hres.symm.trans hr)
  simp only [hM, hreq, Option.map_some]
  rcases hcase with ⟨hempty, htaken⟩ | ⟨g, rest, hq, htaken, hrc⟩
  · -- nothing came, so `during` is empty too
    simp only [htaken, Option.isSome_none, Bool.false_eq_true, if_false, if_true, and_true]
    refine ⟨fun hm => ?_, fun hm => absurd (List.append_eq_nil_iff.mp hempty).2 hm.2⟩
    obtain ⟨-, n, g, -, hg, -⟩ := hm
    cases hg
  · rw [hq] at hwait
    obtain ⟨-, -, q, hfirst, hcorrect⟩ := hwait.read
    simp only [htaken, if_true, hq, List.head?_cons, reduceCtorEq, if_false, and_true]
    by_cases hmiss : s.missed c.sock = 0
    · -- up to date: the oldest unanswered request is the command's own
      have hown : q = ⟨m'.tag + j, tReq, tunnelDepth c.ti, c.rspSz, c.rspMin⟩ := by
        rw [hmiss, List.length_append, List.length_singleton, Nat.zero_add, Nat.add_sub_cancel,
          List.getElem?_concat_length] at hfirst
        exact (Option.some.inj hfirst).symm
      subst hown
      have hnone : s.queue c.sock = [] := by
        have hlen := (h.channel c.sock).length_le
        exact List.eq_nil_of_length_eq_zero (by omega)
      have hdur : c.during ≠ [] := by
        intro hd
        rw [hnone, hd] at hq
        cases hq
      refine iff_of_true ⟨?_, _, g, rfl, rfl, hcorrect.1⟩ ⟨hmiss, hdur⟩
      rw [hrc]
      exact judge_correct o _ g hcorrect
    · -- behind: it is an older request, with a smaller number
      have hold : q ∈ s.transmitted c.sock := by
        have hle := (h.channel c.sock).unread_le
        rw [List.length_append, List.length_singleton,
          List.getElem?_append_left (by omega)] at hfirst
        exact List.mem_of_getElem? hfirst
      refine iff_of_false (fun hm => ?_) (fun hm => hmiss hm.1)
      obtain ⟨-, n, g', hn', hg', hreq'⟩ := hm
      have hlt := h.issued c.sock q hold
      have hnum := hcorrect.1
      obtain rfl := Option.some.inj hg'
      obtain rfl := Option.some.inj hn'
      omega

def identifyRsp (tg : Byte) : Bytes :=
  [1, tg, 0, 0x01, 0x00, 18, 0, 0, 0, 0, 0, 0] ++ zeros 18

/- Two answers in time, one late, and one in time again. -/
def thirdLate : List Event :=
  [.command (identifyTurn [⟨0x22, identifyRsp 0x22⟩]), .command (identifyTurn [⟨0x23, identifyRsp 0x23⟩]),
    .command (identifyTurn []), .arrive .cci ⟨0x24, identifyRsp 0x24⟩,
    .command (identifyTurn [⟨0x25, identifyRsp 0x25⟩])]

/- The second command, and what comes of it. -/
def secondEntry : Entry Session Event (Option Result) :=
  let s := after (Session.step .little) (Session.start mctpPort (-1) true) (thirdLate.take 1)
  ⟨s, .command (identifyTurn [⟨0x23, identifyRsp 0x23⟩]),
    (Session.step .little s (.command (identifyTurn [⟨0x23, identifyRsp 0x23⟩]))).2⟩

theorem thirdLate_matched : ((0 : ℤ) = 0 ∧ ∃ n g, some 0x23 = some n ∧
    some (Datagram.mk 0x23 (identifyRsp 0x23)) = some g ∧ g.request = n) ∧
      (Session.step .little secondEntry.before secondEntry.input).1.missed .cci = 0 := by
  have hmem : secondEntry ∈ trace (Session.step .little) (Session.start mctpPort (-1) true) thirdLate :=
    mem_trace_after _ _ (thirdLate.take 1) _ (thirdLate.drop 2)
  obtain ⟨hiff, hmissed⟩ := command_matched_iff .little mctpPort (-1) true (by decide) thirdLate (by decide +kernel)
    secondEntry hmem (identifyTurn [⟨0x23, identifyRsp 0x23⟩]) rfl
    ⟨0, some 0x23, some ⟨0x23, identifyRsp 0x23⟩⟩ (by decide +kernel)
  exact ⟨hiff.mpr ⟨by decide +kernel, by decide⟩, hmissed.trans (by decide +kernel)⟩

/- The first answer comes late, the next three in time. -/
def lateOnce : List Event :=
  [.command (identifyTurn []), .arrive .cci ⟨0x22, identifyRsp 0x22⟩,
    .command (identifyTurn [⟨0x23, identifyRsp 0x23⟩]),
    .command (identifyTurn [⟨0x24, identifyRsp 0x24⟩]),
    .command (identifyTurn [⟨0x25, identifyRsp 0x25⟩])]

/-- One timeout, and every later command fails although all are answered in time. -/
theorem lateOnce_fails_forever :
    Legal (Session.step .little) (Served .little) (Session.start mctpPort (-1) true) lateOnce ∧
      (trace (Session.step .little) (Session.start mctpPort (-1) true) lateOnce).map
        (fun e => e.result.map Result.rc) = [some (-1), none, some (-1), some (-1), some (-1)] := by
  decide +kernel

end LibCxlmi.Run
