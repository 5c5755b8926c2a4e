import LibCxlmi.Contract.ClampedLists
import LibCxlmi.Contract.ReceivedEntries
import LibCxlmi.Tools.Events

/-!
# Room for lists at the call sites

The structures that the library fills in end in a list, and the library is not told
how much room the caller has for it. `CallSite` has the calls of Get Event Records,
Get Supported Logs, Get Physical Port State, Get Poison List, Get LD Allocations and
Get Multi-Headed Info in mctp-cci and mbcci-sfx, each with the command it sends and
the number of elements it has room for. What the tools print is left out.
-/

namespace LibCxlmi.Tools
open LibCxlmi.Word LibCxlmi.Text LibCxlmi.Cci LibCxlmi.Transport LibCxlmi.Commands LibCxlmi.Contract

variable {α : Type}

/-- A command, and the number of list elements that fit into the structure for its result. -/
structure Reserved (α : Type) where
  command : Command α
  room : ℕ

/-! ### mctp-cci -/

def logFromName (s : String) : Option Byte := parseEventLogLocal s

/- The result is a variable of the structure's own type, which ends before the records. -/
def doGetEvents : List String → Option (Reserved GetEventRecordsRsp)
  | [] => none
  | name :: _ => (logFromName name).map fun eventLog => ⟨.getEventRecords eventLog, 0⟩

/- The same in mbcci-sfx. -/
def fetchSupportedLogs : Reserved GetSupportedLogsRsp := ⟨.getSupportedLogs, maxSupportedLogs⟩

def doGetSupported : Reserved GetSupportedLogsRsp := ⟨.getSupportedLogs, maxSupportedLogs⟩

/- An empty argument is port 0. -/
def portId (arg : String) : Option Byte :=
  if outOfRange arg = true ∨ (strtoulEnd arg).2 ≠ [] ∨ 255 < strtoul arg then none
  else some (Fin.ofNat 256 (strtoul arg))

theorem onePort (port : Byte) : [port].length < 256 := Nat.lt_of_sub_eq_succ rfl

def doPhysPortState : List String → Option (Reserved GetPhysPortStateRsp)
  | [] => none
  | arg :: _ => (portId arg).map fun port => ⟨.fmapiGetPhysPortState ⟨[port], onePort port⟩, 8⟩

def doGetPoisonList (args : List String) : Reserved PoisonList :=
  ⟨.getPoisonList (toU64 ((args.head?.map strtoul).getD 0)) (toU64 ((args.tail.head?.map strtoul).getD 0)), 256⟩

def doGetLdAlloc : Reserved GetLdAllocationsRsp := ⟨.fmapiGetLdAllocations 0 32, 32⟩

def doGetMultiheaded : Reserved GetMultiheadedInfoRsp := ⟨.fmapiGetMultiheadedInfo 0 32, 32⟩

/-! ### mbcci-sfx -/

def reservedEventRecords (args : List String) : Option (Reserved GetEventRecordsRsp) :=
  (getEventRecordsLog args).map fun eventLog => ⟨.getEventRecords eventLog, maxEventRecords⟩

def parseU64Arg (arg : String) : Option (U 64) :=
  if outOfRange arg = true ∨ (strtoulEnd arg).2 = arg.toList ∨ (strtoulEnd arg).2 ≠ [] then none
  else some (toU64 (strtoul arg))

structure PoisonListParams where
  phyAddr : Option (U 64)
  phyAddrLen : Option (U 64)
  frestart : Bool

def poisonListOptions : List String → PoisonListParams → Option PoisonListParams
  | [], p => some p
  | [opt], p => if opt = "--frestart" then some { p with frestart := true } else none
  | opt :: v :: rest, p =>
      if opt = "--dpa" then
        (parseU64Arg v).bind fun addr => poisonListOptions rest { p with phyAddr := some addr }
      else if opt = "--length" then
        (parseU64Arg v).bind fun len => poisonListOptions rest { p with phyAddrLen := some len }
      else if opt = "--frestart" then poisonListOptions (v :: rest) { p with frestart := true }
      else none

def parseGetPoisonListReq (args : List String) : Option (U 64 × U 64 × Bool) :=
  (poisonListOptions args ⟨none, none, false⟩).bind fun p =>
    p.phyAddr.bind fun addr => p.phyAddrLen.map fun len => (addr, len, p.frestart)

/-- POISON_MAX_RECORDS. -/
def poisonMaxRecords : ℕ := (2048 - 0x20) / 16

def poisonMaxIterations : ℕ := 64

/- Bit 0 of the address asks for a restart, which only the first iteration does. -/
def cmdGetPoisonList (iter : ℕ) (args : List String) : Option (Reserved PoisonList) :=
  if poisonMaxIterations ≤ iter then none
  else (parseGetPoisonListReq args).map fun req =>
    let baseDpa := req.1.val / 2 * 2
    let restart := if iter = 0 ∧ req.2.2 = true then 1 else 0
    ⟨.getPoisonList (toU64 (baseDpa + restart)) req.2.1, poisonMaxRecords⟩

/-! ### Call sites -/

inductive CallSite : Type → Type
  | doGetEvents : CallSite GetEventRecordsRsp
  | cmdGetEventRecords : CallSite GetEventRecordsRsp
  | fetchSupportedLogs : CallSite GetSupportedLogsRsp
  | doGetSupported : CallSite GetSupportedLogsRsp
  | doPhysPortState : CallSite GetPhysPortStateRsp
  | doGetPoisonList : CallSite PoisonList
  | cmdGetPoisonList : CallSite PoisonList
  | doGetLdAlloc : CallSite GetLdAllocationsRsp
  | doGetMultiheaded : CallSite GetMultiheadedInfoRsp

/-- The call in round `iter` of a loop, with these arguments, if it is reached. -/
def CallSite.reserved (iter : ℕ) (args : List String) : CallSite α → Option (Reserved α)
  | .doGetEvents => Tools.doGetEvents args
  | .cmdGetEventRecords => reservedEventRecords args
  | .fetchSupportedLogs => some Tools.fetchSupportedLogs
  | .doGetSupported => some Tools.doGetSupported
  | .doPhysPortState => Tools.doPhysPortState args
  | .doGetPoisonList => some (Tools.doGetPoisonList args)
  | .cmdGetPoisonList => Tools.cmdGetPoisonList iter args
  | .doGetLdAlloc => some Tools.doGetLdAlloc
  | .doGetMultiheaded => some Tools.doGetMultiheaded

/-- The counts obey the request and the documented maximum. The library cuts those of the
other commands itself. -/
def WithinLimits : Command α → Bytes → Prop
  | .getEventRecords _, d => leVal (slice d 20 2) ≤ maxSupportedEventRecords
  | .fmapiGetPhysPortState i, d => (byteAt d 0).val ≤ i.ports.length
  | .fmapiGetLdAllocations _ limit, d => (byteAt d 3).val ≤ limit.val
  | .fmapiGetMultiheadedInfo _ limit, d => (byteAt d 5).val ≤ limit.val
  | _, _ => True

/-- The number of list elements written into the caller's structure. -/
def written : Command α → α → ℕ
  | .getPoisonList _ _, v => v.records.length
  | c, v => elements c v

/-- mctp-cci has no room for an event. -/
def CallSite.HasRoom : CallSite α → Bytes → Prop
  | .doGetEvents, d => leVal (slice d 20 2) = 0
  | _, _ => True

/-- All elements of a list that the response has room for are written. -/
theorem listed_within_iff (c : Command α) (o : ByteOrder) (env : Env) (ep : Endpoint) (ti : Option TunnelInfo)
    (d : Bytes) (h : AcceptedReply c o env ep ti d) (head size count limit room : ℕ)
    (hl : listing o c d = some ⟨head, size, count, 0⟩) (hlimit : count ≤ limit) (hlt : limit < 2 ^ 31)
    (hfit : c.spec.rspSz o - 12 = head + limit * size) :
    (∃ v, Hands c o env ep ti v ∧ elements c v ≤ room) ↔ count ≤ room := by
  obtain ⟨hhands, helements⟩ := hands_iff c o env ep ti d h _ hl
  constructor
  · rintro ⟨v, hv, hle⟩
    rwa [helements v hv] at hle
  · intro hle
    have hextent : head + count * size ≤ c.spec.rspSz o - 12 := by
      rw [hfit]
      exact Nat.add_le_add_left (Nat.mul_le_mul_right size hlimit) head
    obtain ⟨v, hv⟩ := hhands.mpr ⟨hextent, hlimit.trans_lt hlt⟩
    exact ⟨v, hv, (helements v hv).symm ▸ hle⟩

section Commands
variable (o : ByteOrder) (env : Env) (ep : Endpoint) (ti : Option TunnelInfo) (d : Bytes)

theorem events_within_iff (eventLog : Byte) (h : AcceptedReply (.getEventRecords eventLog) o env ep ti d)
    (hlimit : leVal (slice d 20 2) ≤ maxSupportedEventRecords) (room : ℕ) :
    (∃ v, Hands (.getEventRecords eventLog) o env ep ti v ∧ v.records.length ≤ room) ↔
      leVal (slice d 20 2) ≤ room :=
  listed_within_iff (.getEventRecords eventLog) o env ep ti d h 32 128 _ maxSupportedEventRecords room rfl hlimit
    (by decide) (Nat.add_sub_cancel_left 12 _)

theorem logs_within (h : AcceptedReply .getSupportedLogs o env ep ti d) :
    ∃ v, Hands .getSupportedLogs o env ep ti v ∧ v.entries.length ≤ maxSupportedLogs := by
  have hcap : min (leVal (slice d 0 2)) maxSupportedLogs ≤ maxSupportedLogs := Nat.min_le_right _ _
  exact (listed_within_iff .getSupportedLogs o env ep ti d h 8 20 _ maxSupportedLogs _ rfl hcap (by decide)
    (Nat.add_sub_cancel_left 12 _)).mpr hcap

theorem ports_within (i : GetPhysPortStateReq) (h : AcceptedReply (.fmapiGetPhysPortState i) o env ep ti d)
    (hlimit : (byteAt d 0).val ≤ i.ports.length) :
    ∃ v, Hands (.fmapiGetPhysPortState i) o env ep ti v ∧ v.ports.length ≤ i.ports.length :=
  (listed_within_iff (.fmapiGetPhysPortState i) o env ep ti d h 4 16 _ i.ports.length _ rfl hlimit
    (i.numPorts.trans (by decide)) (Nat.add_sub_cancel_left 12 _)).mpr hlimit

theorem ldAllocations_within (start limit : Byte)
    (h : AcceptedReply (.fmapiGetLdAllocations start limit) o env ep ti d) (hlimit : (byteAt d 3).val ≤ limit.val) :
    ∃ v, Hands (.fmapiGetLdAllocations start limit) o env ep ti v ∧ v.ldAllocationList.length ≤ limit.val :=
  (listed_within_iff (.fmapiGetLdAllocations start limit) o env ep ti d h 4 16 _ limit.val _ rfl hlimit
    (limit.isLt.trans (by decide)) (Nat.add_sub_cancel_left 12 _)).mpr hlimit

theorem multiheaded_within (start limit : Byte)
    (h : AcceptedReply (.fmapiGetMultiheadedInfo start limit) o env ep ti d) (hlimit : (byteAt d 5).val ≤ limit.val) :
    ∃ v, Hands (.fmapiGetMultiheadedInfo start limit) o env ep ti v ∧ v.ldMap.length ≤ limit.val := by
  have hfit : (Command.fmapiGetMultiheadedInfo start limit).spec.rspSz o - 12 = 8 + limit.val * 1 := by
    rw [Nat.mul_one]
    exact Nat.add_sub_cancel_left 12 _
  exact (listed_within_iff (.fmapiGetMultiheadedInfo start limit) o env ep ti d h 8 1 _ limit.val _ rfl hlimit
    (limit.isLt.trans (by decide)) hfit).mpr hlimit

theorem poison_within (addr len : U 64) (h : AcceptedReply (.getPoisonList addr len) o env ep ti d) :
    ∃ v, Hands (.getPoisonList addr len) o env ep ti v ∧ v.records.length ≤ maxPoisonRecords := by
  obtain ⟨pl, s, hsends, -⟩ := h.1
  obtain ⟨rsp, hleaves, hhands⟩ := accepted_hands _ o env ep ti d h
  obtain ⟨v, hv, -, hrecords⟩ := decode_clamped _ o rsp d _ rfl hsends.admitted hleaves
  refine ⟨v, (hhands v).mpr hv, ?_⟩
  rw [hrecords, entriesAt, List.length_map, List.length_range]
  exact Clamp.least_le _ _

end Commands

/-- A call site has room for what is written into its structure, except where it has none. -/
theorem call_site_room_iff (s : CallSite α) (iter : ℕ) (args : List String) (r : Reserved α)
    (hr : s.reserved iter args = some r) (o : ByteOrder) (env : Env) (ep : Endpoint) (ti : Option TunnelInfo)
    (d : Bytes) (h : AcceptedReply r.command o env ep ti d) (hlimits : WithinLimits r.command d) :
    (∃ v, Hands r.command o env ep ti v ∧ written r.command v ≤ r.room) ↔ s.HasRoom d := by
  cases s with
  | doGetEvents =>
    cases args with
    | nil => cases hr
    | cons name rest =>
      obtain ⟨eventLog, -, rfl⟩ := Option.map_eq_some_iff.mp hr
      exact (events_within_iff o env ep ti d eventLog h hlimits 0).trans Nat.le_zero
  | cmdGetEventRecords =>
    obtain ⟨eventLog, -, rfl⟩ := Option.map_eq_some_iff.mp hr
    have hroom : leVal (slice d 20 2) ≤ maxEventRecords := Nat.le_trans hlimits (by decide)
    exact iff_of_true ((events_within_iff o env ep ti d eventLog h hlimits _).mpr hroom) trivial
  | fetchSupportedLogs =>
    obtain rfl := Option.some.inj hr
    exact iff_of_true (logs_within o env ep ti d h) trivial
  | doGetSupported =>
    obtain rfl := Option.some.inj hr
    exact iff_of_true (logs_within o env ep ti d h) trivial
  | doPhysPortState =>
    cases args with
    | nil => cases hr
    | cons arg rest =>
      obtain ⟨port, -, rfl⟩ := Option.map_eq_some_iff.mp hr
      obtain ⟨v, hv, hle⟩ := ports_within o env ep ti d _ h hlimits
      exact iff_of_true ⟨v, hv, hle.trans (Nat.le_add_left 1 7)⟩ trivial
  | doGetPoisonList =>
    obtain rfl := Option.some.inj hr
    obtain ⟨v, hv, hle⟩ := poison_within o env ep ti d _ _ h
    exact iff_of_true ⟨v, hv, hle.trans (by decide : maxPoisonRecords ≤ 256)⟩ trivial
  | cmdGetPoisonList =>
    simp only [CallSite.reserved, cmdGetPoisonList] at hr
    split at hr
    · cases hr
    · obtain ⟨req, -, rfl⟩ := Option.map_eq_some_iff.mp hr
      exact iff_of_true (poison_within o env ep ti d _ _ h) trivial
  | doGetLdAlloc =>
    obtain rfl := Option.some.inj hr
    exact iff_of_true (ldAllocations_within o env ep ti d 0 32 h hlimits) trivial
  | doGetMultiheaded =>
    obtain rfl := Option.some.inj hr
    exact iff_of_true (multiheaded_within o env ep ti d 0 32 h hlimits) trivial

theorem oneEvent_has_room :
    AcceptedReply (.getEventRecords 2) .little takesAll (mockWith 0x01 0x0 oneEvent) none oneEvent ∧
      ∃ v, Hands (.getEventRecords 2) .little takesAll (mockWith 0x01 0x0 oneEvent) none v ∧
        v.records.length ≤ 64 := by
  have haccepted : AcceptedReply (.getEventRecords 2) .little takesAll (mockWith 0x01 0x0 oneEvent) none oneEvent :=
    ⟨⟨_, _, ⟨rfl, by decide, rfl, by decide, rfl⟩, rfl⟩, by decide +kernel⟩
  have hlimits : leVal (slice oneEvent 20 2) ≤ maxSupportedEventRecords := by decide +kernel
  exact ⟨haccepted, (call_site_room_iff .cmdGetEventRecords 0 ["--log", "failure"] ⟨.getEventRecords 2, 64⟩ rfl
    .little takesAll (mockWith 0x01 0x0 oneEvent) none oneEvent haccepted hlimits).mpr trivial⟩

/-- The one record of a reply is written behind the variable of `do_get_events`. -/
theorem oneEvent_has_no_room :
    doGetEvents ["failure"] = some ⟨.getEventRecords 2, 0⟩ ∧
    AcceptedReply (.getEventRecords 2) .little takesAll (mockWith 0x01 0x0 oneEvent) none oneEvent ∧
      leVal (slice oneEvent 20 2) ≤ maxSupportedEventRecords ∧
      ((getEventRecords 2).run .little takesAll (mockWith 0x01 0x0 oneEvent) none).map
        (fun r => (r.rc, r.value.map fun v => v.records.length)) = some (0, some 1) := by
  refine ⟨rfl, ?_, by decide +kernel, by decide +kernel⟩
  exact ⟨⟨_, _, ⟨rfl, by decide, rfl, by decide, rfl⟩, rfl⟩, by decide +kernel⟩

end LibCxlmi.Tools
