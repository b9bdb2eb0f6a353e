import OpenQti.Lib.Ensures
import OpenQti.Lib.Run
import OpenQti.Wds.Connection

/-!
# A session that goes down

After the baseband has reported the end of a session the client is to ask for a new one, by itself or
by order of the user. Two things are in the way. The response to a failed request finds the flag
`in_progress` still set, and so does not ask again; and a session that ends by itself leaves its
handle, which `wds_chat_ifup_down` takes for a running session. `connection_kept` says in which
states a report of the baseband does no harm.

Internal connectivity is enabled.
-/

namespace OpenQti.Wds

open Bytes Qmi Machine Except
open Sms (qmiMsgid)

/-- A message about the session. -/
structure SessionMessage where
  bytes : Bytes
  len : Nat
  session : qmiMsgid bytes = WdsMsgid.startNetwork.code ∨
    qmiMsgid bytes = WdsMsgid.stopNetwork.code ∨
    qmiMsgid bytes = WdsMsgid.getPacketServiceStatus.code

inductive WdsOp where
  | initInternalNetworking
  | chatIfupDown (start : Bool)
  | message (message : SessionMessage)

/-- What the baseband has reported about the session. -/
inductive SessionEvent where
  | none
  | up
  | down
  deriving DecidableEq, Repr

/-- The state, the last report of the baseband about the session, and the number of requests to start
it that have not been answered. -/
structure Session where
  rt : WdsRuntime
  last : SessionEvent
  outstanding : Nat

def Session.start : Session := ⟨.reset, .none, 0⟩

namespace SessionMessage

variable (m : SessionMessage)

/-- The message says that the start of the session has failed. -/
def StartFailed : Prop :=
  qmiMsgid m.bytes = WdsMsgid.startNetwork.code ∧
    ∃ result, didQmiOpFail m.bytes m.len = some result ∧ result ≠ qmiResultSuccess

/-- The message says that the session has ended. -/
def CallEnded : Prop :=
  qmiMsgid m.bytes = WdsMsgid.getPacketServiceStatus.code ∧
    didQmiOpFail m.bytes m.len = some qmiResultSuccess ∧
    ∃ offset, getTlvOffsetById m.bytes m.len 0x10 = some offset ∧ 0 < offset

/-- What the message says about the session, if it says something. -/
def event : Option SessionEvent :=
  if qmiMsgid m.bytes = WdsMsgid.startNetwork.code then
    if didQmiOpFail m.bytes m.len = some qmiResultSuccess then some .up else some .down
  else if didQmiOpFail m.bytes m.len = some qmiResultSuccess then
    if qmiMsgid m.bytes = WdsMsgid.stopNetwork.code then some .down
    else if (getTlvOffsetById m.bytes m.len 0x10).getD 0 > 0 then some .down
    else Option.none
  else Option.none

/-- The message answers a request to start the session. -/
def answers : Nat := if qmiMsgid m.bytes = WdsMsgid.startNetwork.code then 1 else 0

end SessionMessage

/-- The requests to start the session. -/
def starts (outputs : List WdsOutput) : Nat := outputs.count .startNetwork

/-- The requests that have been left are counted. -/
def Session.issue (st : Session) (result : WdsRuntime × List WdsOutput) :
    Session × List WdsOutput :=
  ({ st with rt := result.1, outstanding := st.outstanding + starts result.2 }, result.2)

/-- The baseband has sent a message about the session. -/
def Session.hear (st : Session) (m : SessionMessage) : Session :=
  { st with last := m.event.getD st.last, outstanding := st.outstanding - m.answers }

def sessionStep (st : Session) (op : WdsOp) : Except WdsFault (Session × List WdsOutput) :=
  match op with
  | .initInternalNetworking => .ok (st.issue (initInternalNetworking true st.rt))
  | .chatIfupDown start => .ok (st.issue (wdsChatIfupDown true st.rt start))
  | .message m => do
      let result ← handleIncomingWdsMessage true st.rt m.bytes m.len
      .ok ((st.hear m).issue result)

/-- The user can start the session if it is down and no request waits for its answer. -/
def Restartable (st : Session) : Prop :=
  st.last = .down → st.outstanding = 0 → .startNetwork ∈ (wdsChatIfupDown true st.rt true).2

/-- A session that has failed or ended without an order of the user is asked for again. -/
def Retries (st : Session) (op : WdsOp) (outputs : List WdsOutput) : Prop :=
  ∀ m, op = .message m → m.StartFailed ∨ m.CallEnded → st.rt.userOrderedStop = false →
    .startNetwork ∈ outputs

/-- A failed start or the end of the session is reported when no request is in progress or, after an
order to stop, when the handle has been given back or another request waits for its answer. -/
def ReportedInTime (st : Session) (op : WdsOp) : Prop :=
  ∀ m, op = .message m → m.StartFailed ∨ m.CallEnded →
    if st.rt.userOrderedStop then m.answers < st.outstanding ∨ st.rt.pktDataHandle = 0
    else st.rt.inProgress = false

variable {st after : Session} {s : WdsRuntime} {op : WdsOp} {outputs : List WdsOutput}

/-! ## The functions -/

theorem starts_pos : 0 < starts outputs ↔ .startNetwork ∈ outputs := List.count_pos_iff

theorem init_spec (s : WdsRuntime) :
    (s.inProgress = false → initInternalNetworking true s =
        ({ s with inProgress := true }, [.setAutoconnect 0, .startNetwork])) ∧
      (s.inProgress = true → initInternalNetworking true s = (s, [])) := by
  unfold initInternalNetworking
  exact ⟨fun h => by simp [h], fun h => by simp [h]⟩

/-- A request is left exactly if none is in progress and the user has not ordered a stop. -/
theorem down_spec (s : WdsRuntime) (reason : List UInt8) :
    (s.userOrderedStop = false → s.inProgress = false →
        (notifyNetworkDown true s reason).1 = { s with inProgress := true } ∧
          starts (notifyNetworkDown true s reason).2 = 1) ∧
      (s.userOrderedStop = true ∨ s.inProgress = true →
        (notifyNetworkDown true s reason).1 = s ∧
          starts (notifyNetworkDown true s reason).2 = 0) := by
  obtain ⟨hidle, hbusy⟩ := init_spec s
  unfold notifyNetworkDown
  constructor
  · intro hstop hprogress
    simp only [hstop, hidle hprogress, if_true, Bool.not_false]
    exact ⟨trivial, rfl⟩
  · intro h
    by_cases hstop : s.userOrderedStop = true
    · simp only [hstop, if_true, Bool.not_true, Bool.false_eq_true, if_false]
      exact ⟨trivial, rfl⟩
    · have hfree : s.userOrderedStop = false := by simpa using hstop
      simp only [hfree, hbusy (h.resolve_left hstop), if_true, Bool.not_false]
      exact ⟨trivial, rfl⟩

theorem down_handle (s : WdsRuntime) (reason : List UInt8) :
    (notifyNetworkDown true s reason).1.pktDataHandle = s.pktDataHandle := by
  obtain ⟨hagain, hleft⟩ := down_spec s reason
  by_cases hidle : s.userOrderedStop = false ∧ s.inProgress = false
  · rw [(hagain hidle.1 hidle.2).1]
  · rw [(hleft (by simpa [or_iff_not_imp_left] using hidle)).1]

/-- If a request is in progress afterwards, it has been left now or was in progress before. -/
theorem down_progress {outstanding : Nat} (reason : List UInt8)
    (hbefore : s.inProgress = true → 0 < outstanding)
    (hafter : (notifyNetworkDown true s reason).1.inProgress = true) :
    0 < outstanding + starts (notifyNetworkDown true s reason).2 := by
  obtain ⟨hagain, hleft⟩ := down_spec s reason
  by_cases hidle : s.userOrderedStop = false ∧ s.inProgress = false
  · rw [(hagain hidle.1 hidle.2).2]
    exact Nat.succ_pos _
  · rw [(hleft (by simpa [or_iff_not_imp_left] using hidle)).1] at hafter
    exact Nat.lt_of_lt_of_le (hbefore hafter) (Nat.le_add_right _ _)

/-- The user can start a session if none is in progress and the handle has been given back. -/
theorem restart_iff (s : WdsRuntime) :
    .startNetwork ∈ (wdsChatIfupDown true s true).2 ↔
      s.inProgress = false ∧ s.pktDataHandle = 0 := by
  cases hprogress : s.inProgress with
  | true => simp [wdsChatIfupDown, hprogress]
  | false =>
      by_cases hhandle : s.pktDataHandle = 0
      · simp [wdsChatIfupDown, initInternalNetworking, hprogress, hhandle]
      · simp [wdsChatIfupDown, hprogress, hhandle]

/-! ## Messages -/

variable {m : SessionMessage}

theorem SessionMessage.StartFailed.spec (h : m.StartFailed) :
    m.event = some .down ∧ m.answers = 1 ∧ ¬ m.CallEnded := by
  obtain ⟨hid, result, hresult, hfailed⟩ := h
  refine ⟨?_, if_pos hid, fun hended => ?_⟩
  · simp [event, hid, hresult, hfailed]
  · have hother := hended.1
    rw [hid] at hother
    cases hother

theorem SessionMessage.CallEnded.spec (h : m.CallEnded) :
    m.event = some .down ∧ m.answers = 0 ∧ ¬ m.StartFailed := by
  obtain ⟨hid, hresult, offset, hoffset, hpos⟩ := h
  have hother : ¬ qmiMsgid m.bytes = WdsMsgid.startNetwork.code := by
    rw [hid]
    decide
  refine ⟨?_, if_neg hother, fun hfailed => hother hfailed.1⟩
  have hstop : ¬ qmiMsgid m.bytes = WdsMsgid.stopNetwork.code := by
    rw [hid]
    decide
  simp [event, hother, hstop, hresult, hoffset, hpos]

/-- What a message does to the state: the session has failed, has been started, has been stopped, or
has ended, or nothing is known. -/
inductive Heard (s : WdsRuntime) (m : SessionMessage) : WdsRuntime → List WdsOutput → Prop where
  | failed (h : m.StartFailed) (reason : List UInt8) :
      Heard s m { (notifyNetworkDown true s reason).1 with inProgress := false }
        (notifyNetworkDown true s reason).2
  | started {next : WdsRuntime} {outputs : List WdsOutput} (hevent : m.event = some .up)
      (hother : ¬ (m.StartFailed ∨ m.CallEnded)) :
      Heard s m { next with inProgress := false } outputs
  | stopped (hanswers : m.answers = 0) (hother : ¬ (m.StartFailed ∨ m.CallEnded)) :
      Heard s m { s with pktDataHandle := 0 } []
  | ended (h : m.CallEnded) (reason : List UInt8) :
      Heard s m (notifyNetworkDown true s reason).1 (notifyNetworkDown true s reason).2
  | ignored (hevent : m.event = Option.none) (hanswers : m.answers = 0)
      (hother : ¬ (m.StartFailed ∨ m.CallEnded)) : Heard s m s []

theorem op_result_ok {bytes : Bytes} {len result : Nat} (h : opResult bytes len = .ok result) :
    didQmiOpFail bytes len = some result := by
  unfold opResult at h
  split at h
  · cases h
    assumption
  · cases h

theorem tlv_offset_ok {bytes : Bytes} {len offset : Nat} {tlvid : UInt8}
    (h : tlvOffset bytes len tlvid = .ok offset) :
    getTlvOffsetById bytes len tlvid = some offset := by
  unfold tlvOffset at h
  split at h
  · cases h
    assumption
  · cases h

theorem start_heard {next : WdsRuntime}
    (hid : qmiMsgid m.bytes = WdsMsgid.startNetwork.code)
    (h : wdsHandleStartNetworkResponse true s m.bytes m.len = .ok (next, outputs)) :
    Heard s m next outputs := by
  obtain ⟨result, hresult, h⟩ := bind_ok h
  have hop := op_result_ok hresult
  obtain ⟨⟨state, sent⟩, hhandled, h⟩ := bind_ok h
  cases h
  unfold startOutcome at hhandled
  split_ifs at hhandled with hfailed
  · have hdown := Heard.failed (s := s) ⟨hid, result, hop, hfailed⟩ (Text.ascii "Operation failed")
    rw [Except.ok.inj hhandled] at hdown
    exact hdown
  · have hsuccess : result = qmiResultSuccess := by simpa using hfailed
    rw [hsuccess] at hop
    refine .started (by simp [SessionMessage.event, hid, hop]) ?_
    rintro (⟨_, other, hother, hne⟩ | ⟨hended, _⟩)
    · rw [hop] at hother
      exact hne (Option.some.inj hother).symm
    · rw [hid] at hended
      cases hended

theorem stop_heard {next : WdsRuntime}
    (hid : qmiMsgid m.bytes = WdsMsgid.stopNetwork.code)
    (h : handleStopNetwork s m.bytes m.len = .ok (next, outputs)) : Heard s m next outputs := by
  have hstart : ¬ qmiMsgid m.bytes = WdsMsgid.startNetwork.code := by
    rw [hid]
    decide
  have hother : ¬ (m.StartFailed ∨ m.CallEnded) := by
    rintro (⟨hfailed, _⟩ | ⟨hended, _⟩)
    · exact hstart hfailed
    · rw [hid] at hended
      cases hended
  obtain ⟨result, hresult, h⟩ := bind_ok h
  have hop := op_result_ok hresult
  split_ifs at h with hdone
  · cases h
    exact .stopped (if_neg hstart) hother
  · cases h
    have hfailed : ¬ didQmiOpFail m.bytes m.len = some qmiResultSuccess := by
      rw [hop]
      exact fun hsuccess => hdone (.inl (Option.some.inj hsuccess))
    exact .ignored (by simp [SessionMessage.event, hstart, hfailed]) (if_neg hstart) hother

theorem status_heard {next : WdsRuntime}
    (hid : qmiMsgid m.bytes = WdsMsgid.getPacketServiceStatus.code)
    (h : wdsHandlePacketServiceStatus true s m.bytes m.len = .ok (next, outputs)) :
    Heard s m next outputs := by
  have hstart : ¬ qmiMsgid m.bytes = WdsMsgid.startNetwork.code := by
    rw [hid]
    decide
  have hstop : ¬ qmiMsgid m.bytes = WdsMsgid.stopNetwork.code := by
    rw [hid]
    decide
  obtain ⟨result, hresult, h⟩ := bind_ok h
  have hop := op_result_ok hresult
  split_ifs at h with hfailed
  -- a report without a result is ignored here, too
  · cases h
    have hunknown : ¬ didQmiOpFail m.bytes m.len = some qmiResultSuccess := by
      rw [hop]
      exact fun hsuccess => hfailed (Option.some.inj hsuccess)
    refine .ignored (by simp [SessionMessage.event, hstart, hunknown]) (if_neg hstart) ?_
    rintro (⟨hfailed, _⟩ | ⟨_, hsuccess, _⟩)
    · exact hstart hfailed
    · exact hunknown hsuccess
  · have hsuccess : result = qmiResultSuccess := by simpa using hfailed
    rw [hsuccess] at hop
    obtain ⟨offset, hoffset, h⟩ := bind_ok h
    have htlv := tlv_offset_ok hoffset
    split_ifs at h with hpos
    · have hdown := Heard.ended (s := s) ⟨hid, hop, offset, htlv, hpos⟩
        (Text.padded 4 48 (Text.hexadecimal (le16 m.bytes (offset + 3))))
      rw [Except.ok.inj h] at hdown
      exact hdown
    · cases h
      have hzero : offset = 0 := Nat.eq_zero_of_not_pos hpos
      refine .ignored (by simp [SessionMessage.event, hstart, hstop, htlv, hzero])
        (if_neg hstart) ?_
      rintro (⟨hfailed, _⟩ | ⟨_, _, other, hother, hpositive⟩)
      · exact hstart hfailed
      · rw [htlv] at hother
        exact hpos ((Option.some.inj hother).symm ▸ hpositive)

theorem message_heard {next : WdsRuntime}
    (h : handleIncomingWdsMessage true s m.bytes m.len = .ok (next, outputs)) :
    Heard s m next outputs := by
  unfold handleIncomingWdsMessage at h
  rcases m.session with hid | hid | hid
  · rw [if_neg (by rw [hid]; decide), if_pos hid] at h
    exact start_heard hid h
  · rw [if_neg (by rw [hid]; decide), if_neg (by rw [hid]; decide), if_pos hid] at h
    exact stop_heard hid h
  · rw [if_neg (by rw [hid]; decide), if_neg (by rw [hid]; decide), if_neg (by rw [hid]; decide),
      if_pos hid] at h
    exact status_heard hid h

/-! ## The steps -/

/-- A request in progress waits for its answer, and a session that is down and not asked for has given
its handle back. -/
structure Tracked (st : Session) : Prop where
  progress : st.rt.inProgress = true → 0 < st.outstanding
  handle : st.last = .down → st.outstanding = 0 → st.rt.pktDataHandle = 0

theorem restartable_iff (hprogress : st.rt.inProgress = true → 0 < st.outstanding) :
    Restartable st ↔ (st.last = .down → st.outstanding = 0 → st.rt.pktDataHandle = 0) := by
  refine forall_congr' fun _ => forall_congr' fun hnone => ?_
  rw [restart_iff]
  refine ⟨And.right, fun hhandle => ⟨?_, hhandle⟩⟩
  by_contra hbusy
  have hpos := hprogress (by simpa using hbusy)
  omega

theorem Tracked.restartable (h : Tracked st) : Restartable st :=
  (restartable_iff h.progress).2 h.handle

/-- An attempt to connect leaves a request, or changes nothing. -/
theorem Tracked.connect (h : Tracked st) (ordered : Bool) :
    Tracked (st.issue
      (initInternalNetworking true { st.rt with userOrderedStop := ordered })).1 := by
  obtain ⟨hidle, hbusy⟩ := init_spec { st.rt with userOrderedStop := ordered }
  cases hprogress : st.rt.inProgress with
  | true =>
      rw [hbusy hprogress]
      exact ⟨h.progress, h.handle⟩
  | false =>
      rw [hidle hprogress]
      exact ⟨fun _ => Nat.succ_pos _, fun _ hnone => absurd hnone (Nat.succ_ne_zero _)⟩

theorem starts_concat (outputs : List WdsOutput) (text : List UInt8) :
    starts (outputs ++ [.message text]) = starts outputs := by
  simp [starts]

theorem Tracked.order (h : Tracked st) (start : Bool) :
    Tracked (st.issue (wdsChatIfupDown true st.rt start)).1 := by
  simp only [wdsChatIfupDown]
  split_ifs with hstart hrefused hhandle
  · have hconnect := h.connect false
    simp only [Session.issue, starts_concat] at hconnect ⊢
    exact hconnect
  · exact ⟨h.progress, h.handle⟩
  · exact ⟨h.progress, h.handle⟩
  · exact ⟨h.progress, h.handle⟩

/-- The session is down. It is asked for again, or is left to the user with the handle it has. -/
theorem Tracked.reported (hdown : m.StartFailed ∨ m.CallEnded)
    (reason : List UInt8) (hsent : outputs = (notifyNetworkDown true st.rt reason).2)
    (hlast : after.last = .down)
    (houtstanding : after.outstanding = st.outstanding - m.answers + starts outputs)
    (hhandle : after.rt.pktDataHandle = st.rt.pktDataHandle)
    (hprogress : after.rt.inProgress = true → 0 < after.outstanding) :
    (ReportedInTime st (.message m) → Tracked after) ∧
      ((Restartable after ∧ Retries st (.message m) outputs) ↔
        ReportedInTime st (.message m)) := by
  have hretries : Retries st (.message m) outputs ↔
      (st.rt.userOrderedStop = false → 0 < starts outputs) := by
    rw [starts_pos]
    refine ⟨fun hsends => hsends m rfl hdown, fun hsends other hother _ => hsends⟩
  have htime : ReportedInTime st (.message m) ↔
      if st.rt.userOrderedStop then m.answers < st.outstanding ∨ st.rt.pktDataHandle = 0
      else st.rt.inProgress = false := by
    refine ⟨fun hreported => hreported m rfl hdown, fun hreported other hother _ => ?_⟩
    cases hother
    exact hreported
  obtain ⟨hagain, hleft⟩ := down_spec st.rt reason
  rw [← hsent] at hagain hleft
  rw [restartable_iff hprogress, hretries, htime]
  -- an ordered stop leaves the session to the user, whatever else is going on
  cases hstop : st.rt.userOrderedStop with
  | false =>
      cases hbusy : st.rt.inProgress with
      | false =>
          have hstarts := (hagain hstop hbusy).2
          have hpos : 0 < after.outstanding := by omega
          have hfree : after.last = .down → after.outstanding = 0 → after.rt.pktDataHandle = 0 :=
            fun _ hnone => absurd hnone (Nat.ne_of_gt hpos)
          exact ⟨fun _ => ⟨hprogress, hfree⟩,
            fun _ => rfl, fun _ => ⟨hfree, fun _ => by omega⟩⟩
      -- the flag is still set, so nothing is asked for and nothing will be
      | true =>
          have hstarts := (hleft (.inr hbusy)).2
          refine ⟨fun hreported => ?_, fun hkept => ?_, fun hreported => ?_⟩
          · cases hreported
          · have hpos := hkept.2 rfl
            omega
          · cases hreported
  | true =>
      have hstarts := (hleft (.inl hstop)).2
      have hfree : (after.last = .down → after.outstanding = 0 → after.rt.pktDataHandle = 0) ↔
          (m.answers < st.outstanding ∨ st.rt.pktDataHandle = 0) := by
        rw [hhandle, houtstanding, hstarts]
        refine ⟨fun hkept => ?_, fun hkept _ hnone => ?_⟩
        · by_cases hnone : st.outstanding - m.answers + 0 = 0
          · exact .inr (hkept hlast hnone)
          · exact .inl (by omega)
        · exact hkept.resolve_left (by omega)
      refine ⟨fun hreported => ⟨hprogress, hfree.2 hreported⟩, fun hkept => hfree.1 hkept.1,
        fun hreported => ⟨hfree.2 hreported, fun hordered => ?_⟩⟩
      cases hordered

/-- A message that reports neither a failed start nor the end of the session does no harm. -/
theorem Tracked.unreported (h : Tracked after) (hother : ¬ (m.StartFailed ∨ m.CallEnded)) :
    (ReportedInTime st (.message m) → Tracked after) ∧
      ((Restartable after ∧ Retries st (.message m) outputs) ↔
        ReportedInTime st (.message m)) := by
  refine ⟨fun _ => h, fun _ other hop hdown => ?_, fun _ => ⟨h.restartable, ?_⟩⟩
  · cases hop
    exact absurd hdown hother
  · intro other hop hdown
    cases hop
    exact absurd hdown hother

theorem Tracked.message (h : Tracked st) {next : WdsRuntime}
    (hheard : Heard st.rt m next outputs) :
    (ReportedInTime st (.message m) → Tracked ((st.hear m).issue (next, outputs)).1) ∧
      ((Restartable ((st.hear m).issue (next, outputs)).1 ∧ Retries st (.message m) outputs) ↔
        ReportedInTime st (.message m)) := by
  cases hheard with
  | failed hfailed reason =>
      obtain ⟨hevent, hanswers, _⟩ := hfailed.spec
      refine Tracked.reported (.inl hfailed) reason rfl ?_ rfl ?_ ?_
      · simp [Session.issue, Session.hear, hevent]
      · exact down_handle st.rt reason
      · intro hprogress
        cases hprogress
  | started hevent hother =>
      refine Tracked.unreported ⟨?_, ?_⟩ hother
      · intro hprogress
        cases hprogress
      · intro hdown
        simp [Session.issue, Session.hear, hevent] at hdown
  | stopped hanswers hother =>
      refine Tracked.unreported ⟨?_, fun _ _ => rfl⟩ hother
      intro hprogress
      have hpos := h.progress hprogress
      simpa [Session.issue, Session.hear, hanswers, starts] using hpos
  | ended hended reason =>
      obtain ⟨hevent, hanswers, _⟩ := hended.spec
      refine Tracked.reported (.inr hended) reason rfl ?_ rfl ?_ ?_
      · simp [Session.issue, Session.hear, hevent]
      · exact down_handle st.rt reason
      · intro hprogress
        have hpos : 0 < st.outstanding + starts (notifyNetworkDown true st.rt reason).2 :=
          down_progress reason h.progress hprogress
        simpa [Session.issue, Session.hear, hanswers] using hpos
  | ignored hevent hanswers hother =>
      refine Tracked.unreported ⟨?_, ?_⟩ hother
      · simpa [Session.issue, Session.hear, hanswers, starts] using h.progress
      · simpa [Session.issue, Session.hear, hevent, hanswers, starts] using h.handle

theorem Tracked.silent (h : Tracked after) (hsilent : ∀ m, op ≠ .message m) :
    (ReportedInTime st op → Tracked after) ∧
      ((Restartable after ∧ Retries st op outputs) ↔ ReportedInTime st op) :=
  ⟨fun _ => h, fun _ m hop => absurd hop (hsilent m),
    fun _ => ⟨h.restartable, fun m hop => absurd hop (hsilent m)⟩⟩

/-- What a step does to the session. -/
theorem Tracked.step (h : Tracked st) (hstep : sessionStep st op = .ok (after, outputs)) :
    (ReportedInTime st op → Tracked after) ∧
      ((Restartable after ∧ Retries st op outputs) ↔ ReportedInTime st op) := by
  cases op with
  | initInternalNetworking =>
      cases hstep
      have hconnect := h.connect st.rt.userOrderedStop
      exact hconnect.silent (fun m hop => by cases hop)
  | chatIfupDown start =>
      cases hstep
      exact (h.order start).silent (fun m hop => by cases hop)
  | message m =>
      obtain ⟨⟨next, sent⟩, hhandled, hissued⟩ := bind_ok hstep
      cases hissued
      exact h.message (message_heard hhandled)

theorem Tracked.start : Tracked .start := by
  refine ⟨fun hprogress => ?_, fun hdown => ?_⟩
  · cases hprogress
  · cases hdown

/-! ## Runs -/

/-- A message of the service with the result `result` and one more TLV. -/
def sampleBytes (msgid result tlvid : UInt8) : Bytes :=
  Bytes.ofList [0x01, 0x19, 0, 0x80, 0x01, 0x01, 0x02, 1, 0, msgid, 0, 0x0e, 0,
    0x02, 0x04, 0, result, 0, 0, 0, tlvid, 0x04, 0, 0x07, 0, 0, 0]

/-- The session has been started, with the handle 7, or could not be started. -/
def sampleStart (result : UInt8) : SessionMessage :=
  ⟨sampleBytes 0x20 result 0x01, 27, .inl rfl⟩

end OpenQti.Wds
