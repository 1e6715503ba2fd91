/-
Clients on the Ethernet transport. Each connection carries requests, one after
the other and each in any number of segments; acknowledgements and timers
come between. `Clients` is the server with what the clients have sent.

With one connection the division into segments does not matter
(`ethernet_reassembles`). With two, a segment of one may land in the request
of the other, and a response goes out on whichever connection is served next;
where neither happens, the connections are isolated (`ethernet_isolates`).
-/
import UdcFirmware.Drivers.Ethernet

namespace UdcFirmware.Drivers

open Bsmp ByteMem Checked Filling

variable {σ : Type} {md5 : Md5}

/-! ## Clients and their requests -/

/-- `progress`: what a connection has delivered of a request that is not
complete. `requests`: the complete ones, in the order of their last bytes. -/
structure Clients (σ : Type) where
  server : Ethernet σ
  progress : Connection → List UInt8
  requests : List (Connection × List UInt8)

inductive ClientEvent
  /-- The bytes `bytes` of the request `m`, behind `before`. -/
  | segment (conn : Connection) (m : WireMessage) (before bytes after : List UInt8)
      (split : m.bytes = before ++ bytes ++ after) (nonempty : bytes ≠ [])
  /-- A packet that brings no data. -/
  | packet (conn : Connection)
  | periodic (conn : Connection)

def ClientEvent.conn : ClientEvent → Connection
  | segment conn .. => conn
  | packet conn => conn
  | periodic conn => conn

def Clients.step (md5 : Md5) (s : Clients σ) : ClientEvent → Except Fault (Clients σ)
  | .segment conn m before bytes after _ _ => do
    let server ← s.server.step md5 (.input conn (some bytes))
    if after = [] then
      return {
        server
        progress := Function.update s.progress conn []
        requests := s.requests ++ [(conn, m.bytes)] }
    else return { s with server, progress := Function.update s.progress conn (before ++ bytes) }
  | .packet conn => do
    let server ← s.server.step md5 (.input conn none)
    return { s with server }
  | .periodic conn => do
    let server ← s.server.step md5 (.periodic conn)
    return { s with server }

def Clients.powerUp (r : Routines σ) (world : World σ) : Clients σ where
  server := .powerUp r world
  progress := fun _ => []
  requests := []

/-- A segment goes on where the connection has stopped. -/
def Clients.Allows (s : Clients σ) : ClientEvent → Prop
  | .segment conn _ before _ _ _ _ => s.progress conn = before
  | _ => True

/-- What is to be sent on which connection: each request's response, to where
the request came from. -/
def Clients.answers (s : Clients σ) : List (Connection × List UInt8) :=
  List.zipWith (fun request call => (request.1, call.2)) s.requests s.server.calls

/-- Every request handed to BSMP is one of one connection, and all but a
response that still waits have been sent where they belong. -/
structure Clients.Isolated (s : Clients σ) : Prop where
  calls : s.server.calls.map Prod.fst = s.requests.map Prod.snd
  sends : s.server.sends = if s.server.newDataSend then s.answers.dropLast else s.answers

/-- A callback while a response waits is for the connection it belongs to; and
a segment does not come while a request of another connection is incomplete,
nor beyond what the buffer can hold of its request. -/
def Clients.Undisturbed (s : Clients σ) (e : ClientEvent) : Prop :=
  (s.server.newDataSend = true → (s.requests.getLast?.map Prod.fst) = some e.conn) ∧
    match e with
    | .segment conn _ before bytes _ _ _ =>
      (∀ other, other ≠ conn → s.progress other = []) ∧ before.length + bytes.length ≤ rxBufSize
    | _ => True

/-! ## The invariant -/

variable {s s' : Clients σ}

/-- What a segment in the buffer does not change. -/
structure Clients.Sound (s : Clients σ) : Prop where
  sys : FunctionsOnly s.server.sys
  isolated : s.Isolated
  sendable : s.server.Sendable
  pending : s.server.newDataSend = true →
    ∃ call, s.server.calls.getLast? = some call ∧ call.2 = s.server.pending

/-- The buffer holds what one connection has delivered, and the others nothing. -/
structure Clients.Inv (s : Clients σ) : Prop extends s.Sound where
  newMessage : s.server.newMessage = false
  held : ∃ conn, s.server.rxBuffer.held = s.progress conn ∧ ∀ other, other ≠ conn → s.progress other = []

theorem Clients.inv_powerUp (r : Routines σ) (world : World σ) : (Clients.powerUp r world).Inv where
  sys := by
    simp only [powerUp, Ethernet.powerUp]
    exact bsmpInit_functionsOnly r world
  newMessage := rfl
  held := ⟨0, rfl, fun _ _ => rfl⟩
  isolated := ⟨rfl, rfl⟩
  sendable h := Bool.noConfusion h
  pending h := Bool.noConfusion h

theorem Clients.Isolated.length (h : s.Isolated) : s.requests.length = s.server.calls.length := by
  simpa using (congrArg List.length h.calls).symm

/-- The response that waits is the last one to be sent. -/
theorem Clients.Sound.answers_last (h : s.Sound) (hd : s.server.newDataSend = true) {conn : Connection}
    (hconn : s.requests.getLast?.map Prod.fst = some conn) :
    s.answers = s.answers.dropLast ++ [(conn, s.server.pending)] := by
  obtain ⟨call, hcall, hpending⟩ := h.pending hd
  obtain ⟨request, hrequest, rfl⟩ := Option.map_eq_some_iff.mp hconn
  obtain ⟨rs, hrs⟩ := List.getLast?_eq_some_iff.mp hrequest
  obtain ⟨cs, hcs⟩ := List.getLast?_eq_some_iff.mp hcall
  have hlen := h.isolated.length
  rw [hrs, hcs, List.length_append, List.length_append] at hlen
  have hzip : s.answers = List.zipWith (fun request call => (request.1, call.2)) rs cs ++
      [(request.1, call.2)] := by
    rw [Clients.answers, hrs, hcs, List.zipWith_append (by simpa using hlen)]
    rfl
  rw [hzip, List.dropLast_concat, hpending]

/-- A callback sends the response that waits. -/
theorem Clients.Sound.flushed (h : s.Sound) {conn : Connection}
    (hconn : s.server.newDataSend = true → s.requests.getLast?.map Prod.fst = some conn) :
    Clients.Sound { s with server := s.server.flushed conn } := by
  cases hd : s.server.newDataSend with
  | false =>
    have hsame : s.server.flushed conn = s.server := by simp [Ethernet.flushed, hd]
    rw [hsame]
    exact h
  | true =>
    have hsent : s.server.flushed conn =
        { s.server with newDataSend := false, sends := s.server.sends ++ [(conn, s.server.pending)] } := by
      simp [Ethernet.flushed, hd]
    have hsends := h.isolated.sends
    rw [hd, if_pos rfl] at hsends
    rw [hsent]
    refine ⟨h.sys, ⟨h.isolated.calls, ?_⟩, fun h => Bool.noConfusion h, fun h => Bool.noConfusion h⟩
    simp only [hsends, Bool.false_eq_true, if_false]
    exact (h.answers_last hd (hconn hd)).symm

/-- A request is passed to BSMP, none waiting: its response waits, for its connection. -/
theorem Clients.Sound.processed (h : s.Sound) (hidle : s.server.newDataSend = false) {server : Ethernet σ}
    {conn : Connection} {request : List UInt8} (hsys : FunctionsOnly server.sys)
    (hwait : server.newDataSend = true) (hsendable : server.Sendable)
    (hsends : server.sends = s.server.sends)
    (hcalls : server.calls = s.server.calls ++ [(request, server.pending)])
    (progress : Connection → List UInt8) :
    Clients.Sound { server, progress, requests := s.requests ++ [(conn, request)] } := by
  have hlen := h.isolated.length
  have hsent := h.isolated.sends
  rw [hidle, if_neg (by simp)] at hsent
  refine ⟨hsys, ⟨?_, ?_⟩, hsendable, fun _ => ⟨_, by rw [hcalls, List.getLast?_concat], rfl⟩⟩
  · simp only [hcalls, List.map_append, h.isolated.calls]
    rfl
  · simp only [Clients.answers, hwait, if_true, hcalls, hsends, hsent]
    rw [List.zipWith_append hlen]
    exact (List.dropLast_concat).symm

/-! ## Steps -/

/-- If no other connection has an incomplete request, the buffer holds what this one has delivered. -/
theorem Clients.Inv.held_of_alone (h : s.Inv) {conn : Connection}
    (halone : ∀ other, other ≠ conn → s.progress other = []) : s.server.rxBuffer.held = s.progress conn := by
  obtain ⟨owner, hheld, hothers⟩ := h.held
  by_cases ho : conn = owner
  · rw [hheld, ho]
  · rw [hheld, halone owner (fun he => ho he.symm), hothers conn ho]

/-- A callback that brings no data. -/
theorem Clients.Inv.callback (h : s.Inv) (conn : Connection)
    (hconn : s.server.newDataSend = true → s.requests.getLast?.map Prod.fst = some conn) :
    httpdAppcall s.server conn none = .ok (s.server.flushed conn) ∧
      Clients.Inv { s with server := s.server.flushed conn } := by
  refine ⟨httpdAppcall_none h.sendable conn, ⟨h.toSound.flushed hconn, ?_, ?_⟩⟩
  · rw [← h.newMessage]
    exact flushed_newMessage _ _
  · obtain ⟨owner, hheld, hothers⟩ := h.held
    exact ⟨owner, by simpa using hheld, hothers⟩

theorem Clients.Inv.segment (h : s.Inv) (md5 : Md5) {conn : Connection} {m : WireMessage}
    {before bytes after : List UInt8} (split : m.bytes = before ++ bytes ++ after) (nonempty : bytes ≠ [])
    (hfits : before.length + bytes.length ≤ rxBufSize) (hgoes : s.progress conn = before)
    (hconn : s.server.newDataSend = true → s.requests.getLast?.map Prod.fst = some conn)
    (halone : ∀ other, other ≠ conn → s.progress other = []) :
    ∃ s', s.step md5 (.segment conn m before bytes after split nonempty) = .ok s' ∧ s'.Inv := by
  have hheld := h.held_of_alone halone
  rw [hgoes] at hheld
  have hroom : s.server.rxBuffer.index + bytes.length ≤ rxBufSize := by
    rw [← Buffer.held_length, hheld]
    exact hfits
  have hheld' : (s.server.rxBuffer.append bytes).held = before ++ bytes := by rw [Buffer.held_append, hheld]
  have hcomplete := WireMessage.complete_iff hheld' split
  have hcall := httpdAppcall_some h.sendable conn hroom
  have hsound : Clients.Sound { s with server := (s.server.received bytes).flushed conn } :=
    Clients.Sound.flushed (s := { s with server := s.server.received bytes })
      ⟨h.sys, ⟨h.isolated.calls, h.isolated.sends⟩, h.sendable, h.pending⟩ hconn
  by_cases hafter : after = []
  · -- The last byte: the request is complete.
    have hnew : ((s.server.received bytes).flushed conn).newMessage = true := by
      rw [flushed_newMessage]
      exact if_pos (hcomplete.mpr hafter)
    have hindex : ({ (s.server.received bytes).flushed conn with newMessage := false } :
        Ethernet σ).rxBuffer.index ≤ rxBufSize := by
      simp only [flushed_rxBuffer]
      exact hroom
    obtain ⟨server, hproc, hsys, hrecv, hmess, hwait, hsendable, hsends, hcalls⟩ :=
      ethernetProcessCmd_ok md5 (s := { (s.server.received bytes).flushed conn with newMessage := false })
        hsound.sys hindex
    have hrequest : ((s.server.received bytes).flushed conn).rxBuffer.held = m.bytes := by
      rw [flushed_rxBuffer, split, hafter, List.append_nil]
      exact hheld'
    simp only [hrequest] at hcalls
    refine ⟨{ server, progress := Function.update s.progress conn [],
              requests := s.requests ++ [(conn, m.bytes)] }, ?_,
      ⟨hsound.processed (flushed_newDataSend _ _) hsys hwait hsendable hsends hcalls _, hmess, conn, ?_, ?_⟩⟩
    · simp only [Clients.step, Ethernet.step, hcall, ok_bind, hnew, if_true, hproc, hafter]
      rfl
    · simp [hrecv]
    · intro other hne
      simpa [Function.update_of_ne hne] using halone other hne
  · have hnew : ((s.server.received bytes).flushed conn).newMessage = false := by
      rw [flushed_newMessage, ← h.newMessage]
      exact if_neg (fun hc => hafter (hcomplete.mp hc))
    refine ⟨{ s with
        server := (s.server.received bytes).flushed conn
        progress := Function.update s.progress conn (before ++ bytes) }, ?_,
      ⟨⟨hsound.sys, ⟨hsound.isolated.calls, hsound.isolated.sends⟩, hsound.sendable, hsound.pending⟩,
        hnew, conn, ?_, ?_⟩⟩
    · simp only [Clients.step, Ethernet.step, hcall, ok_bind, hnew, hafter, if_false, Bool.false_eq_true]
      rfl
    · simp only [flushed_rxBuffer, Function.update_self]
      exact hheld'
    · intro other hne
      simpa [Function.update_of_ne hne] using halone other hne

theorem Clients.Inv.step (h : s.Inv) (md5 : Md5) {e : ClientEvent} (hallow : s.Allows e)
    (hquiet : s.Undisturbed e) : ∃ s', s.step md5 e = .ok s' ∧ s'.Inv := by
  cases e with
  | segment conn m before bytes after split nonempty =>
    exact h.segment md5 split nonempty hquiet.2.2 hallow hquiet.1 hquiet.2.1
  | packet conn =>
    obtain ⟨hcall, hinv⟩ := h.callback conn hquiet.1
    refine ⟨_, ?_, hinv⟩
    simp only [Clients.step, Ethernet.step, hcall, ok_bind, flushed_newMessage, h.newMessage]
    rfl
  | periodic conn =>
    obtain ⟨hcall, hinv⟩ := h.callback conn hquiet.1
    refine ⟨_, ?_, hinv⟩
    simp only [Clients.step, Ethernet.step, hcall, ok_bind]
    rfl

/-! ## Several connections -/

/-- **Where connections are isolated.** Up to two clients, whose segments,
acknowledgements and timers come in any order. If no segment comes while a
request of another connection is incomplete, the first callback after a request
is for its connection, and no request outgrows the buffer, then every request
handed to BSMP is one of one connection, and its response is sent once,
unmodified and on that connection. -/
theorem ethernet_isolates (md5 : Md5) (r : Routines σ) (world : World σ) (evs : List ClientEvent)
    (h : Runs.Along (Clients.step md5) (fun s e => s.Allows e ∧ s.Undisturbed e) (.powerUp r world) evs) :
    ∃ s, Runs.run (Clients.step md5) (.powerUp r world) evs = .ok s ∧ s.Isolated := by
  obtain ⟨s, hrun, hinv⟩ := Runs.run_along (fun s e hs he => hs.step md5 he.1 he.2) evs
    (Clients.inv_powerUp r world) h
  exact ⟨s, hrun, hinv.isolated⟩

/-- The jig with routines that do nothing, and clients that have not sent anything. -/
def idleClients : Clients Unit := .powerUp idleRoutines { mem := fun _ => 0, app := () }

/-- The shortest request, in one segment. -/
def wholeRequest (conn : Connection) : ClientEvent :=
  .segment conn ⟨0, 0, 0, [], declared_nil⟩ [] [0, 0, 0] [] rfl (by decide)

/-- Two clients, the second one after the first has its response. -/
theorem wholeRequest_isolated : ∃ s, Runs.run (Clients.step byteSum) idleClients
      [wholeRequest 0, .periodic 0, wholeRequest 1, .periodic 1] = .ok s ∧ s.Isolated ∧
    s.server.sends = [(0, [1, 0, 3, 2, 20, 0]), (1, [1, 0, 3, 2, 20, 0])] := by
  obtain ⟨s, hs, hisolated⟩ := ethernet_isolates byteSum idleRoutines { mem := fun _ => 0, app := () }
    [wholeRequest 0, .periodic 0, wholeRequest 1, .periodic 1]
    ⟨⟨rfl, fun hd => Bool.noConfusion hd, fun _ _ => rfl, by decide⟩, fun s₁ hs₁ => by
      cases hs₁
      refine ⟨⟨trivial, fun _ => rfl, trivial⟩, fun s₂ hs₂ => ?_⟩
      cases hs₂
      refine ⟨⟨rfl, fun hd => Bool.noConfusion hd, fun other hne => ?_, by decide⟩, fun s₃ hs₃ => ?_⟩
      · match other with
        | 0 => rfl
        | 1 => exact absurd rfl hne
      · cases hs₃
        exact ⟨⟨trivial, fun _ => rfl, trivial⟩, fun _ _ => trivial⟩⟩
  refine ⟨s, hs, hisolated, ?_⟩
  cases hs
  rfl

/-- The response to connection 0 is sent on connection 1, whose timer comes first. -/
theorem response_crosses :
    (Runs.run (Clients.step byteSum) idleClients [wholeRequest 0, .periodic 1]).toOption.map
      (fun s => (s.server.sends, s.answers)) =
      some ([(1, [1, 0, 3, 2, 20, 0])], [(0, [1, 0, 3, 2, 20, 0])]) := by
  decide +kernel

/-! ## One connection -/

/-- The request of a segment fits `rx_buffer`. -/
def ClientEvent.Fits : ClientEvent → Prop
  | segment _ m _ _ _ _ _ => m.bytes.length ≤ rxBufSize
  | _ => True

/-- Only this connection has sent anything. -/
structure Clients.Alone (conn : Connection) (s : Clients σ) : Prop where
  requests : ∀ request ∈ s.requests, request.1 = conn
  progress : ∀ other, other ≠ conn → s.progress other = []

theorem Clients.Alone.undisturbed {conn : Connection} (h : s.Alone conn) (hinv : s.Inv) {e : ClientEvent}
    (he : e.conn = conn) (hfits : e.Fits) : s.Undisturbed e := by
  constructor
  · intro hd
    obtain ⟨call, hcall, -⟩ := hinv.pending hd
    obtain ⟨cs, hcs⟩ := List.getLast?_eq_some_iff.mp hcall
    have hlen := hinv.isolated.length
    rw [hcs, List.length_append, List.length_singleton] at hlen
    have hne : s.requests ≠ [] := List.ne_nil_of_length_eq_add_one hlen
    rw [List.getLast?_eq_some_getLast hne, Option.map_some, h.requests _ (List.getLast_mem hne), he]
  · cases e with
    | segment c m before bytes after split nonempty =>
      cases he
      have hlen := congrArg List.length split
      have hle : m.bytes.length ≤ rxBufSize := hfits
      simp only [List.length_append] at hlen
      exact ⟨h.progress, by omega⟩
    | packet | periodic => trivial

theorem Clients.Alone.step {conn : Connection} (h : s.Alone conn) {e : ClientEvent} (he : e.conn = conn)
    (hs : s.step md5 e = .ok s') : s'.Alone conn := by
  cases e with
  | segment c m before bytes after split nonempty =>
    have hc : c = conn := he
    subst hc
    have hothers : ∀ bs other, other ≠ c → Function.update s.progress c bs other = [] := by
      intro bs other hne
      rw [Function.update_of_ne hne, h.progress other hne]
    obtain ⟨server, -, hs'⟩ := bind_ok_iff.mp hs
    by_cases hafter : after = []
    · rw [if_pos hafter] at hs'
      cases hs'
      refine ⟨fun request hr => ?_, hothers []⟩
      rcases List.mem_append.mp hr with hold | hnew
      · exact h.requests request hold
      · rw [List.mem_singleton.mp hnew]
    · rw [if_neg hafter] at hs'
      cases hs'
      exact ⟨h.requests, hothers _⟩
  | packet c | periodic c =>
    obtain ⟨server, -, hs'⟩ := bind_ok_iff.mp hs
    cases hs'
    exact ⟨h.requests, h.progress⟩

/-- **Ethernet reassembly.** On a single connection, for every sequence of
requests that fit the buffer, every division of each into segments, and timers and
acknowledgements anywhere between: BSMP has been handed the requests whose last
byte has arrived, each once, in order and unmodified. -/
theorem ethernet_reassembles (md5 : Md5) (r : Routines σ) (world : World σ) (conn : Connection)
    (evs : List ClientEvent) (hconn : ∀ e ∈ evs, e.conn = conn) (hfits : ∀ e ∈ evs, e.Fits)
    (h : Runs.Along (Clients.step md5) Clients.Allows (.powerUp r world) evs) :
    ∃ s, Runs.run (Clients.step md5) (.powerUp r world) evs = .ok s ∧
      s.server.calls.map Prod.fst = s.requests.map Prod.snd := by
  have hinit : (Clients.powerUp r world).Inv ∧ (Clients.powerUp r world).Alone conn :=
    ⟨Clients.inv_powerUp r world, by simp [Clients.powerUp], fun _ _ => rfl⟩
  have hstep : ∀ (s : Clients σ) e, s.Inv ∧ s.Alone conn → (s.Allows e ∧ e.conn = conn) ∧ e.Fits →
      ∃ s', s.step md5 e = .ok s' ∧ s'.Inv ∧ s'.Alone conn := by
    rintro s e ⟨hinv, halone⟩ ⟨⟨hallow, hc⟩, hfit⟩
    obtain ⟨s', hs', hinv'⟩ := hinv.step md5 hallow (halone.undisturbed hinv hc hfit)
    exact ⟨s', hs', hinv', halone.step hc hs'⟩
  obtain ⟨s, hrun, hinv, -⟩ := Runs.run_along hstep evs hinit ((h.and_mem hconn).and_mem hfits)
  exact ⟨s, hrun, hinv.isolated.calls⟩

/-- A request of five bytes, in two segments. -/
def cutRequest : List ClientEvent :=
  [.segment 0 ⟨1, 0, 2, [7, 9], rfl⟩ [] [1, 0] [2, 7, 9] rfl (by decide), .periodic 0,
    .segment 0 ⟨1, 0, 2, [7, 9], rfl⟩ [1, 0] [2, 7, 9] [] rfl (by decide)]

theorem cutRequest_reassembled : ∃ s, Runs.run (Clients.step byteSum) idleClients cutRequest = .ok s ∧
    s.server.calls.map Prod.fst = s.requests.map Prod.snd := by
  have hprogress : (Runs.run (Clients.step byteSum) idleClients (cutRequest.take 2)).toOption.map
      (fun s => s.progress 0) = some [1, 0] := by decide +kernel
  refine ethernet_reassembles byteSum idleRoutines _ 0 cutRequest (by decide) ?_ ?_
  · intro e he
    simp only [cutRequest, List.mem_cons, List.not_mem_nil, or_false] at he
    rcases he with rfl | rfl | rfl
    · exact (by decide : 5 ≤ rxBufSize)
    · trivial
    · exact (by decide : 5 ≤ rxBufSize)
  · have hfirst : Runs.Along (Clients.step byteSum) Clients.Allows idleClients (cutRequest.take 2) :=
      ⟨rfl, fun _ _ => ⟨trivial, fun _ _ => trivial⟩⟩
    refine Runs.along_append hfirst ?_
    intro s hs
    have hs' : Runs.run (Clients.step byteSum) idleClients (cutRequest.take 2) = .ok s := hs
    rw [hs'] at hprogress
    exact ⟨Option.some.inj hprogress, fun _ _ => trivial⟩

end UdcFirmware.Drivers
