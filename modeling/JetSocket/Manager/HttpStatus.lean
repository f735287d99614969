import JetSocket.Manager.Scheduling
import JetSocket.Transport.StatusLine

/- What an HTTP status other than 101 does to the client.

   `_is_fatal_error` reads the status from the `HandshakeError`, and the transport raises
   every one of them without a status (`connect_refused`): each is retried.

   Results:
     `status_heeded_iff` — a status has the effect it should exactly when it is not a fatal one
                           and, where a retry is due, the delay can be computed.
     `unauthorized_retried` — 401 is retried. -/
namespace JetSocket.Manager
open JetSocket.Core JetSocket.Transport TaskPool Transition

/-- `_FATAL_HTTP_CODES`. -/
def fatalHttpCodes : List Int := [401, 403, 404, 410]

/-- What a refusal with this status owes when the attempt is over: `w₀` is the object before
`transport.connect` ended, `w` the object afterwards, and `p` where the task stands. -/
structure HeedsStatus (w₀ w : WebSocket) (p : Point) (status : Int) : Prop where
  fatal : status ∈ fatalHttpCodes → w.state = .failed ∧ p = .done true
  retried : status ∉ fatalHttpCodes → w₀.backoff.exhausted = false →
    w.state = .backingOff ∧ ∃ delay, p = .sleeping delay

/-- The transport got as far as a response with this status. -/
structure Answers (urlparse : UrlParse) (uri : String) (net : Network) (status : Int) : Prop where
  uri : ∃ u, parseUri urlparse uri = .ok u ∧
    (resolveDns u.host net.lookup).bind (tryAddresses u net.dial none) = .ok ()
  response : ∃ data later, net.response = .received data later ∧ statusOf data = some status

section Stages
variable {w₀ w : WebSocket} {k : Nat} {kind : Kind}

/-- Where an attempt is behind an error that is retried. -/
inductive Retries (w₀ : WebSocket) : WebSocket → Point → Prop
  | error {w : WebSocket} {e : Exc} (hf : isFatalError e = false) (hsame : Same w₀ w) :
      Retries w₀ w (.errorEmit e)
  | schedules {w : WebSocket} {p : Point} (h : Schedules w₀ w p) : Retries w₀ w p

theorem retries_resume (hrec : w₀.settings.reconnect = true) {p : Point} (h : Retries w₀ w p)
    (hover : p.attemptOver = false) {m : Move} (hm : w.resume k p = some m) :
    Retries w₀ m.ws (AsyncTask.settle k kind m).point := by
  cases h with
  | error hf hsame =>
    obtain rfl := Option.some.inj hm
    unfold WebSocket.afterError
    rw [if_neg (by simp [hf]), if_pos (by rw [hsame.1]; exact hrec)]
    exact .schedules (scheduleReconnect_schedules hsame)
  | schedules h => exact .schedules (schedules_resume h hover hm)

/-- The attempt that was refused, to its end. -/
theorem retries_settles {c c' : Client} {t : AsyncTask} (hrec : w₀.settings.reconnect = true)
    (ht : c.tasks[k]? = some t) (h : Retries w₀ c.shared t.point) (hend : Settles k c c') :
    ∃ t', c'.tasks[k]? = some t' ∧ t'.point.attemptOver = true ∧ Schedules w₀ c'.shared t'.point := by
  obtain ⟨t', ht', hover, hstage⟩ := settles_rule (S := Retries w₀)
    (fun w p kind m hS hp hm => retries_resume hrec hS hp hm)
    (fun w p hS hp => by
      cases hS with
      | error => exact ⟨rfl, rfl⟩
      | schedules h => exact h.free hp)
    (fun w w' p hs hse hb hS => by
      cases hS with
      | error hf hsame => exact .error hf ⟨hse.trans hsame.1, hb.trans hsame.2⟩
      | schedules h => exact .schedules (h.of_eq hs hse hb))
    ht h hend
  refine ⟨t', ht', hover, ?_⟩
  generalize t'.point = p at hstage hover
  cases hstage with
  | error => cases hover
  | schedules h => exact h

end Stages

/-- **What a status does.** For every response, the status has the effect it should exactly
when it is not fatal and, where a retry is due, the delay can be computed. -/
theorem status_heeded_iff (Z : Zlib) (config : TransportConfig) (urlparse : UrlParse)
    (acceptKey : String → String) (handshake : HandshakeConfig) (key uri : String) (net : Network)
    {status : Int} (ha : Answers urlparse uri net status) (hne : status ≠ 101) {c c₁ c' : Client}
    {k : Nat} {t' : AsyncTask} (hrec : c.shared.settings.reconnect = true)
    (hs : c.step (.attempt k (connectEnd Z config urlparse acceptKey handshake key uri net)) =
      some c₁) (hend : Settles k c₁ c') (ht' : c'.tasks[k]? = some t') :
    HeedsStatus c.shared c'.shared t'.point status ↔
      status ∉ fatalHttpCodes ∧ (c.shared.backoff.exhausted = true ∨ DelayFits c.shared) := by
  obtain ⟨u, hu, hd⟩ := ha.uri
  obtain ⟨data, later, hr, hstatus⟩ := ha.response
  obtain ⟨msg, hmsg⟩ : ∃ msg, connectEnd Z config urlparse acceptKey handshake key uri net =
      .raised (.handshakeError msg none) :=
    connect_refused rfl hu hd hr hstatus hne
  rw [hmsg] at hs
  obtain ⟨t, ht, hfirst⟩ : ∃ t, c₁.tasks[k]? = some t ∧ Retries c.shared c₁.shared t.point := by
    obtain ⟨u, m, hu, -, hm, rfl⟩ := Client.reacts_of_step rfl (fun h => by cases h) hs
    have hk : k < c.tasks.length := (List.getElem?_eq_some_iff.mp hu).1
    refine Client.exists_run_self (Q := Retries c.shared) hk ?_
    generalize u.point = p at hm
    cases hm with
    | refused _ l | unreached _ l =>
      rw [settle_eq (fun h => by cases h)]
      exact .error rfl ⟨rfl, rfl⟩
  obtain ⟨t'', ht'', hover, hstage⟩ := retries_settles hrec ht hfirst hend
  obtain rfl := Option.some.inj (ht''.symm.trans ht')
  rcases hstage.over hover with ⟨hx, hst, hp⟩ | ⟨hx, hd, hst, hp⟩ | ⟨hx, hd, hst, d, hp, -⟩
  · constructor
    · refine fun h => ⟨fun hf => ?_, .inl hx⟩
      have hdone := (h.fatal hf).2
      rw [hp] at hdone
      cases hdone
    · refine fun h => ⟨fun hf => (h.1 hf).elim, fun _ hx' => ?_⟩
      rw [hx] at hx'
      cases hx'
  · constructor
    · refine fun h => ⟨fun hf => ?_, .inr ?_⟩
      · have hfailed := (h.fatal hf).1
        rw [hst] at hfailed
        cases hfailed
      · by_cases hf : status ∈ fatalHttpCodes
        · have hfailed := (h.fatal hf).1
          rw [hst] at hfailed
          cases hfailed
        · have hback := (h.retried hf hx).1
          rw [hst] at hback
          cases hback
    · rintro ⟨-, hx' | hd'⟩
      · rw [hx] at hx'
        cases hx'
      · exact (hd hd').elim
  · constructor
    · refine fun h => ⟨fun hf => ?_, .inr hd⟩
      have hfailed := (h.fatal hf).1
      rw [hst] at hfailed
      cases hfailed
    · exact fun h => ⟨fun hf => (h.1 hf).elim, fun _ _ => ⟨hst, d, hp⟩⟩

/-! ## Two responses -/

/-- A server that answers with this status line. -/
def answering (statusLine : String) : Network :=
  { lookup := .resolved [(2, "192.0.2.1")], dial := fun _ => .connected,
    response := .received (encodeUtf8 (statusLine ++ "\r\n\r\n")) [], keys := fun _ => ⟨0, 0, 0, 0⟩ }

/-- `transport.connect`, answered so. -/
def refusedWith (statusLine : String) : ConnectEnd :=
  connectEnd plainZlib ⟨.little, 1024, 4096, false⟩ (exampleUrl "ws") id plainHandshake "key"
    "ws://example.com/ws" (answering statusLine)

/-- The first task waits for the response. -/
def inHandshake : Client :=
  (exec Client.step (Client.init plainSettings plainBackoff)
    [.connect, .resume 0, .resume 0, .opened 0]).getD (Client.init plainSettings plainBackoff)

theorem refusedWith_unavailable : refusedWith "HTTP/1.1 503 Service Unavailable" =
    .raised (.handshakeError "HTTP 503: Service Unavailable" none) := by
  decide +kernel

theorem refusedWith_unauthorized : refusedWith "HTTP/1.1 401 Unauthorized" =
    .raised (.handshakeError "HTTP 401: Unauthorized" none) := by
  decide +kernel

/-- Behind such an error, the attempt is over when another one is scheduled. -/
theorem settles_inHandshake (msg : String) : ∃ c₁ c' t',
    inHandshake.step (.attempt 0 (.raised (.handshakeError msg none))) = some c₁ ∧
      Settles 0 c₁ c' ∧ c'.tasks[0]? = some t' ∧ c'.shared.state = .backingOff := by
  refine ⟨_, _, _, rfl, .own rfl rfl rfl rfl (.own rfl rfl rfl rfl (.own rfl rfl rfl rfl
    (.own rfl rfl rfl rfl (.ended rfl rfl)))), rfl, rfl⟩

/-- 503: another attempt is scheduled. -/
theorem status_heeded_unavailable : ∃ c₁ c' t',
    inHandshake.step (.attempt 0 (refusedWith "HTTP/1.1 503 Service Unavailable")) = some c₁ ∧
      Settles 0 c₁ c' ∧ c'.tasks[0]? = some t' ∧
        HeedsStatus inHandshake.shared c'.shared t'.point 503 := by
  have ha : Answers (exampleUrl "ws") "ws://example.com/ws"
      (answering "HTTP/1.1 503 Service Unavailable") 503 :=
    ⟨⟨_, rfl, by decide +kernel⟩, _, _, rfl, by decide +kernel⟩
  obtain ⟨c₁, c', t', hs, hend, ht', -⟩ := settles_inHandshake "HTTP 503: Service Unavailable"
  rw [← refusedWith_unavailable] at hs
  exact ⟨c₁, c', t', hs, hend, ht', (status_heeded_iff plainZlib ⟨.little, 1024, 4096, false⟩
    (exampleUrl "ws") id plainHandshake "key" "ws://example.com/ws"
    (answering "HTTP/1.1 503 Service Unavailable") ha (by decide) rfl hs hend ht').mpr
    ⟨by decide, .inr rfl⟩⟩

/-- 401: another attempt is scheduled, too. -/
theorem unauthorized_retried : ¬ ∀ (c₁ c' : Client) (t' : AsyncTask),
    inHandshake.step (.attempt 0 (refusedWith "HTTP/1.1 401 Unauthorized")) = some c₁ →
      Settles 0 c₁ c' → c'.tasks[0]? = some t' →
        HeedsStatus inHandshake.shared c'.shared t'.point 401 := by
  rw [refusedWith_unauthorized]
  intro h
  obtain ⟨c₁, c', t', hs, hend, ht', hstate⟩ := settles_inHandshake "HTTP 401: Unauthorized"
  have hfailed := ((h c₁ c' t' hs hend ht').fatal (by decide)).1
  rw [hstate] at hfailed
  cases hfailed

end JetSocket.Manager
