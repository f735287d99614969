import JetSocket.Transport.Connect
import JetSocket.Transport.Receive

/- The addresses that `AsyncTransport.connect` tries (`transport/_async.py`). The loop goes on
   behind an `OSError`. `_connect_to_address` makes of a timeout the `TimeoutError` of
   `exceptions.py`, which is none, so the loop ends there and the addresses left are not tried.

   Correspondence (Python ↔ Lean):
     the address loop, with what it tries ↔ `dialLoop`
     `connect`, behind the loop           ↔ `perform`

   What is proved:
     1. `tryAddresses_eq`, `connect_eq` — `dialLoop` is the loop, `perform` what follows it.
     2. `dialLoop_tries_iff` — for every list of addresses, the first that connects is found,
        or all are tried, exactly when none that times out has others behind it.
     3. `connect_tries_iff` — the same, of `connect`. -/
namespace JetSocket.Transport

variable {Z : Zlib}

/-- The address loop: the address it connects with or what it raises, and those it tries. -/
def dialLoop (u : WebSocketURI) (dial : Address → Dial) :
    Option String → List Address → Except Exc Address × List Address
  | lastError, [] =>
    let msg := s!"Failed to connect to {u.host}:{u.port}"
    (.error (.connectionError (match lastError with
      | some text => s!"{msg}: {text}"
      | none => msg)), [])
  | _, address :: rest =>
    match dial address with
    | .connected => (.ok address, [address])
    | .timedOut =>
      (.error (.timeoutError s!"Connection to {address.2}:{u.port} timed out" "connect"), [address])
    | .osError text =>
      let r := dialLoop u dial (some text) rest
      (r.1, address :: r.2)
    | .raised e => (.error e, [address])

theorem tryAddresses_eq (u : WebSocketURI) (dial : Address → Dial) (lastError : Option String)
    (addresses : List Address) : tryAddresses u dial lastError addresses =
      (dialLoop u dial lastError addresses).1.map (fun _ => ()) := by
  induction addresses generalizing lastError with
  | nil => rfl
  | cons address rest ih =>
    unfold tryAddresses dialLoop
    cases dial address with
    | connected | timedOut | raised => rfl
    | osError text => exact ih (some text)

/-- `connect`, once a socket is open: the handshake, and what it leads to. -/
def AsyncTransport.perform (acceptKey : String → String) (config : HandshakeConfig) (key : String)
    (u : WebSocketURI) (net : Network) (t : AsyncTransport Z) : AsyncTransport Z × ConnectEnd :=
  let h := handshake config key u
  let t := (t.beginHandshake h.buildRequest).answered net.response
  match performHandshake Z acceptKey config h net.response with
  | .error e => (t.closeTransport, .raised e)
  | .ok deflater =>
    match t.finishConnect deflater net.keys with
    | (t, none) => (t, .connected)
    | (t, some e) => (t, .aborted e)

section Connect
variable {urlparse : UrlParse} {acceptKey : String → String} {config : HandshakeConfig}
  {key uri : String} {net : Network} {t : AsyncTransport Z} {u : WebSocketURI}
  {addresses : List Address}

/-- **connect**, with the loop in the middle. -/
theorem connect_eq (hc : t.connected = false) (hu : parseUri urlparse uri = .ok u)
    (hl : resolveDns u.host net.lookup = .ok addresses) :
    t.connect urlparse acceptKey config key uri net =
      match (dialLoop u net.dial none addresses).1 with
      | .ok _ => t.perform acceptKey config key u net
      | .error e => (t, .raised e) := by
  unfold AsyncTransport.connect
  simp only [hc, hu, hl, Except.bind, Bool.false_eq_true, if_false, tryAddresses_eq]
  cases (dialLoop u net.dial none addresses).1 with
  | error e => rfl
  | ok address => rfl

end Connect

/-! ## The loop -/

/-- `address` connects. -/
def connects (dial : Address → Dial) (address : Address) : Bool := dial address = .connected

/-- The loop finds the first address that connects, or tries them all and raises. -/
def Tries (u : WebSocketURI) (dial : Address → Dial) (lastError : Option String)
    (addresses : List Address) : Prop :=
  match addresses.find? (connects dial) with
  | some address => (dialLoop u dial lastError addresses).1 = .ok address
  | none => (∃ e, (dialLoop u dial lastError addresses).1 = .error e) ∧
      (dialLoop u dial lastError addresses).2 = addresses

/-- An address that times out before another connects is the last one. -/
def TimesOutLast (dial : Address → Dial) (addresses : List Address) : Prop :=
  ∀ front address rest, addresses = front ++ address :: rest → dial address = .timedOut →
    (∀ b ∈ front, connects dial b = false) → rest = []

/-- Each address connects, fails with an `OSError`, or times out. -/
def Plain (dial : Address → Dial) (addresses : List Address) : Prop :=
  ∀ address ∈ addresses, ∀ e, dial address ≠ .raised e

section Loop
variable {u : WebSocketURI} {dial : Address → Dial} {address : Address} {rest : List Address}

theorem timesOutLast_connected (h : connects dial address = true) :
    TimesOutLast dial (address :: rest) := by
  intro front a rest' heq hout hfront
  cases front with
  | nil =>
    obtain ⟨rfl, -⟩ := List.cons.inj heq
    rw [connects, hout] at h
    cases h
  | cons b front =>
    obtain ⟨rfl, -⟩ := List.cons.inj heq
    exact absurd h (by simp [hfront address List.mem_cons_self])

theorem timesOutLast_timedOut (h : dial address = .timedOut) :
    TimesOutLast dial (address :: rest) ↔ rest = [] := by
  constructor
  · intro hlast
    exact hlast [] address rest rfl h (fun b hb => by cases hb)
  · rintro rfl front a rest' heq - -
    have hlength := congrArg List.length heq
    simp only [List.length_append, List.length_cons, List.length_nil] at hlength
    exact List.length_eq_zero_iff.mp (by omega)

theorem timesOutLast_skip (hc : connects dial address = false) (ht : dial address ≠ .timedOut) :
    TimesOutLast dial (address :: rest) ↔ TimesOutLast dial rest := by
  constructor
  · intro hlast front a rest' heq hout hfront
    apply hlast (address :: front) a rest' (congrArg (address :: ·) heq) hout
    exact List.forall_mem_cons.mpr ⟨hc, hfront⟩
  · intro hlast front a rest' heq hout hfront
    cases front with
    | nil =>
      obtain ⟨rfl, -⟩ := List.cons.inj heq
      exact absurd hout ht
    | cons b front =>
      obtain ⟨-, heq⟩ := List.cons.inj heq
      exact hlast front a rest' heq hout (fun b hb => hfront b (List.mem_cons_of_mem _ hb))

/-- The loop goes on with no other address than the first that connects. -/
theorem dialLoop_ok {addresses : List Address} {lastError : Option String}
    (h : (dialLoop u dial lastError addresses).1 = .ok address) :
    addresses.find? (connects dial) = some address := by
  induction addresses generalizing lastError with
  | nil => cases h
  | cons a rest ih =>
    unfold dialLoop at h
    cases hd : dial a with
    | connected =>
      have hc : connects dial a = true := decide_eq_true hd
      simp only [hd] at h
      rw [List.find?_cons_of_pos hc, Except.ok.inj h]
    | osError text =>
      simp only [hd] at h
      rw [List.find?_cons_of_neg (by simp [connects, hd])]
      exact ih h
    | timedOut | raised =>
      simp only [hd] at h
      cases h

/-- **The loop** finds the first address that connects, or tries them all, exactly when none that
times out has others behind it. -/
theorem dialLoop_tries_iff {addresses : List Address} (hp : Plain dial addresses)
    (lastError : Option String) :
    Tries u dial lastError addresses ↔ TimesOutLast dial addresses := by
  induction addresses generalizing lastError with
  | nil =>
    refine iff_of_true ⟨⟨_, rfl⟩, rfl⟩ (fun front a rest heq => ?_)
    exact absurd heq.symm (List.append_ne_nil_of_right_ne_nil front (List.cons_ne_nil a rest))
  | cons address rest ih =>
    have hrest := ih (fun a ha => hp a (List.mem_cons_of_mem address ha))
    unfold Tries
    cases hd : dial address with
    | connected =>
      have hc : connects dial address = true := decide_eq_true hd
      refine iff_of_true ?_ (timesOutLast_connected hc)
      rw [List.find?_cons_of_pos hc]
      simp only [dialLoop, hd]
    | timedOut =>
      -- the loop is over: it has done its part only if no address is left
      have hc : connects dial address = false := by simp [connects, hd]
      rw [timesOutLast_timedOut hd, List.find?_cons_of_neg (by simp [hc])]
      simp only [dialLoop, hd]
      cases hfind : rest.find? (connects dial) with
      | some a =>
        refine iff_of_false (fun h => by cases h) ?_
        rintro rfl
        cases hfind
      | none =>
        constructor
        · rintro ⟨-, htried⟩
          exact (List.cons.inj htried).2.symm
        · rintro rfl
          exact ⟨⟨_, rfl⟩, rfl⟩
    | osError text =>
      -- the loop goes on, with another text for the end
      have hc : connects dial address = false := by simp [connects, hd]
      rw [timesOutLast_skip hc (by simp [hd]), ← hrest (some text),
        List.find?_cons_of_neg (by simp [hc])]
      unfold Tries
      simp only [dialLoop, hd, List.cons.injEq, true_and]
    | raised e => exact absurd hd (hp address List.mem_cons_self e)

end Loop

/-! ## connect -/

/-- `connect` makes the handshake with the first address that connects, or raises with all of
them tried. -/
def TriesEvery (urlparse : UrlParse) (acceptKey : String → String) (config : HandshakeConfig)
    (key uri : String) (net : Network) (t : AsyncTransport Z) (u : WebSocketURI)
    (addresses : List Address) : Prop :=
  match addresses.find? (connects net.dial) with
  | some address =>
    (dialLoop u net.dial none addresses).1 = .ok address ∧
      t.connect urlparse acceptKey config key uri net = t.perform acceptKey config key u net
  | none =>
    (∃ e, t.connect urlparse acceptKey config key uri net = (t, .raised e)) ∧
      (dialLoop u net.dial none addresses).2 = addresses

/-- **Every address is tried** exactly when none that times out has others behind it. -/
theorem connect_tries_iff (urlparse : UrlParse) (acceptKey : String → String)
    (config : HandshakeConfig) (key uri : String) (net : Network) (t : AsyncTransport Z)
    {u : WebSocketURI} {addresses : List Address} (hc : t.connected = false)
    (hu : parseUri urlparse uri = .ok u) (hl : resolveDns u.host net.lookup = .ok addresses)
    (hp : Plain net.dial addresses) :
    TriesEvery urlparse acceptKey config key uri net t u addresses ↔
      TimesOutLast net.dial addresses := by
  have hloop := dialLoop_tries_iff (u := u) hp none
  rw [← hloop]
  unfold TriesEvery Tries
  rw [connect_eq hc hu hl]
  cases hfind : addresses.find? (connects net.dial) with
  | some address =>
    constructor
    · exact And.left
    · intro hfound
      exact ⟨hfound, by rw [hfound]⟩
  | none =>
    have hraises : ∃ e, (dialLoop u net.dial none addresses).1 = .error e := by
      cases hresult : (dialLoop u net.dial none addresses).1 with
      | error e => exact ⟨e, rfl⟩
      | ok address =>
        rw [dialLoop_ok hresult] at hfind
        cases hfind
    obtain ⟨e, he⟩ := hraises
    rw [he]
    exact and_congr_left (fun _ => iff_of_true ⟨e, rfl⟩ ⟨e, rfl⟩)

/-- One address, and a server that refuses the handshake. -/
def refusing (dial : Address → Dial) (addresses : List Address) : Network :=
  { lookup := .resolved addresses, dial, response := .timedOut, keys := fun _ => ⟨0, 0, 0, 0⟩ }

/-- A URI that is `ws://example.com/`, however it is spelled. -/
def exampleParse : UrlParse := fun _ =>
  .ok { scheme := "ws", hostname := some "example.com", port := .ok none, path := "/", query := "",
        fragment := "", username := none, password := none }

/-- No compression, no subprotocols. -/
def bareHandshake : HandshakeConfig :=
  { compression := false, origin := none, subprotocols := [], extraHeaders := [] }

/-- The first of three addresses refuses, the second answers, the third would time out. -/
def secondAnswers (address : Address) : Dial :=
  if address = (10, "2001:db8::1") then .osError "[Errno 111] Connect call failed"
  else if address = (2, "192.0.2.1") then .connected
  else .timedOut

/-- The second is found. -/
theorem connect_tries_three :
    let addresses : List Address := [(10, "2001:db8::1"), (2, "192.0.2.1"), (2, "192.0.2.2")]
    let u : WebSocketURI := ⟨.ws, "example.com", 80, "/", none, none, none⟩
    let t := AsyncTransport.new plainZlib ⟨.little, 1024, 4096, false⟩
    TriesEvery exampleParse id bareHandshake "key" "ws://example.com/"
        (refusing secondAnswers addresses) t u addresses ∧
      (dialLoop u secondAnswers none addresses).2 = [(10, "2001:db8::1"), (2, "192.0.2.1")] := by
  intro addresses u t
  have hplain : Plain secondAnswers addresses := by
    intro address hmem e h
    unfold secondAnswers at h
    split at h
    · cases h
    · split at h <;> cases h
  have hlast : TimesOutLast secondAnswers addresses :=
    (timesOutLast_skip (by decide) (by decide)).mpr (timesOutLast_connected (by decide))
  refine ⟨?_, by decide⟩
  exact (connect_tries_iff exampleParse id bareHandshake "key" "ws://example.com/"
    (refusing secondAnswers addresses) t rfl (by decide) (by decide) hplain).mpr hlast

/-- The first address times out; the second would connect. -/
def slowFirst (address : Address) : Dial := if address.1 = 10 then .timedOut else .connected

/-- It is never tried. -/
theorem second_not_tried :
    let net := refusing slowFirst [(10, "2001:db8::1"), (2, "192.0.2.1")]
    let u : WebSocketURI := ⟨.ws, "example.com", 80, "/", none, none, none⟩
    let t := AsyncTransport.new plainZlib ⟨.little, 1024, 4096, false⟩
    (t.connect exampleParse id bareHandshake "key" "ws://example.com/" net).2 =
        .raised (.timeoutError "Connection to 2001:db8::1:80 timed out" "connect") ∧
      (dialLoop u slowFirst none [(10, "2001:db8::1"), (2, "192.0.2.1")]).2 =
        [(10, "2001:db8::1")] ∧
      ¬ TriesEvery exampleParse id bareHandshake "key" "ws://example.com/" net t u
        [(10, "2001:db8::1"), (2, "192.0.2.1")] := by
  refine ⟨by decide, by decide, fun h => ?_⟩
  cases h.1

end JetSocket.Transport
