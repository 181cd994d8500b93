import RemoteScreen.Fetch.Fetcher
import RemoteScreen.Proofs.Payload.Decode
import RemoteScreen.Proofs.Session.Images
import RemoteScreen.Proofs.Session.Reports

/-! Fetching comes to an end whatever becomes of the request: there is always a response, and what
the result says, what is raised without a fallback, and what is reported tell the same story. -/
namespace RemoteScreen

/-- Why there is no payload, as the outcome of the request says. -/
inductive Explains (endpoint : String) : Except String Reply → FetchError → Prop where
  | unreachable (reason : String) : Explains endpoint (.error reason) (.unreachable endpoint reason)
  | status {r : Reply} (h : r.isSuccess = false) :
      Explains endpoint (.ok r) (.status endpoint r.status)
  | undecodable {r : Reply} {e : Payload.Rejection} (h : r.isSuccess = true)
      (hbody : Payload.decodeOctets r.body = .error e) : Explains endpoint (.ok r) (.undecodable e)

theorem Explains.not_decoded {endpoint : String} {outcome : Except String Reply} {e : FetchError}
    (h : Explains endpoint outcome e) {r : Reply} (hr : outcome = .ok r)
    (hsuccess : r.isSuccess = true) (response : Response) : Payload.decodeOctets r.body ≠ .ok response := by
  cases h with
  | unreachable => simp at hr
  | status hfailed =>
    obtain rfl := Except.ok.inj hr
    simp [hsuccess] at hfailed
  | undecodable _ hbody =>
    obtain rfl := Except.ok.inj hr
    simp [hbody]

theorem Explains.statusCode {endpoint : String} {outcome : Except String Reply} {e : FetchError}
    (h : Explains endpoint outcome e) :
    (∀ r, outcome = .ok r → r.isSuccess = false → e.statusCode? = some r.status) ∧
      ∀ reason, outcome = .error reason → e.statusCode? = none := by
  cases h with
  | unreachable => simp [FetchError.statusCode?]
  | status => simp [FetchError.statusCode?]
  | undecodable hsuccess => simp [hsuccess]

/-- What a fetch reports, in order: the time it took, and then that there is a payload, or why there
is none. -/
def Fetcher.reports (f : Fetcher) (time : Float) : Except FetchError Response → List Notice
  | .ok response => [.metric ⟨"fetch.duration_ms", time, []⟩,
      .line ⟨.info, partLogger "fetch", s!"Fetched {response.size} components from {f.endpoint}"⟩]
  | .error e => [.metric ⟨"fetch.duration_ms", time, []⟩,
      .line ⟨.warning, partLogger "fetch",
        s!"Fetch failed ({e.message}); using fallback components"⟩,
      .event ⟨"fetch.fallback", [("reason", .text (Failure.fetch e).kind)]⟩]

theorem Reply.isSuccess_iff (r : Reply) : r.isSuccess = true ↔ 200 ≤ r.status ∧ r.status < 300 := by
  simp [Reply.isSuccess]

namespace Session

variable {υ α β : Type} {s u : Session υ} {f : Fetcher}

/-! A request -/

/-- A step that does nothing but ask for URLs. -/
inductive Exchanges : {α : Type} → Act υ α → Prop where
  | pure {α : Type} (a : α) : Exchanges (pure a : Act υ α)
  | fail {α : Type} (e : Failure) : Exchanges (fail e : Act υ α)
  | ask (url : Url) : Exchanges (ask url)
  | bind {α β : Type} {m : Act υ α} {k : α → Act υ β} (hm : Exchanges m)
      (hk : ∀ a, Exchanges (k a)) : Exchanges (m >>= k)

theorem exchanges_leg (f : Fetcher) (url : Url) : Exchanges (leg f url : Act υ Leg) := by
  unfold leg
  split
  · exact .pure _
  · refine .bind (.ask url) fun exchange => ?_
    split
    · exact .pure _
    · exact .fail _
    · split
      · exact .fail _
      · split
        · exact .pure _
        · exact .pure _
        · exact .pure _
        · exact .fail _
        · exact .pure _

theorem exchanges_retrieve (f : Fetcher) (redirects : Nat) (url : Url) :
    Exchanges (retrieve f redirects url : Act υ (Except String Reply)) := by
  induction redirects generalizing url with
  | zero =>
    refine .bind (exchanges_leg f url) fun l => ?_
    split <;> exact .pure _
  | succ n ih =>
    refine .bind (exchanges_leg f url) fun l => ?_
    split
    · exact .pure _
    · exact ih _

theorem exchanges_request (f : Fetcher) :
    Exchanges (request f : Act υ (Except String Reply)) := by
  unfold request
  split
  · exact .pure _
  · dsimp only
    split
    · exact .fail _
    · split
      · exact .fail _
      · exact exchanges_retrieve f _ _

theorem exchanges_fetchRemote (f : Fetcher) : Exchanges (fetchRemote f : Act υ Response) := by
  refine .bind (exchanges_request f) fun outcome => ?_
  split
  · exact .fail _
  · split
    · split
      · exact .pure _
      · exact .fail _
    · exact .fail _

/-- What asking for a URL keeps, a request keeps. -/
theorem Exchanges.keeps {R : Session υ → Session υ → Prop} [IsPreorder (Session υ) R]
    {m : Act υ α} (h : Exchanges m) (hask : ∀ url, Keeps R (Session.ask url)) : Keeps R m := by
  induction h with
  | pure a => exact keeps_pure a
  | fail e => exact keeps_fail e
  | ask url => exact hask url
  | bind _ _ hm hk => exact keeps_bind hm hk

/-- A step that neither looks at the log and at telemetry nor changes them. -/
def Discreet (m : Act υ α) : Prop :=
  ∀ (s : Session υ) (j : Journal) (τ : Telemetry),
    exec m { s with journal := j, telemetry := τ } =
      ((exec m s).1, { (exec m s).2 with journal := j, telemetry := τ })

theorem Exchanges.discreet {m : Act υ α} (h : Exchanges m) : Discreet m := by
  induction h with
  | pure a => exact fun _ _ _ => rfl
  | fail e => exact fun _ _ _ => rfl
  | ask url => exact fun _ _ _ => rfl
  | @bind α β m k _ _ hm hk =>
    intro s j τ
    rw [exec_bind, exec_bind, hm s j τ]
    rcases exec m s with ⟨e | a, t⟩
    · rfl
    · exact hk a t j τ

theorem Discreet.reported {m : Act υ α} (h : Discreet m) (s : Session υ) :
    (next m s).telemetry = s.telemetry ∧ (next m s).reported = s.reported := by
  have hs := h s s.journal s.telemetry
  have hnext : next m s = { next m s with journal := s.journal, telemetry := s.telemetry } :=
    congrArg Prod.snd hs
  rw [hnext]
  exact ⟨rfl, rfl⟩

/-- Without a fallback an outcome of the request gives its payload, or what explains why there is
none. -/
theorem exec_fetchRemote {outcome : Except String Reply}
    (h : exec (request f) s = (.ok outcome, u)) :
    (∃ r response, outcome = .ok r ∧ r.isSuccess = true ∧
      Payload.decodeOctets r.body = .ok response ∧
      exec (fetchRemote f) s = (.ok response, u)) ∨
    ∃ e, Explains f.endpoint outcome e ∧ exec (fetchRemote f) s = (.error (.fetch e), u) := by
  simp only [fetchRemote, exec_bind, h]
  rcases outcome with reason | r
  · exact .inr ⟨_, .unreachable reason, rfl⟩
  · rcases hr : r.isSuccess with - | -
    · exact .inr ⟨_, .status hr, by simp [hr]⟩
    · rcases hbody : Payload.decodeOctets r.body with e | response
      · exact .inr ⟨_, .undecodable hr hbody, by simp [hr, hbody, Failure.decode]⟩
      · exact .inl ⟨r, response, rfl, hr, hbody, by simp [hr, hbody]⟩

/-- What reporting and asking for URLs keep, a fetch keeps. -/
theorem keeps_fetch {R : Session υ → Session υ → Prop} [IsPreorder (Session υ) R]
    (hreporting : ∀ s t, Reporting s t → R s t) (hask : ∀ url, Keeps R (ask url : Act υ Exchange))
    (f : Fetcher) : Keeps R (fetch f : Act υ FetchResult) := by
  have hlog (severity : Severity) (part message : String) :
      Keeps R (log severity part message : Act υ Unit) :=
    (log_reporting severity part message).mono hreporting
  have hremote : Keeps R (fetchRemote f : Act υ Response) := (exchanges_fetchRemote f).keeps hask
  refine keeps_bind ((channelOr_reporting _).mono hreporting) fun channel => ?_
  refine keeps_bind (keeps_attempt (keeps_timed hreporting hremote)) fun outcome => ?_
  split
  · exact keeps_bind (hlog _ _ _) fun _ => keeps_pure _
  · refine keeps_bind (hlog _ _ _) fun _ => ?_
    refine keeps_bind ((emitEvent_reporting _ _).mono hreporting) fun _ => ?_
    exact keeps_bind (keeps_ofExcept _) fun _ => keeps_pure _
  · exact keeps_fail _

/-- Timed, and with a channel to report to, a request comes to the same end. -/
theorem exec_fetch_timed {verdict : Except Failure Response}
    (h : exec (fetchRemote f) s = (verdict, u)) (hpaced : s.telemetry.Paced) :
    ∃ n w x t, exec (channelOr f.channel) s = (.ok n, w) ∧
      Reports n [.metric ⟨"fetch.duration_ms", x, []⟩] w t ∧
      exec (timed n "fetch.duration_ms" [] (fetchRemote f)) w = (verdict, t) := by
  obtain ⟨n, w, hw, -⟩ := channelOr_yields f.channel s
  have hsw : Reporting s w := by
    have h := channelOr_reporting f.channel s
    rwa [next, hw] at h
  have hdiscreet := (exchanges_fetchRemote (υ := υ) f).discreet
  obtain ⟨v, x, t, hwv, hquiet, -, hmetric, ht⟩ := exec_timed n "fetch.duration_ms" []
    (fun u => (hdiscreet.reported u).1) (hpaced.mono hsw.readings)
  refine ⟨n, w, x, t, hw, ?_, ?_⟩
  · exact Reports.after ((hdiscreet.reported v).2.trans hquiet) hmetric
  · obtain ⟨⟨j, τ, rfl⟩, -⟩ := IsTrans.trans s w v hsw hwv
    rw [ht, hdiscreet s j τ, h]

theorem exec_fetch_ok {response : Response} (h : exec (fetchRemote f) s = (.ok response, u))
    (hpaced : s.telemetry.Paced) :
    ∃ t x, exec (fetch f) s = (.ok { response }, t) ∧
      Reported f.channel (f.reports x (.ok response)) s t := by
  obtain ⟨n, w, x, t, hw, hmetric, ht⟩ := exec_fetch_timed h hpaced
  let line : Record := ⟨.info, partLogger "fetch",
    s!"Fetched {response.size} components from {f.endpoint}"⟩
  refine ⟨_, x, ?_, n, w, hw, hmetric.append (Reports.line n line t)⟩
  simp only [fetch, exec_bind, hw, exec_attempt, ht, fetched, exec_pure]
  rfl

theorem exec_fetch_error {e : FetchError} (h : exec (fetchRemote f) s = (.error (.fetch e), u))
    {fallback : Response} (hfallback : f.fallback = .ok fallback) (hpaced : s.telemetry.Paced) :
    ∃ t x, exec (fetch f) s = (.ok ⟨fallback, some e.message⟩, t) ∧
      Reported f.channel (f.reports x (.error e)) s t := by
  obtain ⟨n, w, x, t, hw, hmetric, ht⟩ := exec_fetch_timed h hpaced
  let line : Record := ⟨.warning, partLogger "fetch",
    s!"Fetch failed ({e.message}); using fallback components"⟩
  let told : Notice := .event ⟨"fetch.fallback", [("reason", .text e.reason)]⟩
  have hreports := hmetric.append ((Reports.line n line t).append (Reports.notice n told _))
  obtain ⟨a, v, hv, -⟩ := notify_yields n told { t with journal := t.journal.write line }
  rw [next, hv] at hreports
  refine ⟨v, x, ?_, n, w, hw, hreports⟩
  simp only [fetch, exec_bind, hw, exec_attempt, ht, fallBack, exec_log, hfallback, exec_ofExcept,
    exec_pure]
  simp only [told, notify, line] at hv
  rw [hv]

/-- There is a result whatever comes of the request. -/
theorem fetch_covers (hfallback : f.fallback = .ok Payload.fallback) (hpaced : s.telemetry.Paced)
    {outcome : Except String Reply} (h : exec (request f) s = (.ok outcome, u)) :
    ∃ result t time, exec (fetch f) s = (.ok result, t) ∧
      (result.isOk = true ↔ ∃ r response, outcome = .ok r ∧ 200 ≤ r.status ∧ r.status < 300 ∧
        Payload.decodeOctets r.body = .ok response) ∧
      (∀ r response, result.isOk = true → outcome = .ok r →
        Payload.decodeOctets r.body = .ok response →
          result.response = response ∧ response.source = "remote" ∧
          Reported f.channel (f.reports time (.ok response)) s t) ∧
      (result.isOk = false → ∃ e, (exec (fetchRemote f) s).1 = .error (.fetch e) ∧
        Explains f.endpoint outcome e ∧ result = ⟨Payload.fallback, some e.message⟩ ∧
        (∀ r, outcome = .ok r → r.isSuccess = false → e.statusCode? = some r.status) ∧
        (∀ reason, outcome = .error reason → e.statusCode? = none) ∧
        Reported f.channel (f.reports time (.error e)) s t) ∧
      (result.response.isFallback = true ↔ result.isOk = false) := by
  rcases exec_fetchRemote h with ⟨r, response, rfl, hsuccess, hbody, hremote⟩ | ⟨e, he, hremote⟩
  · obtain ⟨t, x, ht, hreported⟩ := exec_fetch_ok hremote hpaced
    have hsource : response.source = "remote" := Payload.source_of_decodeOctets hbody
    have hstatus := r.isSuccess_iff.1 hsuccess
    refine ⟨_, t, x, ht, ⟨fun _ => ⟨r, response, rfl, hstatus.1, hstatus.2, hbody⟩, fun _ => rfl⟩,
      ?_, fun hfalse => by simp [FetchResult.isOk] at hfalse, ?_⟩
    · intro r' response' _ hr hbody'
      obtain rfl := Except.ok.inj hr
      obtain rfl := Except.ok.inj (hbody.symm.trans hbody')
      exact ⟨rfl, hsource, hreported⟩
    · simp [Response.isFallback, hsource, fallbackSource, FetchResult.isOk]
  · obtain ⟨t, x, ht, hreported⟩ := exec_fetch_error hremote hfallback hpaced
    have hremote' : (exec (fetchRemote f) s).1 = .error (.fetch e) := by rw [hremote]
    refine ⟨_, t, x, ht, ⟨fun htrue => by simp [FetchResult.isOk] at htrue, ?_⟩,
      fun _ _ htrue => by simp [FetchResult.isOk] at htrue,
      fun _ => ⟨e, hremote', he, rfl, he.statusCode.1, he.statusCode.2, hreported⟩, ?_⟩
    · rintro ⟨r, response, hr, hlow, hhigh, hbody⟩
      exact absurd hbody (he.not_decoded hr (r.isSuccess_iff.2 ⟨hlow, hhigh⟩) response)
    · simp [Response.isFallback, Payload.fallback, FetchResult.isOk]

/-- An answer that leads nowhere else is the outcome, wherever it comes from. -/
theorem exec_request_reply {url : Url} {r : Reply} (hread : Url.ofText f.endpoint = .ok url)
    (hrooted : url.rooted = url) (hsending : url.checkSending = .ok ()) (hopen : f.closed = false)
    (hforeign : f.ownClient = false) (htyped : url.isUntyped = false) (hr : r.target? = none)
    (hcoming : s.network.coming = [.reply r]) : ∃ u, exec (request f) s = (.ok (.ok r), u) := by
  refine ⟨{ s with network := ⟨[.reply r], s.network.requested ++ [url.text]⟩ }, ?_⟩
  simp only [request, hread, hrooted, hsending]
  simp [hopen, retrieve, leg, ask, Network.ask, hcoming, Fetcher.protocolTrouble?, hforeign,
    Fetcher.maxRedirects, htyped, hr]

/-- A payload that says it is the fallback. -/
def imitation : Reply :=
  { body := Text.Utf8.encode "\x7b\"components\":[],\"source\":\"fallback\"\x7d".toList }

theorem fetch_covers_imitation :
    ∃ result t, exec (fetch { endpoint := "http://a/" })
        ({ network := { coming := [.reply imitation] }, ui := () } : Session Unit) = (.ok result, t) ∧
      result.isOk = true ∧ result.response = ⟨[], "remote"⟩ ∧ result.response.isFallback = false := by
  have hread : Url.ofText "http://a/" = .ok { scheme := "http", host := "a", path := "/" } := by
    decide +kernel
  have hbody : Payload.decodeOctets imitation.body = .ok ⟨[], "remote"⟩ := by cbv
  obtain ⟨u, hrequest⟩ := exec_request_reply (f := { endpoint := "http://a/" }) (r := imitation)
    (s := { network := { coming := [.reply imitation] }, ui := () }) hread (by decide +kernel)
    (by decide +kernel) rfl rfl (by decide +kernel) rfl rfl
  obtain ⟨result, t, time, ht, hok, hresponse, -, hfallback⟩ :=
    fetch_covers rfl (Telemetry.paced_of_clock_nil rfl) hrequest
  have hdone : result.isOk = true :=
    hok.2 ⟨imitation, _, rfl, by decide, by decide, hbody⟩
  obtain ⟨hsame, -, -⟩ := hresponse _ _ hdone rfl hbody
  have hremote : result.response.isFallback = false := by
    rw [hsame]
    rfl
  exact ⟨result, t, ht, hdone, hsame, hremote⟩

end Session
end RemoteScreen
