import SmartAccountKit.RelayerProxy.RateLimiterTheorems

/-!
# What clients share of the rate limits

Every client has a limiter object of its own, and all share the global one. The
global one counts a request also where the limiter of the client refuses it, so
refused requests of one client can use up the room of the others.
-/

namespace SmartAccountKit.RelayerProxy
open Lib

/-! ## One request -/

/-- A limiter object allows a call. -/
def RateLimit.allows (config : RateLimit) (stored : Option RateState) (now : ℤ) : Bool :=
  (config.fetch now stored).1.any RateDecision.allowed

/-- The name of the limiter object of a client. -/
def ipLimiter (ip : String) : String := "ip:" ++ ip

/-- The limits that an environment configures for all requests and for each client. -/
structure RateEnv.Configures (env : RateEnv) (all each : RateLimit) : Prop where
  window : ∃ seconds, positiveInteger env.RATE_LIMIT_WINDOW_SECONDS
      DEFAULT_RATE_LIMIT_WINDOW_SECONDS "RATE_LIMIT_WINDOW_SECONDS" = .ok seconds ∧
    all.windowMs = seconds * 1000 ∧ each.windowMs = seconds * 1000
  all : positiveInteger env.RATE_LIMIT_GLOBAL DEFAULT_RATE_LIMIT_GLOBAL "RATE_LIMIT_GLOBAL" =
    .ok all.limit
  each : positiveInteger env.RATE_LIMIT_PER_IP DEFAULT_RATE_LIMIT_PER_IP "RATE_LIMIT_PER_IP" =
    .ok each.limit

/-- The request may go on. -/
def allows (env : RateEnv) (store : RateStore) (request : RateRequest) : Bool :=
  match (enforceRateLimit env store request).1 with
  | .ok none => true
  | _ => false

/-- The states of the limiter objects after some requests. -/
def storeAfter (env : RateEnv) (store : RateStore) (requests : List RateRequest) : RateStore :=
  requests.foldl (fun store request => (enforceRateLimit env store request).2) store

theorem positiveInteger_eq_ok {value : Option JsNumber} {fallback n : ℕ} {name : String}
    (hvalue : value.getD (.ofNat fallback) = .ofNat n) (hpos : 0 < n) (hsafe : n ≤ 2 ^ 53 - 1) :
    positiveInteger value fallback name = .ok n := by
  rw [positiveInteger, hvalue, positive?_ofNat hpos hsafe]

theorem ipLimiter_ne_global (ip : String) : ipLimiter ip ≠ GLOBAL_RATE_LIMITER := by
  intro h
  have hlist := congrArg String.toList h
  rw [ipLimiter, String.toList_append] at hlist
  exact absurd (List.cons.inj hlist).1 (by decide)

theorem ipLimiter_inj {ip ip' : String} : ipLimiter ip = ipLimiter ip' ↔ ip = ip' := by
  constructor
  · intro h
    have hlist := congrArg String.toList h
    rw [ipLimiter, ipLimiter, String.toList_append, String.toList_append] at hlist
    exact String.toList_inj.mp (List.append_cancel_left hlist)
  · exact congrArg ipLimiter

section enforce

variable {env : RateEnv} {all each : RateLimit} {store : RateStore} {request : RateRequest}

/-- A limiter object with a valid configuration answers. -/
theorem rateDecision_eq (config : RateLimit) (store : RateStore) (name : String) (now : ℤ) :
    ∃ decision, (config.fetch now (store name)).1 = some decision ∧
      rateDecision store name config.limit config.windowMs now =
        (.ok decision, Function.update store name (config.fetch now (store name)).2) := by
  have hsome : ∃ decision, (config.fetch now (store name)).1 = some decision := by
    rw [fetch_eq]
    split
    · exact ⟨_, rfl⟩
    · exact ⟨_, rfl⟩
  obtain ⟨decision, hdecision⟩ := hsome
  refine ⟨decision, hdecision, ?_⟩
  change (config.fetch now (store name)).1 = some decision at hdecision
  have hfetch : RequestRateLimiter.fetch (.ofNat config.limit) (.ofNat config.windowMs) now
      (store name) = (some decision, (config.fetch now (store name)).2) :=
    Prod.ext hdecision rfl
  rw [rateDecision, hfetch]

/-- Both limiters are asked, each in its own state. -/
theorem enforceRateLimit_eq (henv : env.Configures all each) (store : RateStore)
    (request : RateRequest) :
    ∃ globalDecision ipDecision,
      (all.fetch request.globalNow (store GLOBAL_RATE_LIMITER)).1 = some globalDecision ∧
      (each.fetch request.ipNow (store (ipLimiter request.ip))).1 = some ipDecision ∧
      enforceRateLimit env store request =
        (combineDecisions (.ok globalDecision) (.ok ipDecision),
          Function.update
            (Function.update store GLOBAL_RATE_LIMITER
              (all.fetch request.globalNow (store GLOBAL_RATE_LIMITER)).2)
            (ipLimiter request.ip) (each.fetch request.ipNow (store (ipLimiter request.ip))).2) := by
  obtain ⟨seconds, hseconds, hall, heach⟩ := henv.window
  obtain ⟨globalDecision, hglobal, hasked⟩ :=
    rateDecision_eq all store GLOBAL_RATE_LIMITER request.globalNow
  obtain ⟨ipDecision, hip, hasked'⟩ := rateDecision_eq each
    (Function.update store GLOBAL_RATE_LIMITER
      (all.fetch request.globalNow (store GLOBAL_RATE_LIMITER)).2)
    (ipLimiter request.ip) request.ipNow
  rw [Function.update_of_ne (ipLimiter_ne_global request.ip)] at hip hasked'
  refine ⟨globalDecision, ipDecision, hglobal, hip, ?_⟩
  rw [hall] at hasked
  rw [heach] at hasked'
  unfold enforceRateLimit
  rw [hseconds, henv.all, henv.each]
  dsimp only
  rw [hasked]
  dsimp only
  rw [show "ip:" ++ request.ip = ipLimiter request.ip from rfl, hasked']

/-- A request may go on if both limiters allow it. -/
theorem allows_eq (henv : env.Configures all each) (store : RateStore) (request : RateRequest) :
    allows env store request =
      (all.allows (store GLOBAL_RATE_LIMITER) request.globalNow &&
        each.allows (store (ipLimiter request.ip)) request.ipNow) := by
  obtain ⟨globalDecision, ipDecision, hglobal, hip, henforce⟩ :=
    enforceRateLimit_eq henv store request
  rw [allows, henforce, RateLimit.allows, RateLimit.allows, hglobal, hip]
  show (match (if (globalDecision.allowed && ipDecision.allowed) = true then _ else _ :
    Except RequestError (Option ℤ)) with | .ok none => true | _ => false) = _
  rw [Option.any_some, Option.any_some]
  cases globalDecision.allowed <;> cases ipDecision.allowed <;> rfl

theorem enforce_global (henv : env.Configures all each) (store : RateStore)
    (request : RateRequest) :
    (enforceRateLimit env store request).2 GLOBAL_RATE_LIMITER =
      (all.fetch request.globalNow (store GLOBAL_RATE_LIMITER)).2 := by
  obtain ⟨_, _, -, -, henforce⟩ := enforceRateLimit_eq henv store request
  rw [henforce]
  dsimp only
  rw [Function.update_of_ne (ipLimiter_ne_global request.ip).symm, Function.update_self]

theorem enforce_ip (henv : env.Configures all each) (store : RateStore) (request : RateRequest)
    (ip : String) :
    (enforceRateLimit env store request).2 (ipLimiter ip) =
      if ip = request.ip then (each.fetch request.ipNow (store (ipLimiter ip))).2
      else store (ipLimiter ip) := by
  obtain ⟨_, _, -, -, henforce⟩ := enforceRateLimit_eq henv store request
  rw [henforce]
  dsimp only
  by_cases hip : ip = request.ip
  · rw [if_pos hip, hip, Function.update_self]
  · rw [if_neg hip, Function.update_of_ne (fun h => hip (ipLimiter_inj.mp h)),
      Function.update_of_ne (ipLimiter_ne_global ip)]

/-- The global limiter counts all requests. -/
theorem storeAfter_global (henv : env.Configures all each) (store : RateStore)
    (requests : List RateRequest) :
    storeAfter env store requests GLOBAL_RATE_LIMITER =
      all.stateAfter (store GLOBAL_RATE_LIMITER) (requests.map RateRequest.globalNow) := by
  induction requests generalizing store with
  | nil => rfl
  | cons request requests ih =>
    show storeAfter env (enforceRateLimit env store request).2 requests _ = _
    rw [ih, enforce_global henv]
    rfl

end enforce

/-! ## Added requests -/

/-- The requests that were not added. -/
def kept (requests : List (Bool × RateRequest)) : List RateRequest :=
  (requests.filter fun request => !request.1).map Prod.snd

/-- The requests that were added, those with the mark, come from one client, and its limiter
refuses each of them where it stands. -/
def AddedRefused (env : RateEnv) (each : RateLimit) (ip : String) :
    RateStore → List (Bool × RateRequest) → Prop
  | _, [] => True
  | store, (added, request) :: rest =>
    (added = true → request.ip = ip ∧
      each.allows (store (ipLimiter request.ip)) request.ipNow = false) ∧
    AddedRefused env each ip (enforceRateLimit env store request).2 rest

/-- The requests come within one window of the limiter. -/
def RateLimit.InOneWindow (config : RateLimit) (stored : Option RateState) (times : List ℤ) :
    Prop :=
  (∀ state ∈ stored, ∀ t ∈ times, t < state.windowStartedAt + config.windowMs) ∧
  ∀ t ∈ times, ∀ t' ∈ times, t < t' + config.windowMs

/-- The requests that the stored window has counted. -/
def usedCount (stored : Option RateState) : ℕ := (stored.map RateState.count).getD 0

section sharing

variable {env : RateEnv} {all each : RateLimit} {store store' : RateStore} {ip : String}
  {requests : List (Bool × RateRequest)} {request : RateRequest}

/-- The added requests change no limiter of a client. -/
theorem storeAfter_ip (henv : env.Configures all each)
    (hstore : ∀ ip, store (ipLimiter ip) = store' (ipLimiter ip))
    (hadded : AddedRefused env each ip store requests) (ip' : String) :
    storeAfter env store (requests.map Prod.snd) (ipLimiter ip') =
      storeAfter env store' (kept requests) (ipLimiter ip') := by
  induction requests generalizing store store' with
  | nil => exact hstore ip'
  | cons first requests ih =>
    obtain ⟨added, request⟩ := first
    obtain ⟨hfirst, hrest⟩ := hadded
    cases added with
    | true =>
      -- a refused request leaves the state of its limiter
      obtain ⟨-, hrefused⟩ := hfirst rfl
      refine ih (fun client => ?_) hrest
      show (enforceRateLimit env store request).2 (ipLimiter client) = store' (ipLimiter client)
      rw [enforce_ip henv]
      split
      next hclient =>
        rw [← hclient] at hrefused
        obtain ⟨decision, hdecision, -⟩ := rateDecision_eq each store (ipLimiter client) request.ipNow
        rw [RateLimit.allows, hdecision] at hrefused
        have hfetch : each.fetch request.ipNow (store (ipLimiter client)) =
            (some decision, (each.fetch request.ipNow (store (ipLimiter client))).2) :=
          Prod.ext hdecision rfl
        have hsame := fetch_refused hfetch hrefused
        rw [hsame]
        exact hstore client
      next => exact hstore client
    | false =>
      refine ih (fun client => ?_) hrest
      show (enforceRateLimit env store request).2 (ipLimiter client) =
        (enforceRateLimit env store' request).2 (ipLimiter client)
      rw [enforce_ip henv, enforce_ip henv, hstore client]

/-- In one window the global limiter allows a request if the ones before it leave room. -/
theorem allows_in_window {config : RateLimit} {stored : Option RateState} {times : List ℤ} {now : ℤ}
    (hwindow : config.InOneWindow stored (times ++ [now])) :
    config.allows (config.stateAfter stored times) now = true ↔
      usedCount stored + times.length < config.limit := by
  have hused : FixedWindow.used (stored.map RateState.toWindow) = usedCount stored := by
    cases stored <;> rfl
  rw [RateLimit.allows, fetch_allowed, stateAfter_toWindow, ← hused]
  refine FixedWindow.admits_after_iff (fun w hw t ht => ?_) hwindow.2
  obtain ⟨state, hstate, rfl⟩ := Option.mem_map.mp hw
  exact hwindow.1 state hstate t ht

theorem RateLimit.InOneWindow.mono {config : RateLimit} {stored : Option RateState}
    {times times' : List ℤ} (h : config.InOneWindow stored times) (hsub : times' ⊆ times) :
    config.InOneWindow stored times' :=
  ⟨fun state hstate t ht => h.1 state hstate t (hsub ht),
    fun t ht t' ht' => h.2 t (hsub ht) t' (hsub ht')⟩

theorem kept_subset (requests : List (Bool × RateRequest)) :
    kept requests ⊆ requests.map Prod.snd :=
  List.map_subset _ List.filter_sublist.subset

/-- Adding requests of one client that its limiter refuses changes no decision of the limiter of a
client. It changes the decision of a request exactly where the limiter of its client allows it and
the added requests use up the room that the global limiter had for it. -/
theorem refused_requests_shut_out_iff (henv : env.Configures all each)
    (hadded : AddedRefused env each ip store requests)
    (hwindow : all.InOneWindow (store GLOBAL_RATE_LIMITER)
      ((requests.map fun r => r.2.globalNow) ++ [request.globalNow])) :
    (∀ client now,
      each.fetch now (storeAfter env store (requests.map Prod.snd) (ipLimiter client)) =
        each.fetch now (storeAfter env store (kept requests) (ipLimiter client))) ∧
    (allows env (storeAfter env store (requests.map Prod.snd)) request =
        allows env (storeAfter env store (kept requests)) request ↔
      ¬(each.allows (storeAfter env store (kept requests) (ipLimiter request.ip)) request.ipNow =
            true ∧
          usedCount (store GLOBAL_RATE_LIMITER) + (kept requests).length < all.limit ∧
          all.limit ≤ usedCount (store GLOBAL_RATE_LIMITER) + requests.length)) := by
  refine ⟨fun client now => by rw [storeAfter_ip henv (fun _ => rfl) hadded client], ?_⟩
  have hclient := storeAfter_ip henv (fun _ => rfl) hadded request.ip
  have htimes : (requests.map fun r => r.2.globalNow) =
      (requests.map Prod.snd).map RateRequest.globalNow := by
    rw [List.map_map]
    rfl
  rw [htimes] at hwindow
  have hsub : (kept requests).map RateRequest.globalNow ++ [request.globalNow] ⊆
      (requests.map Prod.snd).map RateRequest.globalNow ++ [request.globalNow] := by
    rw [List.append_subset]
    exact ⟨List.Subset.trans (List.map_subset _ (kept_subset requests))
      (List.subset_append_left _ _), List.subset_append_right _ _⟩
  have hwith := allows_in_window hwindow
  have hwithout := allows_in_window (hwindow.mono hsub)
  rw [List.length_map, List.length_map] at hwith
  rw [List.length_map] at hwithout
  have hfewer : (kept requests).length ≤ requests.length := by
    rw [kept, List.length_map]
    exact List.length_filter_le _ _
  rw [allows_eq henv, allows_eq henv, hclient, storeAfter_global henv, storeAfter_global henv]
  generalize all.allows (all.stateAfter _ ((requests.map Prod.snd).map _)) _ = withAdded at hwith ⊢
  generalize all.allows (all.stateAfter _ ((kept requests).map _)) _ = without at hwithout ⊢
  cases each.allows (storeAfter env store (kept requests) (ipLimiter request.ip)) request.ipNow with
  | false =>
    rw [Bool.and_false, Bool.and_false]
    exact iff_of_true rfl fun h => nomatch h.1
  | true =>
    rw [Bool.and_true, Bool.and_true]
    cases withAdded with
    | true =>
      have hroom := hwith.mp rfl
      have hroom' := hwithout.mpr (by omega)
      rw [hroom']
      exact iff_of_true rfl fun h => absurd h.2.2 (by omega)
    | false =>
      have hfull : ¬usedCount (store GLOBAL_RATE_LIMITER) + requests.length < all.limit :=
        fun h => nomatch hwith.mpr h
      cases without with
      | true => exact iff_of_false nofun fun h => h ⟨rfl, hwithout.mp rfl, by omega⟩
      | false => exact iff_of_true rfl fun h => nomatch hwithout.mpr h.2.1

end sharing

/-! ## Sample requests -/

/-- Two requests a minute for all, and one for each client. -/
def sampleRateEnv : RateEnv :=
  { RATE_LIMIT_GLOBAL := some (.ofNat 2), RATE_LIMIT_PER_IP := some (.ofNat 1) }

def sampleGlobalLimit : RateLimit := ⟨2, by decide, by decide, 60000, by decide, by decide⟩

def sampleIpLimit : RateLimit := ⟨1, by decide, by decide, 60000, by decide, by decide⟩

theorem sampleRateEnv_configures : sampleRateEnv.Configures sampleGlobalLimit sampleIpLimit where
  window := ⟨60, positiveInteger_eq_ok rfl (by decide) (by decide), rfl, rfl⟩
  all := positiveInteger_eq_ok rfl (by decide) (by decide)
  each := positiveInteger_eq_ok rfl (by decide) (by decide)

/-- A client sends two requests, the second of which was added. -/
def sampleRequests : List (Bool × RateRequest) :=
  [(false, { ip := "10.0.0.1", globalNow := 0, ipNow := 0 }),
    (true, { ip := "10.0.0.1", globalNow := 1000, ipNow := 1000 })]

/-- Another client sends a request after them. -/
def sampleOtherRequest : RateRequest := { ip := "10.0.0.2", globalNow := 2000, ipNow := 2000 }

theorem sampleRequests_addedRefused :
    AddedRefused sampleRateEnv sampleIpLimit "10.0.0.1" (fun _ => none) sampleRequests :=
  ⟨nofun, fun _ => ⟨rfl, by decide⟩, trivial⟩

theorem sampleRequests_inOneWindow : sampleGlobalLimit.InOneWindow none
    ((sampleRequests.map fun r => r.2.globalNow) ++ [sampleOtherRequest.globalNow]) :=
  ⟨nofun, by decide⟩

/-- The refused request of one client shuts out the other one. -/
theorem refused_request_shuts_out :
    AddedRefused sampleRateEnv sampleIpLimit "10.0.0.1" (fun _ => none) sampleRequests ∧
    sampleOtherRequest.ip ≠ "10.0.0.1" ∧
    sampleGlobalLimit.InOneWindow none
      ((sampleRequests.map fun r => r.2.globalNow) ++ [sampleOtherRequest.globalNow]) ∧
    allows sampleRateEnv (storeAfter sampleRateEnv (fun _ => none) (kept sampleRequests))
      sampleOtherRequest = true ∧
    allows sampleRateEnv
      (storeAfter sampleRateEnv (fun _ => none) (sampleRequests.map Prod.snd))
      sampleOtherRequest = false :=
  ⟨sampleRequests_addedRefused, by decide, sampleRequests_inOneWindow, by decide,
    by decide⟩

theorem refused_requests_shut_out_iff_sample :
    (∀ client now,
      sampleIpLimit.fetch now
          (storeAfter sampleRateEnv (fun _ => none) (sampleRequests.map Prod.snd)
            (ipLimiter client)) =
        sampleIpLimit.fetch now
          (storeAfter sampleRateEnv (fun _ => none) (kept sampleRequests) (ipLimiter client))) ∧
    (allows sampleRateEnv
        (storeAfter sampleRateEnv (fun _ => none) (sampleRequests.map Prod.snd))
        sampleOtherRequest =
      allows sampleRateEnv (storeAfter sampleRateEnv (fun _ => none) (kept sampleRequests))
        sampleOtherRequest ↔
    ¬(sampleIpLimit.allows (storeAfter sampleRateEnv (fun _ => none) (kept sampleRequests)
          (ipLimiter "10.0.0.2")) 2000 = true ∧ 0 + 1 < 2 ∧ 2 ≤ 0 + 2)) :=
  refused_requests_shut_out_iff sampleRateEnv_configures sampleRequests_addedRefused
    sampleRequests_inOneWindow

end SmartAccountKit.RelayerProxy
