import AppGateway.Async.Noninterference
import AppGateway.Codec.IpAddress
import AppGateway.Proxy.CounterExpiry
import AppGateway.Proxy.RouteResolution

namespace GatewayProof

open Async GatewayModel
open Codec.IpAddress (isIP)

def proxyCall (route : RouteConfig) (req : ProxyRequest) : LimiterCall where
  options := { maxRequests := route.rate_limit_override, keyPrefix := "ratelimit:proxy:" ++ route.path }
  req := req

def authCall (req : ProxyRequest) : LimiterCall where
  options := {}
  req := req

theorem proxyCall_code (env : ProxyEnv) (route : RouteConfig) (req : ProxyRequest) :
    (faultyLimiters env).code (proxyCall route req) = runRateLimiter env route req := rfl

/-- The requests of one client on the proxy routes of one pattern, or at the auth and OAuth endpoints. -/
inductive Quota where
  | proxy (path ip : String)
  | auth (ip : String)
deriving DecidableEq

namespace Quota

def ip : Quota → String
  | .proxy _ ip => ip
  | .auth ip => ip

def keyPrefix : Quota → Option String
  | .proxy path _ => some ("ratelimit:proxy:" ++ path)
  | .auth _ => none

def counts (quota : Quota) (call : LimiterCall) : Bool :=
  call.options.keyPrefix = quota.keyPrefix && call.req.ip = some quota.ip

def base (quota : Quota) : String := quota.keyPrefix.getD "ratelimit" ++ ":" ++ quota.ip

variable {quota : Quota} {call : LimiterCall} {path ip : String}

theorem counts_iff : quota.counts call = true ↔ call.options.keyPrefix = quota.keyPrefix ∧
    call.req.ip = some quota.ip := by
  simp [counts]

theorem counts_proxyCall {route : RouteConfig} {req : ProxyRequest} :
    (proxy path ip).counts (proxyCall route req) = true ↔ route.path = path ∧ req.ip = some ip := by
  rw [counts_iff]
  simp [proxyCall, keyPrefix, Quota.ip]

theorem counts_authCall {req : ProxyRequest} : (auth ip).counts (authCall req) = true ↔ req.ip = some ip := by
  rw [counts_iff]
  simp [authCall, keyPrefix, Quota.ip]

theorem base_of_counts (counted : quota.counts call = true) : call.base = quota.base := by
  obtain ⟨named, client⟩ := counts_iff.mp counted
  rw [LimiterCall.base, named, client]
  rfl

end Quota

/-- The first client's address is a text, a colon and the second's address; the second pattern is the first one, a colon
    and this text. -/
def Shares (first second : Quota) : Prop :=
  ∃ path group ip, first = .proxy path (group ++ ":" ++ ip) ∧ second = .proxy (path ++ ":" ++ group) ip

def Isolated (env : ProxyEnv) (first second : Quota) : Prop :=
  ∃ keeps : LimiterCall → Bool,
    (∀ call, first.counts call = true → keeps call = true) ∧ (∀ call, second.counts call = true → keeps call = false) ∧
    ∀ (start config : LimiterConfig) (labels : List LimiterLabel), start.threads = [] →
      (faultyLimiters env).run labels start = some config →
      ∃ quiet, (faultyLimiters env).run (purge keeps [] labels) start = some quiet ∧
        quiet.threads = config.threadsOf keeps

def Unaffected (env : ProxyEnv) (first second : Quota) : Prop :=
  ∀ (start config config' : LimiterConfig) (labels labels' : List LimiterLabel), start.threads = [] →
    (faultyLimiters env).run labels start = some config → (faultyLimiters env).run labels' start = some config' →
    purge (fun call => !second.counts call) [] labels = purge (fun call => !second.counts call) [] labels' →
    config.threadsOf first.counts = config'.threadsOf first.counts

structure Apart (env : ProxyEnv) (first second : Quota) : Prop where
  keys : ∀ call call' window window', first.counts call = true → second.counts call' = true →
    counterKey call.base window ≠ counterKey call'.base window'
  isolated : Isolated env first second
  unaffected : Unaffected env first second

/-! Whose keys are the same -/

theorem Shares.base {first second : Quota} (shares : Shares first second) : first.base = second.base := by
  obtain ⟨path, group, ip, rfl, rfl⟩ := shares
  simp only [Quota.base, Quota.keyPrefix, Quota.ip, Option.getD_some, String.append_assoc]

theorem Shares.client_ne {first second : Quota} (shares : Shares first second) : first.ip ≠ second.ip := by
  obtain ⟨path, group, ip, rfl, rfl⟩ := shares
  intro same
  have lengths := congrArg String.length same
  simp [Quota.ip] at lengths

theorem shares_of_chars {path path' ip ip' : String} {group : List Char}
    (longer : path'.toList = path.toList ++ ':' :: group) (behind : ip.toList = group ++ ':' :: ip'.toList) :
    Shares (.proxy path ip) (.proxy path' ip') := by
  refine ⟨path, String.ofList group, ip', ?_, ?_⟩
  · congr 1
    exact String.toList_inj.mp (by simp [behind])
  · congr 1
    exact String.toList_inj.mp (by simp [longer])

theorem proxy_base_cases {path path' ip ip' : String}
    (same : (Quota.proxy path ip).base = (Quota.proxy path' ip').base) :
    Quota.proxy path ip = .proxy path' ip' ∨ Shares (.proxy path ip) (.proxy path' ip') ∨
      Shares (.proxy path' ip') (.proxy path ip) := by
  have chars := congrArg String.toList same
  simp only [Quota.base, Quota.keyPrefix, Quota.ip, Option.getD_some, String.toList_append, List.append_assoc,
    List.append_cancel_left_eq] at chars
  rcases Codec.Decimal.append_colon_cases chars with ⟨front, back⟩ | ⟨group, longer, behind⟩ | ⟨group, longer, behind⟩
  · rw [String.toList_inj.mp front, String.toList_inj.mp back]
    exact .inl rfl
  · exact .inr (.inl (shares_of_chars longer behind))
  · exact .inr (.inr (shares_of_chars longer behind))

theorem proxy_base_ne_auth {path ip client : String} (valid : isIP client = true) :
    (Quota.proxy path ip).base ≠ (Quota.auth client).base := by
  intro same
  have chars := congrArg String.toList same
  have named : client.toList = 'p' :: ("roxy:" ++ path ++ ":" ++ ip).toList := by
    simpa [Quota.base, Quota.keyPrefix, Quota.ip] using chars.symm
  have letter := Codec.IpAddress.isIP_chars valid 'p' (by simp [named])
  exact absurd letter (by decide)

theorem shares_of_base {first second : Quota} (different : first ≠ second) (valid : isIP first.ip = true)
    (valid' : isIP second.ip = true) (same : first.base = second.base) : Shares first second ∨ Shares second first := by
  cases first with
  | proxy path ip =>
    cases second with
    | proxy path' ip' =>
      rcases proxy_base_cases same with equal | shares
      · exact absurd equal different
      · exact shares
    | auth client => exact absurd same (proxy_base_ne_auth valid')
  | auth client =>
    cases second with
    | proxy path ip => exact absurd same.symm (proxy_base_ne_auth valid)
    | auth other =>
      have clients := String.append_right_inj _ |>.mp same
      exact absurd (congrArg Quota.auth clients) different

/-! What the requests of one counter leave as it is -/

section Unwinding

def counterOf : ProxyEffect → Option String
  | .redisIncr key => some key
  | .redisPexpire key _ => some key
  | _ => none

def TouchesOwn (call : LimiterCall) (effect : ProxyEffect) : Prop :=
  ∀ key, counterOf effect = some key → ∃ window, key = counterKey call.base window

structure SameBut (base : String) (first second : CounterState) : Prop where
  clock : first.clock = second.clock
  counters : ∀ key, (∀ window, key ≠ counterKey base window) → first.counters key = second.counters key

variable {env : ProxyEnv} {base : String}

theorem limiter_touches (env : ProxyEnv) (call : LimiterCall) :
    (rateLimiter env call.options call.req).Uses (TouchesOwn call) := by
  refine (rateLimiter_obeys env call).uses fun past effect permitted key counted => ?_
  cases effect with
  | redisIncr other =>
    obtain ⟨now, _, named⟩ := permitted
    cases counted
    exact ⟨_, named⟩
  | redisPexpire other ms =>
    obtain ⟨now, _, named, _⟩ := permitted
    cases counted
    exact ⟨_, named⟩
  | gateway _ => cases counted
  | setHeader _ _ => cases counted
  | proxy _ _ => cases counted
  | next _ => cases counted

section Kept

variable {first second : CounterState} {key : String}

theorem SameBut.incr (same : SameBut base first second) (other : ∀ window, key ≠ counterKey base window) :
    (first.counters.incr first.clock key).1 = (second.counters.incr second.clock key).1 ∧
      SameBut base { first with counters := (first.counters.incr first.clock key).2 }
        { second with counters := (second.counters.incr second.clock key).2 } := by
  have congr := Store.Counters.incr_congr first.clock (same.counters key other)
  rw [← same.clock]
  exact ⟨congr.1, rfl, fun read apart => congr.2 read (same.counters read apart)⟩

theorem SameBut.pexpire (same : SameBut base first second) (other : ∀ window, key ≠ counterKey base window) (ms : Nat) :
    SameBut base { first with counters := first.counters.pexpire first.clock key ms }
      { second with counters := second.counters.pexpire second.clock key ms } := by
  rw [← same.clock]
  exact ⟨rfl, fun read apart =>
    Store.Counters.pexpire_congr first.clock ms (same.counters key other) (same.counters read apart)⟩

theorem execFaulty_kept {effect : ProxyEffect} {fault : Fault} {after : CounterState}
    {reply : Except Thrown effect.Reply} (same : SameBut base first second)
    (other : ∀ key, counterOf effect = some key → ∀ window, key ≠ counterKey base window)
    (executed : CounterState.execFaulty effect fault first = some (reply, after)) :
    ∃ after', CounterState.execFaulty effect fault second = some (reply, after') ∧ SameBut base after after' := by
  unfold CounterState.execFaulty at executed
  split at executed
  · cases executed
    exact ⟨_, rfl, (same.incr (other _ rfl)).2⟩
  · unfold CounterState.exec at executed
    split at executed <;> cases executed
    · rw [same.clock]
      exact ⟨second, rfl, same⟩
    · obtain ⟨count, counted⟩ := same.incr (other _ rfl)
      refine ⟨_, ?_, counted⟩
      exact congrArg (fun number : Nat => some ((.ok number : Except Thrown Nat), _)) count.symm
    · exact ⟨second, rfl, same⟩
    · exact ⟨_, rfl, same.pexpire (other _ rfl) _⟩
    · exact ⟨second, rfl, same⟩
    · exact ⟨_, rfl, same.pexpire (other _ rfl) _⟩
    · exact ⟨second, rfl, same⟩

end Kept

section Dropped

variable {first second : CounterState} {counters : Store.Counters String} {key : String}

theorem SameBut.own (same : SameBut base first second) (own : ∃ window, key = counterKey base window)
    (elsewhere : ∀ read, read ≠ key → counters read = first.counters read) :
    SameBut base { first with counters } second := by
  refine ⟨same.clock, fun read apart => ?_⟩
  obtain ⟨window, rfl⟩ := own
  exact (elsewhere read (apart window)).trans (same.counters read apart)

theorem execFaulty_dropped {effect : ProxyEffect} {fault : Fault} {after : CounterState}
    {reply : Except Thrown effect.Reply} (same : SameBut base first second)
    (own : ∀ key, counterOf effect = some key → ∃ window, key = counterKey base window)
    (executed : CounterState.execFaulty effect fault first = some (reply, after)) : SameBut base after second := by
  unfold CounterState.execFaulty at executed
  split at executed
  · cases executed
    exact same.own (own _ rfl) fun read different => Store.Counters.incr_other _ _ different
  · unfold CounterState.exec at executed
    split at executed <;> cases executed
    · exact same
    · exact same.own (own _ rfl) fun read different => Store.Counters.incr_other _ _ different
    · exact same
    · exact same.own (own _ rfl) fun read different => Store.Counters.pexpire_other _ _ _ different
    · exact same
    · exact same.own (own _ rfl) fun read different => Store.Counters.pexpire_other _ _ _ different
    · exact same

end Dropped

theorem limiters_unwinding (env : ProxyEnv) (base : String) :
    System.Unwinding (faultyLimiters env) (fun call => decide (call.base ≠ base)) TouchesOwn (SameBut base) where
  uses := limiter_touches env
  refl state := ⟨rfl, fun _ _ => rfl⟩
  kept := by
    intro call effect fault first second reply after kept touches same executed
    refine execFaulty_kept same (fun key counted window named => ?_) executed
    obtain ⟨window', own⟩ := touches key counted
    exact of_decide_eq_true kept (counterKey_inj (own.symm.trans named)).1
  dropped := by
    intro call effect fault first second reply after dropped touches same executed
    refine execFaulty_dropped same (fun key counted => ?_) executed
    have mine : call.base = base := by simpa using dropped
    rw [← mine]
    exact touches key counted
  external := by
    intro elapsed first second same
    exact ⟨congrArg (· + elapsed) same.clock, same.counters⟩

end Unwinding

/-! When two quotas are apart -/

theorem isolated_of_base {env : ProxyEnv} {first second : Quota} (different : first.base ≠ second.base) :
    Isolated env first second := by
  refine ⟨fun call => decide (call.base ≠ second.base), ?_, ?_, ?_⟩
  · intro call counted
    simpa [Quota.base_of_counts counted] using different
  · intro call counted
    simp [Quota.base_of_counts counted]
  · intro start config labels initial ran
    exact (limiters_unwinding env second.base).noninterference initial ran

theorem Isolated.unaffected {env : ProxyEnv} {first second : Quota} (isolated : Isolated env first second) :
    Unaffected env first second := by
  intro start config config' labels labels' initial ran ran' same
  obtain ⟨keeps, mine, others, undisturbed⟩ := isolated
  have implies : ∀ call, keeps call = true → (!second.counts call) = true := by
    intro call kept
    cases counted : second.counts call with
    | false => rfl
    | true => exact absurd (kept.symm.trans (others call counted)) (by decide)
  obtain ⟨quiet, without, threads⟩ := undisturbed start config labels initial ran
  obtain ⟨quiet', without', threads'⟩ := undisturbed start config' labels' initial ran'
  rw [System.purge_narrows implies same, without'] at without
  obtain rfl := Option.some.inj without
  have among : ∀ other : LimiterConfig, (other.threadsOf keeps).filter (fun thread => first.counts thread.call) =
      other.threadsOf first.counts := by
    intro other
    rw [Config.threadsOf, List.filter_filter]
    refine List.filter_congr fun thread _ => ?_
    cases counted : first.counts thread.call with
    | false => rfl
    | true => exact mine thread.call counted
  rw [← among config, ← among config', ← threads, ← threads']

theorem Quota.exists_counts (quota : Quota) : ∃ call, quota.counts call = true := by
  cases quota with
  | proxy path ip =>
    exact ⟨proxyCall { usersRoute with path } { sampleRequest "/" with ip }, counts_proxyCall.mpr ⟨rfl, rfl⟩⟩
  | auth ip => exact ⟨authCall { sampleRequest "/" with ip }, counts_authCall.mpr rfl⟩

/-- Two quotas are apart exactly when neither shares a counter with the other. -/
theorem quotas_apart_iff (env : ProxyEnv) {first second : Quota} (different : first ≠ second)
    (valid : isIP first.ip = true) (valid' : isIP second.ip = true) :
    Apart env first second ↔ ¬ Shares first second ∧ ¬ Shares second first := by
  have keys_differ : Apart env first second → first.base ≠ second.base := by
    intro apart same
    obtain ⟨call, counted⟩ := first.exists_counts
    obtain ⟨call', counted'⟩ := second.exists_counts
    refine apart.keys call call' 0 0 counted counted' ?_
    rw [Quota.base_of_counts counted, Quota.base_of_counts counted', same]
  constructor
  · intro apart
    exact ⟨fun shares => keys_differ apart shares.base, fun shares => keys_differ apart shares.base.symm⟩
  · rintro ⟨forward, backward⟩
    have bases : first.base ≠ second.base := by
      intro same
      rcases shares_of_base different valid valid' same with shares | shares
      · exact forward shares
      · exact backward shares
    have isolated : Isolated env first second := isolated_of_base bases
    refine ⟨fun call call' window window' counted counted' same => ?_, isolated, isolated.unaffected⟩
    rw [Quota.base_of_counts counted, Quota.base_of_counts counted'] at same
    exact bases (counterKey_inj same).1

/-! Two routes that share a counter -/

def feedsRoute : RouteConfig := { usersRoute with path := "/api/feeds/", rate_limit_override := some 1 }

def feedRoute : RouteConfig := { usersRoute with path := "/api/feeds/:feed", rate_limit_override := some 1 }

def feedsRegexp (pattern : String) : Option (String → Option (List String)) :=
  if pattern = feedsRoute.path then some fun path => if path = "/api/feeds/" then some [] else none
  else
    if pattern = feedRoute.path then
      some fun path =>
        let rest := path.toList.drop 11
        if "/api/feeds/".toList.isPrefixOf path.toList ∧ rest ≠ [] ∧ '/' ∉ rest then some [String.ofList rest] else none
    else none

def feedsProxy : ProxyEnv := { sampleProxy with matchPath := matchOf feedsRegexp }

def longerQuota : Quota := .proxy feedsRoute.path "feed:2001:db8::1"

def shorterQuota : Quota := .proxy feedRoute.path "2001:db8::1"

def longerCall : LimiterCall := proxyCall feedsRoute { sampleRequest "/api/feeds/" with ip := longerQuota.ip }

def shorterCall : LimiterCall := proxyCall feedRoute { sampleRequest "/api/feeds/7" with ip := shorterQuota.ip }

theorem one_client_apart : Apart feedsProxy (.proxy feedsRoute.path shorterQuota.ip) shorterQuota ∧
    Apart feedsProxy shorterQuota (.auth shorterQuota.ip) := by
  constructor
  · refine (quotas_apart_iff feedsProxy (by decide) (by decide +kernel) (by decide +kernel)).mpr ⟨?_, ?_⟩
    · exact fun shares => shares.client_ne rfl
    · exact fun shares => shares.client_ne rfl
  · refine (quotas_apart_iff feedsProxy (by decide) (by decide +kernel) (by decide +kernel)).mpr ⟨?_, ?_⟩
    · exact fun shares => shares.client_ne rfl
    · exact fun shares => shares.client_ne rfl

def outcomesOf (quota : Quota) (config : LimiterConfig) : List (Option (Except Thrown (Option AppError))) :=
  (config.threadsOf quota.counts).map (·.program.outcome)

/-- Both patterns compile and both addresses are valid; the one request of a client on one route is refused once another
    client has made one on the other route. -/
theorem quotas_collide :
    ((resolveRoute feedsProxy "/api/feeds/" [feedsRoute, feedRoute]).toOption.bind id).map (·.route) = some feedsRoute ∧
    ((resolveRoute feedsProxy "/api/feeds/7" [feedsRoute, feedRoute]).toOption.bind id).map (·.route) = some feedRoute ∧
    isIP longerQuota.ip = true ∧ isIP shorterQuota.ip = true ∧ longerQuota ≠ shorterQuota ∧
    longerQuota.counts longerCall = true ∧ shorterQuota.counts shorterCall = true ∧
    counterKey longerCall.base 1 = counterKey shorterCall.base 1 ∧
    ¬ Apart feedsProxy shorterQuota longerQuota ∧
    ((faultyLimiters feedsProxy).run (.call shorterCall :: List.replicate 6 (.step 0 .none)) emptyCounters).map
      (outcomesOf shorterQuota) = some [some (.ok none)] ∧
    ((faultyLimiters feedsProxy).run ([.call longerCall] ++ List.replicate 6 (.step 0 .none) ++ [.call shorterCall] ++
      List.replicate 7 (.step 1 .none)) emptyCounters).map (outcomesOf shorterQuota) =
        some [some (.ok (some tooManyRequestsError))] := by
  have counted : longerQuota.counts longerCall = true := Quota.counts_proxyCall.mpr ⟨rfl, rfl⟩
  have counted' : shorterQuota.counts shorterCall = true := Quota.counts_proxyCall.mpr ⟨rfl, rfl⟩
  have same : counterKey longerCall.base 1 = counterKey shorterCall.base 1 := by decide +kernel
  refine ⟨by decide +kernel, by decide +kernel, by decide +kernel, by decide +kernel, by decide, counted, counted',
    same, fun apart => apart.keys _ _ 1 1 counted' counted same.symm, by decide +kernel, by decide +kernel⟩

end GatewayProof
