import AppGateway.Async.Realization
import AppGateway.Codec.JsonRoundTrip
import AppGateway.Handlers.Provenance
import AppGateway.Handlers.RevocationKeys
import AppGateway.Model.RedisTexts
import AppGateway.Tenants.Envelope

namespace GatewayProof

open Async Codec GatewayModel
open GatewayModel.Encoded

/-! Access tokens as texts -/

theorem AuthMethod.ofText?_text (method : AuthMethod) : AuthMethod.ofText? method.text = some method := by
  cases method <;> rfl

theorem nullable?_nullable (text : Option String) : nullable? (nullable text) = some text := by
  cases text <;> rfl

theorem mapM_text? (texts : List String) : (texts.map Json.string).mapM Json.text? = some texts := by
  induction texts with
  | nil => rfl
  | cons text texts ih => simp [Json.text?, ih]

theorem ofJson?_toJson (claims : JwtAccessTokenClaims) :
    JwtAccessTokenClaims.ofJson? claims.toJson = some claims := by
  have roles := mapM_text? claims.roles
  simp [JwtAccessTokenClaims.ofJson?, JwtAccessTokenClaims.toJson, Json.member?, Json.text?, Json.items?, roles,
    AuthMethod.ofText?_text, nullable?_nullable, Json.nat?_nat]

theorem jsonOfBytes?_jsonBytes (json : Json) : jsonOfBytes? (jsonBytes json) = some json := by
  rw [jsonOfBytes?, jsonBytes, utf8Text_utf8, String.toList_ofList, Json.parse_stringify]

theorem takeWhile_dot {front back : List Char} (none : '.' ∉ front) :
    ((front ++ '.' :: back).takeWhile fun c => c ≠ '.') = front ∧
      ((front ++ '.' :: back).dropWhile fun c => c ≠ '.') = '.' :: back := by
  have all : ∀ c ∈ front, (decide (c ≠ '.')) = true := by
    intro c member
    have other : c ≠ '.' := by
      rintro rfl
      exact none member
    simp [other]
  rw [List.takeWhile_append_of_pos all, List.dropWhile_append_of_pos all]
  simp

theorem readCompact_compact (jws : JwsEnv) (jwt : SignedJwt) : readCompact (jws.compact jwt) = some jwt := by
  let header : Json := .object [("alg", .string jws.jwtAlgorithm), ("kid", .string jwt.kid)]
  let first := Base64.encodeUrl (jsonBytes header)
  let second := Base64.encodeUrl (jsonBytes jwt.claims.toJson)
  have text : (jws.compact jwt).toList = first ++ '.' :: (second ++ '.' :: jws.signature (first ++ '.' :: second)) := by
    simp only [JwsEnv.compact, String.toList_ofList, List.append_assoc, List.cons_append, first, second, header]
  obtain ⟨front, rest⟩ := @takeWhile_dot first (second ++ '.' :: jws.signature (first ++ '.' :: second))
    (Base64.dot_notMem_encodeUrl _)
  obtain ⟨middle, -⟩ := @takeWhile_dot second (jws.signature (first ++ '.' :: second)) (Base64.dot_notMem_encodeUrl _)
  have kid : header.member? "kid" = some (.string jwt.kid) := rfl
  simp only [readCompact, text, front, rest, List.drop_succ_cons, List.drop_zero, middle, first, second,
    Base64.decode_encodeUrl, jsonOfBytes?_jsonBytes, Option.bind_eq_bind, Option.bind_some, kid, Json.text?,
    ofJson?_toJson]
  rfl

/-! Slots as texts -/

section Slots

variable {cache : CacheEnv}

theorem entryOf?_entryJson (entry : IdempotencyCacheEntry) : entryOf? (entryJson cache entry) = some entry := by
  cases entry with
  | pending => rfl
  | done result => simp [entryOf?, entryJson, Json.member?, Json.text?, readCompact_compact]

theorem decrypt_encrypt (gcm : GcmCorrect cache.crypto) (size : cache.idempotencyCacheKey.length = dekLengthBytes)
    {iv : Buffer} (nonce : iv.length = gcmIvLength) (plaintext : String) :
    decryptIdempotencyCacheValue cache (encryptIdempotencyCacheValue cache iv plaintext) = .ok plaintext := by
  have parts := @decryptWithKey_parts cache.crypto cache.idempotencyCacheKey iv (utf8 plaintext)
    cache.idempotencyCacheKey nonce (gcm.tag _ _ _ size nonce)
  rw [gcm.opens _ _ _ size nonce] at parts
  rw [decryptIdempotencyCacheValue, encryptIdempotencyCacheValue, encoded_decryptWithKey, fromBase64_toBase64, parts]
  simp [Except.map, utf8Text_utf8]

theorem encrypt_ne_empty {iv : Buffer} (nonce : iv.length = gcmIvLength) (plaintext : String) :
    encryptIdempotencyCacheValue cache iv plaintext ≠ "" := by
  intro empty
  have none : sealed cache.crypto cache.idempotencyCacheKey iv (utf8 plaintext) = [] := by
    rw [← fromBase64_toBase64 (sealed _ _ _ _)]
    have same : toBase64 (sealed cache.crypto cache.idempotencyCacheKey iv (utf8 plaintext)) = "" := empty
    rw [same]
    rfl
  have shorter := congrArg List.length none
  simp only [sealed, List.length_append, nonce, gcmIvLength, List.length_nil] at shorter
  omega

theorem readSlot_valueText (gcm : GcmCorrect cache.crypto) (size : cache.idempotencyCacheKey.length = dekLengthBytes)
    {iv : Buffer} (nonce : iv.length = gcmIvLength) (entry : IdempotencyCacheEntry) :
    readSlot cache (some (valueText cache iv (.slot entry))) = .ok (some (.slot entry)) := by
  have shown := @encrypt_ne_empty cache iv nonce (String.ofList (entryJson cache entry).stringify)
  simp [readSlot, valueText, Option.filter_some, shown, decrypt_encrypt gcm size nonce, Json.parse_stringify,
    entryOf?_entryJson]

end Slots

/-! Keys as texts -/

theorem text_revokedJti (jti : String) : (RedisKey.revokedJti jti).text = "revoked:jti:" ++ jti := rfl

theorem text_revokedRefresh (tokenHash : String) :
    (RedisKey.revokedRefresh tokenHash).text = "revoked:refresh:" ++ tokenHash := rfl

theorem text_idempotencyRefresh (idempotencyKey : String) :
    (RedisKey.idempotencyRefresh idempotencyKey).text = "idempotency:refresh:" ++ idempotencyKey := rfl

theorem RedisKey.text_inj {key key' : RedisKey} (same : key.text = key'.text) : key = key' := by
  cases key <;> cases key'
  all_goals
    simp only [text_revokedJti, text_revokedRefresh, text_idempotencyRefresh] at same
    have chars := congrArg String.toList same
    simp [String.toList_inj] at chars
  all_goals rw [chars]

theorem counter_ne_text (name : String) (key : RedisKey) : key.text ≠ "ratelimit:" ++ name := by
  intro same
  cases key
  all_goals
    simp only [text_revokedJti, text_revokedRefresh, text_idempotencyRefresh] at same
    have chars := congrArg String.toList same
    simp at chars

theorem text_not_counter (key : RedisKey) : "ratelimit:".toList.isPrefixOf key.text.toList = false := by
  cases key
  all_goals
    simp only [text_revokedJti, text_revokedRefresh, text_idempotencyRefresh]
    simp [List.isPrefixOf]

/-! The server of texts beside the store of values -/

def SuitsKey : RedisKey → RedisValue → Prop
  | .idempotencyRefresh _, .slot _ | .revokedJti _, .flag | .revokedRefresh _, .flag => True
  | _, _ => False

def Fitting : Effect → Prop
  | .redisSet key value _ | .redisSetNx key value _ => SuitsKey key value
  | _ => True

/-- From now on every key reads in the one as in the other. -/
structure Stores (cache : CacheEnv) (state : TextState) (state' : GatewayState) : Prop where
  rest : state' = { state.gateway with redis := state'.redis }
  reads : ∀ later, state.gateway.clock ≤ later → ∀ key,
    readValue cache key (state.texts.get later key.text) = .ok (state'.redis.get later key)
  held : ∀ later, state.gateway.clock ≤ later → ∀ key,
    (state.texts.get later key.text).isSome = (state'.redis.get later key).isSome

section Stores

variable {cache : CacheEnv} {state : TextState} {state' : GatewayState}

theorem Stores.clock (stores : Stores cache state state') : state'.clock = state.gateway.clock := by
  rw [stores.rest]

theorem readValue_valueText (gcm : GcmCorrect cache.crypto) (size : cache.idempotencyCacheKey.length = dekLengthBytes)
    {iv : Buffer} (nonce : iv.length = gcmIvLength) {key : RedisKey} {value : RedisValue} (fits : SuitsKey key value) :
    readValue cache key (some (valueText cache iv value)) = .ok (some value) := by
  cases key with
  | idempotencyRefresh name =>
    cases value with
    | flag => exact fits.elim
    | slot entry => exact readSlot_valueText gcm size nonce entry
  | revokedJti jti | revokedRefresh tokenHash =>
    cases value with
    | flag => rfl
    | slot entry => exact fits.elim

theorem readValue_none (key : RedisKey) : readValue cache key none = .ok none := by
  cases key <;> rfl

theorem Stores.set (stores : Stores cache state state') {key : RedisKey} {value : RedisValue} {text : String}
    (reads : readValue cache key (some text) = .ok (some value)) (expiresAt : Nat) :
    Stores cache { state with texts := state.texts.set key.text text expiresAt }
      { state' with redis := state'.redis.set key value expiresAt } := by
  have both : ∀ later, state.gateway.clock ≤ later → ∀ other : RedisKey,
      readValue cache other ((state.texts.set key.text text expiresAt).get later other.text) =
        .ok ((state'.redis.set key value expiresAt).get later other) ∧
      ((state.texts.set key.text text expiresAt).get later other.text).isSome =
        ((state'.redis.set key value expiresAt).get later other).isSome := by
    intro later after other
    by_cases same : other = key
    · subst same
      rw [Store.Texts.get_set_same, Store.Expiring.get_set_same]
      split
      · exact ⟨reads, rfl⟩
      · exact ⟨readValue_none other, rfl⟩
    · have apart : other.text ≠ key.text := fun equal => same (RedisKey.text_inj equal)
      rw [Store.Texts.set, Store.Texts.get_update_other _ _ _ apart, Store.Expiring.get_set_other _ _ _ _ same]
      exact ⟨stores.reads later after other, stores.held later after other⟩
  refine ⟨?_, fun later after other => (both later after other).1, fun later after other => (both later after other).2⟩
  rw [stores.rest]

theorem Stores.del (stores : Stores cache state state') (key : RedisKey) :
    Stores cache { state with texts := state.texts.del key.text } { state' with redis := state'.redis.del key } := by
  have both : ∀ later, state.gateway.clock ≤ later → ∀ other : RedisKey,
      readValue cache other ((state.texts.del key.text).get later other.text) =
        .ok ((state'.redis.del key).get later other) ∧
      ((state.texts.del key.text).get later other.text).isSome = ((state'.redis.del key).get later other).isSome := by
    intro later after other
    by_cases same : other = key
    · subst same
      rw [Store.Texts.get_del_same, Store.Expiring.get_del_same]
      exact ⟨readValue_none other, rfl⟩
    · have apart : other.text ≠ key.text := fun equal => same (RedisKey.text_inj equal)
      rw [Store.Texts.del, Store.Texts.get_update_other _ _ _ apart, Store.Expiring.get_del_other _ _ same]
      exact ⟨stores.reads later after other, stores.held later after other⟩
  refine ⟨?_, fun later after other => (both later after other).1, fun later after other => (both later after other).2⟩
  rw [stores.rest]

theorem Stores.free (stores : Stores cache state state') (key : RedisKey) :
    (state.texts.get state.gateway.clock key.text = none ∧ state'.redis.get state'.clock key = none) ∨
    ∃ text value, state.texts.get state.gateway.clock key.text = some text ∧
      state'.redis.get state'.clock key = some value := by
  have held := stores.held state.gateway.clock (Nat.le_refl _) key
  rw [stores.clock]
  cases texts : state.texts.get state.gateway.clock key.text with
  | none =>
    cases values : state'.redis.get state.gateway.clock key with
    | none => exact .inl ⟨rfl, rfl⟩
    | some value => simp [texts, values] at held
  | some text =>
    cases values : state'.redis.get state.gateway.clock key with
    | none => simp [texts, values] at held
    | some value => exact .inr ⟨text, value, rfl, rfl⟩

theorem Stores.beside (stores : Stores cache state state') {gateway : GatewayState}
    (clock : gateway.clock = state.gateway.clock) :
    Stores cache { state with gateway } { gateway with redis := state'.redis } where
  rest := rfl
  reads := fun later after => stores.reads later (by rw [← clock]; exact after)
  held := fun later after => stores.held later (by rw [← clock]; exact after)

def OffRedis : Effect → Prop
  | .redisGet _ | .redisSet .. | .redisSetNx .. | .redisDel _ => False
  | _ => True

theorem offRedis_cases (effect : Effect) : OffRedis effect ∨ (∃ key, effect = .redisGet key) ∨
    (∃ key value ttl, effect = .redisSet key value ttl) ∨ (∃ key value ttl, effect = .redisSetNx key value ttl) ∨
    ∃ key, effect = .redisDel key := by
  cases effect <;> simp [OffRedis]

theorem insert_offRedis (gateway : GatewayState) (redis : Store.Expiring RedisKey RedisValue) (values : NewRefreshToken)
    (id : String) :
    GatewayState.insert { gateway with redis } values id =
        ((gateway.insert values id).1, { (gateway.insert values id).2 with redis }) ∧
      (gateway.insert values id).2.clock = gateway.clock := by
  unfold GatewayState.insert
  split
  · split <;> exact ⟨rfl, rfl⟩
  · exact ⟨rfl, rfl⟩

theorem respond_offRedis {env : Env} {choice : Choice} {gateway after : GatewayState} {effect : Effect}
    {reply : Except Thrown effect.Reply} (off : OffRedis effect) (redis : Store.Expiring RedisKey RedisValue)
    (responded : GatewayModel.respond env choice gateway effect = some (reply, after)) :
    GatewayModel.respond env choice { gateway with redis } effect = some (reply, { after with redis }) ∧
      after.clock = gateway.clock := by
  cases effect with
  | redisGet | redisSet | redisSetNx | redisDel => exact off.elim
  | selectLatestActiveByUser userId =>
    simp only [GatewayModel.respond] at responded ⊢
    split at responded
    · cases responded
      exact ⟨rfl, rfl⟩
    · obtain ⟨picked, chosen, same⟩ := Option.map_eq_some_iff.mp responded
      cases same
      simp [chosen]
  | insertRefreshToken values =>
    simp only [GatewayModel.respond] at responded ⊢
    split at responded
    · cases responded
    · rename_i new
      obtain ⟨inserted, clock⟩ := insert_offRedis gateway redis values choice.random
      rw [Option.some.inj responded] at inserted clock
      rw [if_neg new, inserted]
      exact ⟨rfl, clock⟩
  | decryptEmail encoded tenantId =>
    simp only [GatewayModel.respond] at responded ⊢
    split at responded <;> cases responded <;> exact ⟨rfl, rfl⟩
  | sleepUntil wakeAt =>
    simp only [GatewayModel.respond] at responded ⊢
    split at responded
    · cases responded
    · rename_i due
      cases responded
      simp [due]
  | randomString =>
    simp only [GatewayModel.respond] at responded ⊢
    split at responded
    · cases responded
    · rename_i new
      cases responded
      simp [new]
  | _ =>
    cases responded
    exact ⟨rfl, rfl⟩

theorem respond_beside {env : Env} {choice : TextChoice} {effect : Effect} (off : OffRedis effect) :
    Encoded.respond cache env choice state effect =
      (GatewayModel.respond env choice.chosen state.gateway effect).map fun (reply, gateway) =>
        (reply, { state with gateway }) := by
  cases effect with
  | redisGet | redisSet | redisSetNx | redisDel => exact off.elim
  | _ => rfl

theorem Stores.respond (gcm : GcmCorrect cache.crypto) (size : cache.idempotencyCacheKey.length = dekLengthBytes)
    (stores : Stores cache state state') {env : Env} {choice : TextChoice} {effect : Effect} (fitting : Fitting effect)
    {reply : Except Thrown effect.Reply} {after : TextState}
    (responded : Encoded.respond cache env choice state effect = some (reply, after)) :
    ∃ after', GatewayModel.respond env choice.chosen state' effect = some (reply, after') ∧
      Stores cache after after' := by
  have expiry : ∀ ttl, state'.expiry ttl = state.gateway.expiry ttl := by
    intro ttl
    simp only [GatewayState.expiry, stores.clock]
  rcases offRedis_cases effect with off | ⟨key, rfl⟩ | ⟨key, value, ttl, rfl⟩ | ⟨key, value, ttl, rfl⟩ | ⟨key, rfl⟩
  · rw [respond_beside off] at responded
    obtain ⟨⟨reply', gateway⟩, inner, same⟩ := Option.map_eq_some_iff.mp responded
    cases same
    obtain ⟨beside, clock⟩ := respond_offRedis off state'.redis inner
    rw [← stores.rest] at beside
    exact ⟨_, beside, stores.beside clock⟩
  · cases responded
    have reads := stores.reads state.gateway.clock (Nat.le_refl _) key
    refine ⟨state', ?_, stores⟩
    rw [reads, ← stores.clock]
    rfl
  · simp only [Encoded.respond] at responded
    split at responded
    · rename_i nonce
      cases responded
      refine ⟨_, rfl, ?_⟩
      rw [expiry]
      exact stores.set (readValue_valueText gcm size nonce fitting) _
    · cases responded
  · simp only [Encoded.respond] at responded
    split at responded
    · rename_i nonce
      rcases stores.free key with ⟨free, free'⟩ | ⟨text, kept, taken, taken'⟩
      · simp only [Store.Texts.setNx, free] at responded
        cases responded
        refine ⟨_, by simp only [GatewayModel.respond, Store.Expiring.setNx, free']; rfl, ?_⟩
        rw [expiry]
        exact stores.set (readValue_valueText gcm size nonce fitting) _
      · simp only [Store.Texts.setNx, taken] at responded
        cases responded
        exact ⟨state', by simp only [GatewayModel.respond, Store.Expiring.setNx, taken'], stores⟩
    · cases responded
  · cases responded
    exact ⟨_, rfl, stores.del key⟩

theorem Stores.exec (gcm : GcmCorrect cache.crypto) (size : cache.idempotencyCacheKey.length = dekLengthBytes)
    (stores : Stores cache state state') {env : Env} {choice : TextChoice} {effect : Effect} (fitting : Fitting effect)
    {reply : Except Thrown effect.Reply} {after : TextState}
    (executed : Encoded.exec cache env effect choice state = some (reply, after)) :
    ∃ after', GatewayModel.exec env effect choice.chosen state' = some (reply, after') ∧ Stores cache after after' := by
  unfold Encoded.exec at executed
  unfold GatewayModel.exec
  cases fault : choice.chosen.fault with
  | none =>
    rw [fault] at executed
    exact stores.respond gcm size fitting executed
  | lost =>
    simp only [fault] at executed ⊢
    split at executed
    · cases executed
    · rename_i remote
      cases executed
      exact ⟨state', by rw [if_neg remote], stores⟩
  | unacknowledged =>
    simp only [fault] at executed ⊢
    split at executed
    · cases executed
    · rename_i remote
      obtain ⟨⟨reply', later⟩, responded, same⟩ := Option.map_eq_some_iff.mp executed
      cases same
      obtain ⟨after', performed, still⟩ := stores.respond gcm size fitting responded
      exact ⟨after', by rw [if_neg remote, performed]; rfl, still⟩

def seenEvent : TextEvent → External
  | .gateway event => event
  | .counter .. => .elapse 0

theorem external_clock_le (event : External) (gateway : GatewayState) :
    gateway.clock ≤ (GatewayModel.external event gateway).clock := by
  cases event with
  | elapse ms => exact Nat.le_add_right _ _
  | setActive userId isActive => exact Nat.le_refl _

theorem external_with (event : External) (gateway : GatewayState) (redis : Store.Expiring RedisKey RedisValue) :
    GatewayModel.external event { gateway with redis } = { GatewayModel.external event gateway with redis } := by
  cases event <;> rfl

theorem Stores.external (stores : Stores cache state state') (event : TextEvent) :
    Stores cache (Encoded.external event state) (GatewayModel.external (seenEvent event) state') := by
  cases event with
  | gateway event =>
    have later := external_clock_le event state.gateway
    have same : (GatewayModel.external event state').redis = state'.redis := by cases event <;> rfl
    refine ⟨?_, fun instant after key => ?_, fun instant after key => ?_⟩
    · show GatewayModel.external event state' = { GatewayModel.external event state.gateway with
        redis := (GatewayModel.external event state').redis }
      rw [same, ← external_with, ← stores.rest]
    · show readValue cache key (state.texts.get instant key.text) =
        .ok ((GatewayModel.external event state').redis.get instant key)
      rw [same]
      exact stores.reads instant (Nat.le_trans later after) key
    · show (state.texts.get instant key.text).isSome =
        ((GatewayModel.external event state').redis.get instant key).isSome
      rw [same]
      exact stores.held instant (Nat.le_trans later after) key
  | counter name command =>
    have kept : ∀ instant (key : RedisKey), Store.Texts.get (Function.update state.texts ("ratelimit:" ++ name)
        (command (state.texts ("ratelimit:" ++ name)))) instant key.text = state.texts.get instant key.text :=
      fun instant key => Store.Texts.get_update_other _ _ _ (counter_ne_text name key)
    refine ⟨?_, fun instant after key => ?_, fun instant after key => ?_⟩
    · exact stores.rest
    · exact (congrArg (readValue cache key) (kept instant key)).trans (stores.reads instant after key)
    · exact (congrArg Option.isSome (kept instant key)).trans (stores.held instant after key)

end Stores

/-! The handlers -/

section Fitting

theorem Routine.fitting {effect : Effect} (routine : Routine effect) : Fitting effect := by
  cases effect with
  | redisSet key value ttl => cases key <;> cases value <;> trivial
  | redisSetNx => exact routine.elim
  | _ => trivial

theorem HandlerCall.code_fitting (env : Env) (call : HandlerCall) : (call.code env).Uses Fitting := by
  cases call with
  | login client email password =>
    exact (login_routine env client email password).weaken fun _ routine => routine.fitting
  | refresh client refreshToken idempotencyKey =>
    refine refresh_uses (fun _ routine => routine.fitting) env client refreshToken idempotencyKey (fun _ => trivial) ?_
    exact fun _ _ => ⟨fun _ => trivial, trivial, fun _ _ => trivial⟩
  | logout bearer refreshToken =>
    exact logout_uses (fun _ routine => routine.fitting) env bearer refreshToken fun _ _ => trivial

end Fitting

/-- The handlers over the texts do what they do over the values. -/
theorem texts_realize {cache : CacheEnv} (gcm : GcmCorrect cache.crypto)
    (size : cache.idempotencyCacheKey.length = dekLengthBytes) (env : Env) :
    (Encoded.processes cache env (HandlerCall.code env)).Realizes (handlers env) (fun _ => True) Fitting id
      TextChoice.chosen seenEvent id (Stores cache) where
  uses := fun made _ => HandlerCall.code_fitting env made
  code := fun _ _ => (Program.mapped_id _).symm
  exec := fun _ _ _ _ _ _ fitting stores executed => stores.exec gcm size fitting executed
  external := fun event _ _ stores => stores.external event

theorem freshTexts_stores (cache : CacheEnv) (clock : Nat) (users : List UserRow) (counters : Store.Texts) :
    (freshTexts clock users counters : TextConfig HandlerCall Answer).Mirrors Fitting id id (Stores cache)
      (freshGateway clock users) := by
  have none_kept : ∀ instant (key : RedisKey),
      (freshTexts clock users counters : TextConfig HandlerCall Answer).state.texts.get instant key.text = none := by
    intro instant key
    have nothing : (freshTexts clock users counters : TextConfig HandlerCall Answer).state.texts key.text = none :=
      if_neg (by rw [text_not_counter key]; exact Bool.false_ne_true)
    rw [Store.Texts.get, nothing]
    rfl
  refine ⟨.nil, rfl, fun instant _ key => ?_, fun instant _ key => ?_⟩
  · rw [none_kept, readValue_none]
    rfl
  · rw [none_kept]
    rfl

theorem threads_eq {threads : List (Thread Effect.Reply Thrown HandlerCall Answer)} {threads' : List HandlerThread}
    (mirrors : List.Forall₂ (Thread.Mirrors Fitting id id) threads threads') : threads' = threads := by
  induction mirrors with
  | nil => rfl
  | @cons thread thread' _ _ first _ ih =>
    obtain ⟨call, past, program, alive⟩ := thread
    obtain ⟨call', past', program', alive'⟩ := thread'
    obtain ⟨same, history, code, living, _⟩ := first
    simp only [Program.mapped_id, id] at same history code living
    rw [ih, same, history, code, living]

/-- Whatever becomes of requests to login, refresh and logout over a Redis server of texts, with counters beside the
    sessions, becomes of them in the gateway whose slots are values: every awaited reply and every answer. In particular
    no slot it reads fails to decrypt or to parse. -/
theorem redis_texts_refine {env : Env} {cache : CacheEnv} (gcm : GcmCorrect cache.crypto)
    (size : cache.idempotencyCacheKey.length = dekLengthBytes) {clock : Nat} {users : List UserRow}
    {counters : Store.Texts} {labels : List (Label TextChoice TextEvent HandlerCall)}
    {after : TextConfig HandlerCall Answer}
    (ran : (Encoded.processes cache env (HandlerCall.code env)).run labels (freshTexts clock users counters) =
      some after) :
    ∃ after', (handlers env).run (labels.map (Label.under id TextChoice.chosen seenEvent)) (freshGateway clock users) =
        some after' ∧
      after'.threads = after.threads ∧ Stores cache after.state after'.state := by
  obtain ⟨after', ran', mirrors⟩ :=
    (texts_realize gcm size env).run (fun _ _ => trivial) (freshTexts_stores cache clock users counters) ran
  exact ⟨after', ran', threads_eq mirrors.threads, mirrors.state⟩

def sampleCache : CacheEnv where
  crypto := idealCipher
  jws := { jwtAlgorithm := "RS256", signature := fun _ => "signature".toList }
  idempotencyCacheKey := List.replicate 32 9

def overTexts (labels : List HandlerLabel) : List (Label TextChoice TextEvent HandlerCall) :=
  labels.map (Label.under id (fun chosen => ⟨chosen, List.replicate 12 7⟩) TextEvent.gateway)

def storedPair (config : HandlerConfig) : Option CachedRefreshResult :=
  match config.state.redis.get 0 (.idempotencyRefresh "k") with
  | some (.slot (.done result)) => some result
  | _ => none

theorem storedPair_spec {config : HandlerConfig} {result : CachedRefreshResult}
    (stored : storedPair config = some result) :
    config.state.redis.get 0 (.idempotencyRefresh "k") = some (.slot (.done result)) := by
  unfold storedPair at stored
  split at stored
  · rename_i found
    cases stored
    exact found
  · cases stored

theorem redis_texts_refine_refreshed : ∃ after result,
    (Encoded.processes sampleCache sampleEnv (HandlerCall.code sampleEnv)).run (overTexts (retriedRefresh.take 32))
      (freshTexts 0 [sampleUser "u" "u@example.com"] fun _ => none) = some after ∧
    result.refreshToken = "t1" ∧
    readValue sampleCache (.idempotencyRefresh "k") (after.state.texts.get 0 "idempotency:refresh:k") =
      .ok (some (.slot (.done result))) := by
  have ran : ((Encoded.processes sampleCache sampleEnv (HandlerCall.code sampleEnv)).run
      (overTexts (retriedRefresh.take 32)) (freshTexts 0 [sampleUser "u" "u@example.com"] fun _ => none)).any
      (fun config => config.state.gateway.clock = 0) = true := by decide +kernel
  have stored : ((handlers sampleEnv).run (retriedRefresh.take 32)
    (freshGateway 0 [sampleUser "u" "u@example.com"])).any
      (fun config => (storedPair config).any fun result => result.refreshToken = "t1") = true := by decide +kernel
  obtain ⟨after, passed, clock⟩ := (Option.any_eq_true _ _).mp ran
  obtain ⟨after', passed', _, stores⟩ := redis_texts_refine (AesGcm.correct idealCipher_aes) (by decide) passed
  have same : (overTexts (retriedRefresh.take 32)).map (Label.under id TextChoice.chosen seenEvent) =
      retriedRefresh.take 32 := rfl
  rw [same] at passed'
  rw [passed', Option.any_some] at stored
  obtain ⟨result, found, named⟩ := (Option.any_eq_true _ _).mp stored
  refine ⟨after, result, passed, of_decide_eq_true named, ?_⟩
  have now : after.state.gateway.clock ≤ 0 := Nat.le_of_eq (of_decide_eq_true clock)
  have read := stores.reads 0 now (.idempotencyRefresh "k")
  rw [storedPair_spec found] at read
  exact read

end GatewayProof
